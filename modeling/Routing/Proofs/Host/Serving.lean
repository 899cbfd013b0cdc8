import Routing.Proofs.Handler.Layers

/-!
# What serving can change

Handing a table to a host and calling the handlers that it was given change hosts, load controllers,
read the clock and count calls.  A relation that all of these keep is said to `Span` serving, and
then every step of it moves within the relation: `Spans.mount` and `Spans.callHandler`.
-/

namespace Routing.Application

variable {R : Application → Application → Prop} {app : Application}

theorem run_hostNamed_of_get? {host : Text} {h : Host} (hh : Assoc.get? host app.hosts = some h) :
    (hostNamed host).run app = ⟨[], app, .ok h⟩ := by
  simp [hostNamed, hh]

theorem run_hostNamed_of_get?_eq_none {host : Text} (hh : Assoc.get? host app.hosts = none) :
    (hostNamed host).run app = ⟨[], app, .error (.unknownHost host)⟩ := by
  simp [hostNamed, hh]

/-- A layer leads no further than what is inside it, what is counted and the readings of the clock
do. -/
theorem moves_callLayer (hr : ∀ app, R app app) (ht : ∀ a b c, R a b → R b c → R a c)
    (hcount : ∀ plugin label action, Step.Moves R (count plugin label action))
    (htick : Step.Moves R tick) {inner : Step Application Value} (h : Step.Moves R inner)
    (action : Text) (layer : Layer) : Step.Moves R (callLayer action layer inner) := by
  have hreport : ∀ (r : Reporting) (wanted : Bool) (text : Text),
      Step.Moves R (if wanted then report layer.plugin r text else pure ()) := by
    intro r wanted text app
    cases wanted with
    | true => exact (state_report layer.plugin r text app).symm ▸ hr app
    | false => exact hr app
  have hreported : ∀ r, Step.Moves R (reported layer.plugin r action inner) := by
    intro r
    rw [reported_eq]
    refine (hreport r _ _).bind ht fun _ => htick.bind ht fun start => ?_
    refine h.bind ht fun result => htick.bind ht fun stop => ?_
    exact (hreport r _ _).bind ht fun _ => Step.moves_pure hr result
  refine (Step.moves_read hr).bind ht fun app => ?_
  dsimp only
  split
  · unfold performLayer
    split
    · exact h
    · exact (hcount _ _ _).bind ht fun _ => h
    · refine (Step.moves_ofExcept hr _).bind ht fun settings => ?_
      dsimp only
      split
      · exact hreported _
      · exact h
  · exact h

theorem moves_call (hr : ∀ app, R app app) (ht : ∀ a b c, R a b → R b c → R a c)
    (hcount : ∀ plugin label action, Step.Moves R (count plugin label action))
    (htick : Step.Moves R tick) (hcache : ∀ app cache, R app (cachePart.set cache app))
    (h : Handler) (args : Arguments) : Step.Moves R (call h args) := by
  unfold call
  induction h.layers with
  | nil => exact fun app => hcache app _
  | cons layer layers ih => exact moves_callLayer hr ht hcount htick ih h.action layer

theorem reads_hostNamed (host : Text) : Step.Reads (hostNamed host) := by
  refine Step.reads_read.bind fun app => ?_
  split
  · exact Step.reads_pure _
  · exact Step.reads_fail _

theorem moves_callHandler (hr : ∀ app, R app app) (ht : ∀ a b c, R a b → R b c → R a c)
    (hcount : ∀ plugin label action, Step.Moves R (count plugin label action))
    (htick : Step.Moves R tick) (hcache : ∀ app cache, R app (cachePart.set cache app))
    (host : Text) (index : Int) (args : Arguments) :
    Step.Moves R (callHandler host index args) := by
  refine ((reads_hostNamed host).moves hr).bind ht fun g => ?_
  split
  · exact Step.moves_pure hr _
  · exact (moves_call hr ht hcount htick hcache _ args).bind ht fun v => Step.moves_pure hr _

/-- What serving does is kept. -/
structure Spans (R : Application → Application → Prop) : Prop where
  refl (app : Application) : R app app
  trans (app app' app'' : Application) : R app app' → R app' app'' → R app app''
  hosts (app : Application) (hosts : Assoc Host) : R app { app with hosts }
  clock (app : Application) (clock : Clock) : R app { app with clock }
  controllers (app : Application) (cache : ControllerCache) : R app (cachePart.set cache app)
  counted (app : Application) (plugin : Text) (label : Value) (action : Text) :
    R app { app with router := app.router.counted plugin label action }

namespace Spans

theorem hostNamed (h : Spans R) (host : Text) : Step.Moves R (hostNamed host) :=
  (reads_hostNamed host).moves h.refl

theorem onHost (h : Spans R) (host : Text) (f : Host → Except Fault Host) :
    Step.Moves R (onHost host f) := by
  refine (h.hostNamed host).bind h.trans fun g => ?_
  exact (Step.moves_ofExcept h.refl _).bind h.trans fun g' app => h.hosts app _

theorem serveEntry (h : Spans R) (host : Text) (entry : Entry) :
    Step.Moves R (serveEntry host entry) := by
  cases entry with
  | folder folder =>
    have hfolder : Step.Moves R (serveFolder host folder) := by
      refine (Step.moves_read h.refl).bind h.trans fun app => ?_
      refine (Step.moves_ofExcept h.refl _).bind h.trans fun found => ?_
      split
      · exact (h.onHost host _).bind h.trans fun _ => Step.moves_log h.refl _ _
      · exact Step.moves_fail h.refl _
    exact hfolder.bind h.trans fun _ => Step.moves_pure h.refl []
  | endpoint e =>
    have hmake : Step.Moves R (makeHandler e) := fun app => by
      rw [run_makeHandler]
      exact h.controllers app _
    exact hmake.bind h.trans fun g => (h.onHost host _).bind h.trans fun _ =>
      Step.moves_pure h.refl _

end Spans

/-- Exposes the router in a host and has the host serve these entries. -/
def mount (host : Text) (entries : List Entry) : Step Application (List Route) := do
  let router := (← Step.read).router
  onHost host (Host.expose router.options.templateVar)
  let routes ← Step.flatMapList (serveEntry host) entries
  Step.log .debug ("Mounted ".toList ++ Text.ofNat routes.length ++
    " handler routes on <host ".toList ++ host ++ ">".toList)
  return routes

theorem deploy_eq (host : Text) :
    deploy host = hostNamed host >>= fun _ => entries >>= mount host := rfl

namespace Spans

theorem mount (h : Spans R) (host : Text) (es : List Entry) : Step.Moves R (mount host es) := by
  refine (Step.moves_read h.refl).bind h.trans fun app => ?_
  refine (h.onHost host _).bind h.trans fun _ => ?_
  refine (Step.moves_flatMapList h.refl h.trans (h.serveEntry host) es).bind h.trans fun _ => ?_
  exact (Step.moves_log h.refl _ _).bind h.trans fun _ => Step.moves_pure h.refl _

theorem callHandler (h : Spans R) (host : Text) (index : Int) (args : Arguments) :
    Step.Moves R (callHandler host index args) := by
  refine moves_callHandler h.refl h.trans ?_ ?_ h.controllers host index args
  · intro plugin label action app
    rw [run_count]
    exact h.counted app plugin label action
  · intro app
    rw [state_tick]
    exact h.clock app _

end Spans

end Routing.Application
