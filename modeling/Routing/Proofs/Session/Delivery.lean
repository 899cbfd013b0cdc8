import Routing.Proofs.Host.Serving
import Routing.Proofs.Plugin.Hearing
import Routing.Proofs.Session.Calls
import Routing.Proofs.Table.Watched

/-!
# What plugins hear in a session

Most of what a router is asked leaves its table alone, and its plugins but for the calls that they
count: such steps are `Steady`.  The others have the entries of the table, or attach a plugin, which
no other plugin hears of.  So every call delivers (`delivers_perform`), and a plugin has heard of the
entries of a table once each and in order, unless a failed attempt had been announced to it before.
Main statement: `entries_heard_once_unless_refused`.
-/

namespace Routing.Application

variable {app app' : Application} {name : Text}

/-! ### Steps that no plugin hears of -/

/-- The table is the same, and so are the attached plugins but for the calls that they have counted.
-/
structure Steady (app app' : Application) : Prop where
  table : app'.router.table = app.router.table
  names : app'.router.plugins.map Plugin.name = app.router.plugins.map Plugin.name
  plugin? (name : Text) : (app'.router.plugin? name).map Plugin.uncounted =
    (app.router.plugin? name).map Plugin.uncounted

theorem steady_of_eq (ht : app'.router.table = app.router.table)
    (hp : app'.router.plugins = app.router.plugins) : Steady app app' := by
  refine ⟨ht, by rw [hp], fun name => ?_⟩
  unfold Router.plugin?
  rw [hp]

theorem steady_refl (app : Application) : Steady app app := ⟨rfl, rfl, fun _ => rfl⟩

theorem steady_trans (app app' app'' : Application) (h : Steady app app') (h' : Steady app' app'') :
    Steady app app'' :=
  ⟨h'.table.trans h.table, h'.names.trans h.names,
    fun name => (h'.plugin? name).trans (h.plugin? name)⟩

theorem heard_of_plugin? {p : Plugin} (h : app.router.plugin? name = some p) :
    heard name app = p.seen := by
  unfold Router.plugin? at h
  unfold heard Plugin.heardIn
  rw [h]
  rfl

theorem untouched_of_steady (h : Steady app app') (name : Text) :
    Table.Untouched tablePart (Attends name) (heard name) app app' := by
  rintro ⟨hn, p, hp⟩
  have hq := h.plugin? name
  rw [hp, Option.map_some, Option.map_eq_some_iff] at hq
  obtain ⟨q, hq, hc⟩ := hq
  have hseen : q.seen = p.seen := (congrArg Plugin.seen hc :)
  refine ⟨⟨h.names ▸ hn, q, hq⟩, h.table, ?_⟩
  rw [heard_of_plugin? hq, heard_of_plugin? hp, hseen]

/-- All that a plugin hears of in a session on a router. -/
abbrev Delivers {α : Type} (name : Text) (x : Step Application α) : Prop :=
  Table.Delivers tablePart (Attends name) (heard name) x

theorem delivers_of_steady {α : Type} {x : Step Application α} (h : Step.Moves Steady x)
    (name : Text) : Delivers name x :=
  Table.delivers_of_moves fun app => untouched_of_steady (h app) name

/-! ### Serving -/

theorem spans_steady : Spans Steady where
  refl := steady_refl
  trans := steady_trans
  hosts _ _ := steady_of_eq rfl rfl
  clock _ _ := steady_of_eq rfl rfl
  controllers _ _ := steady_of_eq rfl rfl
  counted app plugin label action := by
    obtain ⟨plugins, hp⟩ := app.router.counted_eq plugin label action
    have hsame := app.router.uncounted_plugin?_counted plugin label action
    exact ⟨by rw [hp], app.router.map_name_counted _ _ _, hsame⟩

theorem delivers_deploy (name host : Text) : Delivers name (deploy host) := by
  rw [deploy_eq]
  refine (delivers_of_steady (spans_steady.hostNamed host) name).bind fun _ => ?_
  exact (attended_entries name).delivers_access.bind fun es =>
    delivers_of_steady (spans_steady.mount host es) name

/-! ### Plugins -/

theorem steady_configure (plugin : Text) (given : Settings) :
    Step.Moves Steady (configure plugin given) := by
  intro app
  rcases state_configure_cases plugin given app with he | ⟨p, store, -, -, he⟩ <;> rw [he]
  · exact steady_refl app
  · exact steady_of_eq rfl rfl

theorem steady_setEnabled (action plugin : Text) (on : Bool) :
    Step.Moves Steady (setEnabled action plugin on) := by
  intro app
  rcases state_setEnabled action plugin on app with he | ⟨p, -, he⟩ <;> rw [he]
  · exact steady_refl app
  · exact steady_of_eq rfl rfl

/-- A plugin that is attached hears of nothing when another is. -/
theorem delivers_attach (name : Text) (plugin : Value) (given : Settings) (sink : Option Sink) :
    Delivers name (attach plugin given sink) := by
  refine Table.delivers_of_moves fun app => ?_
  rcases state_attach plugin given sink app with hs | ⟨cls, hcls, hs | ⟨store, seen, hc, hs⟩⟩ <;>
    rw [hs]
  · exact Table.untouched_refl _ _ _ app
  · exact untouched_of_steady (steady_of_eq rfl rfl) name
  · rintro ⟨hn, p, hp⟩
    have hp' := Router.plugin?_concat_of_some (q := ⟨cls, sinkFor cls given sink, seen, []⟩) hp
    refine ⟨⟨?_, p, hp'⟩, rfl, ?_⟩
    · exact Router.nodup_concat hn hcls
    · exact (heard_of_plugin? hp').trans (heard_of_plugin? hp).symm

/-! ### Calls -/

theorem delivers_perform (name : Text) (c : Call) : Delivers name c.perform := by
  have hdone : ∀ answer : Answer, Delivers name (pure answer : Step Application Answer) :=
    fun answer => delivers_of_steady (Step.moves_pure steady_refl answer) name
  have hentries : Delivers name entries := (attended_entries name).delivers_access
  have hwalk : Delivers name walk := hentries.mapFault fun fault hf => by
    obtain ⟨message, rfl⟩ := hf
    exact ⟨message, rfl⟩
  have hread : ∀ {α : Type} (f : Application → Except Fault α),
      Delivers name (Step.read >>= fun app => Step.ofExcept (f app)) := fun f =>
    delivers_of_steady ((Step.moves_read steady_refl).bind steady_trans fun app =>
      Step.moves_ofExcept steady_refl _) name
  cases c with
  | entries => exact hentries.bind fun es => hdone _
  | actions =>
    refine Table.Delivers.bind ?_ fun names => hdone _
    exact hentries.bind fun es => delivers_of_steady (Step.moves_pure steady_refl _) name
  | endpointsOf action =>
    refine Table.Delivers.bind ?_ fun es => hdone _
    exact hwalk.bind fun es => delivers_of_steady (Step.moves_pure steady_refl _) name
  | urlOf action params =>
    exact (hwalk.bind fun es => hread _).bind fun url => hdone _
  | fillPattern pattern args => exact (hread _).bind fun url => hdone _
  | deploy host => exact (delivers_deploy name host).bind fun routes => hdone _
  | callHandler host index args =>
    have hcall := spans_steady.callHandler host index args
    exact (delivers_of_steady hcall name).bind fun v => hdone _
  | rewrite files =>
    have hmodify : Step.Moves Steady (Step.modify fun app => { app with files }) :=
      fun app => steady_of_eq rfl rfl
    exact (delivers_of_steady hmodify name).bind fun _ => hdone _
  | attach plugin given sink => exact (delivers_attach name plugin given sink).bind fun _ => hdone _
  | configure plugin given =>
    exact (delivers_of_steady (steady_configure plugin given) name).bind fun _ => hdone _
  | setEnabled action plugin on =>
    exact (delivers_of_steady (steady_setEnabled action plugin on) name).bind fun _ => hdone _

/-- Every attempt at a table announces its entries once each and in order, after all of them have
been compiled, until a hook refuses one; what was announced before is not taken back.  So after a
session each hook has heard of the entries of the table once each and in order, and of nothing else
if and only if no attempt has left something behind in which an entry was refused.  This goes for a
table by itself and for each plugin of a router. -/
theorem entries_heard_once_unless_refused {w : Watch} {watchCalls : List Watch.Call}
    {calls : List Call} (hw : w.isWatched = true) (hwn : w.table = none) (ha : app.Attends name)
    (hn : app.router.table = none) :
    (Table.AttemptHeard Watch.tablePart Watch.recipe Watch.seen Watch.audience w ∧
      Table.SessionHeard Watch.tablePart Watch.seen (watchCalls.map Watch.Call.perform) w) ∧
    Table.AttemptHeard tablePart recipe (heard name) (audience name) app ∧
      Table.SessionHeard tablePart (heard name) (calls.map Call.perform) app := by
  have hwatch : ∀ x ∈ watchCalls.map Watch.Call.perform,
      Table.Delivers Watch.tablePart (fun w => w.isWatched = true) Watch.seen x :=
    List.forall_mem_map.2 fun c _ => Watch.delivers_perform c
  have hrouter : ∀ x ∈ calls.map Call.perform, Delivers name x :=
    List.forall_mem_map.2 fun c _ => delivers_perform name c
  refine ⟨⟨?_, ?_⟩, ?_, ?_⟩
  · exact Watch.attended_entries.attemptHeard hw hwn
  · exact Table.sessionHeard_of_delivers hwatch hw hwn
  · exact (attended_entries name).attemptHeard ha hn
  · exact Table.sessionHeard_of_delivers hrouter ha hn

/-- A table of two lines with a watcher that refuses the second. -/
def refusedTable : Watch where
  files := ⟨Path.ofText "/srv", []⟩
  controllers := .ofBase (Path.ofText "controllers")
  table := none
  lines := ["GET /1 a.b", "GET /2 a.b"]
  isWatched := true
  refusal? := Watch.refusalOf (some "/2")
  seen := []

/-- An attempt that is refused, a change of mind, and another attempt. -/
def secondThoughts : List Watch.Call := [.entries, .refuse (Watch.refusalOf none), .entries]

/-- Its two entries. -/
def refusedEntries : List Entry :=
  [.endpoint ⟨.get, "/1", "a", "b"⟩, .endpoint ⟨.get, "/2", "a", "b"⟩]

theorem entries_heard_once_unless_refused_second_thoughts : ∃ left, left ≠ [] ∧
    (Watch.after secondThoughts refusedTable).seen = left ++ refusedEntries := by
  have ha : twoPlugins.Attends "counting" := ⟨by decide, _, rfl⟩
  obtain ⟨⟨-, hsession⟩, -⟩ :=
    @entries_heard_once_unless_refused twoPlugins "counting" refusedTable secondThoughts [] rfl rfl
      ha rfl
  obtain ⟨left, hheard, hleft⟩ := hsession.left
  have htable : Watch.tablePart.get (Step.after (secondThoughts.map Watch.Call.perform)
    refusedTable) = some refusedEntries := rfl
  refine ⟨left, hleft.2 ⟨[], Watch.Call.entries.perform, _, rfl, rfl, rfl, by decide⟩, ?_⟩
  rw [htable] at hheard
  exact hheard

/-- A hook that refuses an entry has heard of those before it, and hears of them again. -/
theorem not_forall_failed_attempt_unheard : ¬ ∀ (w : Watch) (calls : List Watch.Call),
    w.isWatched = true → w.table = none → w.seen = [] →
      (∀ fault, (Watch.entries.run w).result = .error fault →
        (Watch.entries.run w).state.seen = []) ∧
      ∀ es, (Watch.after calls w).table = some es →
        (Watch.after calls w).seen = es := by
  intro h
  obtain ⟨hfailed, hbuilt⟩ := h refusedTable secondThoughts rfl rfl rfl
  have hseen : (Watch.entries.run refusedTable).state.seen =
    [.endpoint ⟨.get, "/1", "a", "b"⟩] := rfl
  have hnone := hfailed (.entryRejected "boom /2") rfl
  rw [hseen] at hnone
  exact nomatch hnone

end Routing.Application
