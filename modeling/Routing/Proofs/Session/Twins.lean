import Routing.Proofs.Host.Alike
import Routing.Proofs.Host.Serving
import Routing.Proofs.Plugin.Passing
import Routing.Proofs.Session.Calls
import Routing.Proofs.Table.Alike

/-!
# A router and its twin without plugins

Two applications are `Twin`s if they differ in nothing that has to do with routing: the second has
no plugins, and its hosts are those of the first but for the layers.  As long as plugins pass calls
on and refuse no entry, whatever is asked of both has the same answer and leaves them twins
(`Twin.routing`), and what is asked of the first about its plugins leaves them twins as well
(`Twin.aboutPlugins`).  Main statement: `plugins_never_change_routing`.
-/

namespace Routing

/-- An answer with the handlers without their layers. -/
def Answer.bare : Answer → Answer
  | .routes rs => .routes (rs.map Route.bare)
  | answer => answer

/-- Plugins pass calls on as far as this call is concerned: they are configured for targets that can
be compared with actions, and their messages have a place. -/
def Call.PassesOn : Call → Prop
  | .attach _ given sink => Application.HasComparableTarget given ∧
      ∀ cls, Application.sinkFor cls given sink ≠ .unusable
  | .configure _ given => Application.HasComparableTarget given
  | _ => True

namespace Application

variable {app base : Application} {most left : Nat}

/-- The second application is as the first for routing, and has no plugins. -/
structure Twin (most left : Nat) (app base : Application) : Prop where
  files : base.files = app.files
  options : base.router.options = app.router.options
  root : base.router.root = app.router.root
  controllers : base.router.controllers = app.router.controllers
  table : base.router.table = app.router.table
  plain : base.router.plugins = []
  hosts : Assoc.Matches (Host.AlikeWithin most) app.hosts base.hosts
  passes : app.Passes most left

/-- Twins remain twins if the first becomes other in its plugins only. -/
theorem Twin.of_passes {left' : Nat} {store : Store} {plugins : List Plugin} {clock : Clock}
    (h : Twin most left app base)
    (hp : Passes most left' { app with clock, router := { app.router with store, plugins } }) :
    Twin most left' { app with clock, router := { app.router with store, plugins } } base :=
  ⟨h.files, h.options, h.root, h.controllers, h.table, h.plain, h.hosts, hp⟩

theorem Twin.mono {left' : Nat} (h : Twin most left app base) (hl : left' ≤ left) :
    Twin most left' app base := h.of_passes (h.passes.mono hl)

theorem buildsAlike_twin (most left : Nat) : BuildsAlike (Twin most left) where
  files h := h.files
  routesLocation h := by
    unfold Router.routesLocation
    rw [h.options, h.root]
  expander h := by
    unfold Router.expander
    rw [h.options, h.root]
  controllers h := h.controllers
  table h := h.table
  setControllers _ h := ⟨h.files, h.options, h.root, rfl, h.table, h.plain, h.hosts,
    h.passes.of_eq rfl rfl rfl⟩
  setTable _ h := ⟨h.files, h.options, h.root, h.controllers, rfl, h.plain, h.hosts,
    h.passes.of_eq rfl rfl rfl⟩

/-- Steps on twins that leave them twins and end alike, unless a plugin refuses an entry. -/
abbrev TwinsAgree {α β : Type} (most left : Nat) (Q : α → β → Prop) (x : Step Application α)
    (y : Step Application β) : Prop :=
  Step.Agrees (Twin most left) Fault.IsRejection Q x y

/-! ### The table -/

theorem twinsAgree_tellAll (entry : Entry) :
    TwinsAgree most left Eq (tellAll entry) (tellAll entry) := by
  intro app base h
  have hbase : (tellAll entry).run base = ⟨[], base, .ok ()⟩ := by
    unfold tellAll
    simp only [Step.run_bind, Step.run_read, Outcome.andThen_ok, h.plain]
    rfl
  rw [hbase]
  cases hr : ((tellAll entry).run app).result with
  | error fault => exact .inl ⟨fault, hr, (within_tellAll entry app).2 fault hr⟩
  | ok _ =>
    obtain ⟨router, hs, hk⟩ := keepsSinks_of_tellAll entry app
    have hp := passes_of_keepsSinks h.passes hk
    obtain ⟨plugins, rfl, -, -⟩ := hk
    rw [hs]
    exact .inr ⟨h.of_passes hp, .ok rfl⟩

theorem twinsAgree_entries : TwinsAgree most left Eq entries entries :=
  agrees_entries (buildsAlike_twin most left) twinsAgree_tellAll

theorem twinsAgree_walk : TwinsAgree most left Eq walk walk := by
  refine agrees_walk (buildsAlike_twin most left) twinsAgree_tellAll fun fault hf => ?_
  obtain ⟨message, rfl⟩ := hf
  exact ⟨message, rfl⟩

/-- Whether the binder is strict is the same for twins. -/
theorem twinsAgree_strictly {α : Type} (f : Bool → Except Fault α) :
    TwinsAgree most left Eq
      (Step.read >>= fun app => Step.ofExcept (f app.router.options.isStrict))
      (Step.read >>= fun app => Step.ofExcept (f app.router.options.isStrict)) := by
  refine Step.agrees_read_bind fun app base ht => ?_
  rw [ht.options]
  exact Step.agrees_ofExcept (sameEnd_refl _)

/-! ### Hosts -/

theorem twinsAgree_hostNamed (host : Text) :
    TwinsAgree most left (Host.AlikeWithin most) (hostNamed host) (hostNamed host) := by
  refine Step.agrees_read_bind fun app base h => ?_
  rcases h.hosts.get?_cases host with ⟨hl, hr⟩ | ⟨g, g', hl, hr, ha⟩
  · rw [hl, hr]
    exact Step.agrees_fail _
  · rw [hl, hr]
    exact Step.agrees_pure ha

theorem twinsAgree_onHost (host : Text) {f f' : Host → Except Fault Host}
    (hf : ∀ h g, Host.AlikeWithin most h g → SameEnd (Host.AlikeWithin most) (f h) (f' g)) :
    TwinsAgree most left Eq (onHost host f) (onHost host f') := by
  refine (twinsAgree_hostNamed host).bind fun h g ha => ?_
  refine (Step.agrees_ofExcept (hf h g ha)).bind fun h' g' ha' => ?_
  refine Step.agrees_modify fun app base ht => ?_
  exact ⟨ht.files, ht.options, ht.root, ht.controllers, ht.table, ht.plain, ht.hosts.set ha' host,
    ht.passes.of_eq rfl rfl rfl⟩

/-- A handler for an endpoint, and its twin. -/
theorem twinsAgree_makeHandler (e : Endpoint) :
    TwinsAgree most left (fun h g => g = h.bare ∧ h.layers.length ≤ most) (makeHandler e)
      (makeHandler e) := by
  intro app base ht
  -- The callables are found in the same files and among the same controllers, and only the layers
  -- around them differ.
  have hresolve : resolve e base = resolve e app := by
    unfold resolve
    rw [ht.files, ht.controllers]
  rw [run_makeHandler, run_makeHandler, hresolve]
  refine .inr ⟨(buildsAlike_twin most left).setControllers _ ht, ?_⟩
  cases (resolve e app).result with
  | error fault => exact .error fault
  | ok callable =>
    obtain ⟨layers, hl, hn⟩ := exists_layersOf ht.passes.comparable e.action app.router.plugins
    have happ : wrap e callable app.router = .ok ⟨e.action, callable, layers⟩ := by
      unfold wrap
      rw [hl]
      rfl
    have hbase : wrap e callable base.router = .ok ⟨e.action, callable, []⟩ := by
      unfold wrap
      rw [ht.plain]
      rfl
    have hfew : layers.length ≤ most := by
      have := ht.passes.few
      omega
    change SameEnd _ (wrap e callable app.router) (wrap e callable base.router)
    rw [happ, hbase]
    exact .ok ⟨rfl, hfew⟩

theorem twinsAgree_serveFolder (host : Text) (folder : Folder) :
    TwinsAgree most left Eq (serveFolder host folder) (serveFolder host folder) := by
  refine Step.agrees_read_bind fun app base ht => ?_
  rw [ht.files]
  refine (Step.agrees_ofExcept (sameEnd_refl _)).bind ?_
  rintro found _ rfl
  split
  · refine (twinsAgree_onHost host fun h g ha => Host.sameEnd_serve ha _ _).bind fun _ _ _ => ?_
    exact Step.agrees_log _ _ _ _
  · exact Step.agrees_fail _

theorem twinsAgree_serveEntry (host : Text) (entry : Entry) :
    TwinsAgree most left (List.Forall₂ fun r s => s = r.bare) (serveEntry host entry)
      (serveEntry host entry) := by
  cases entry with
  | folder folder =>
    exact (twinsAgree_serveFolder host folder).bind fun _ _ _ => Step.agrees_pure .nil
  | endpoint e =>
    refine (twinsAgree_makeHandler e).bind ?_
    rintro h _ ⟨rfl, hl⟩
    refine (twinsAgree_onHost host fun g g' ha =>
      Host.sameEnd_register (r := ⟨e.verb, e.pattern, h⟩) ha hl).bind fun _ _ _ => ?_
    exact Step.agrees_pure (.cons rfl .nil)

theorem twinsAgree_deploy (host : Text) :
    TwinsAgree most left (List.Forall₂ fun r s => s = r.bare) (deploy host) (deploy host) := by
  refine (twinsAgree_hostNamed host).bind fun _ _ _ => twinsAgree_entries.bind ?_
  rintro es _ rfl
  refine Step.agrees_read_bind fun app base ht => ?_
  dsimp only
  rw [ht.options]
  refine (twinsAgree_onHost host fun h g ha => Host.sameEnd_expose ha _).bind fun _ _ _ => ?_
  refine (Step.agrees_flatMapList (twinsAgree_serveEntry host) es).bind fun rs ss hrs => ?_
  exact (Step.agrees_log _ _ _ _).bind fun _ _ _ => Step.agrees_pure hrs

/-! ### Calling handlers -/

/-- A call through layers comes to what the callable comes to, does with the controllers what that
does, and takes its time. -/
theorem Twin.call (ht : Twin most (left + 1) app base) {h : Handler}
    (hl : h.layers.length ≤ most) (args : Arguments) :
    Twin most left ((call h args).run app).state ((call h.bare args).run base).state ∧
      ((call h.bare args).run base).result = ((call h args).run app).result := by
  have hbase : (Application.call h.bare args).run base =
      base.nested h.action (base.router.controllers.answer h.callable args)
        (base.router.controllers.afterCall h.callable args) [] :=
    run_call_eq_nested h.action h.callable args base
  have hf : (h.layers.filter (app.scene.isOn h.action)).length ≤ most :=
    Nat.le_trans (List.length_filter_le _ _) hl
  have hp := ht.passes.trace h.action (app.router.controllers.answer h.callable args).isOk hf
  rw [hbase, ht.controllers, run_call (ht.passes.ready hl)]
  refine ⟨?_, rfl⟩
  unfold nested
  obtain ⟨plugins, hr, -⟩ := Router.keepsSinks_recorded h.action
    (h.layers.filter (app.scene.isOn h.action)) app.router
  rw [hr] at hp ⊢
  exact (buildsAlike_twin most left).setControllers
    (app.router.controllers.afterCall h.callable args) (ht.of_passes hp)

theorem Twin.callHandler (ht : Twin most (left + 1) app base) (host : Text) (index : Int)
    (args : Arguments) :
    Twin most left ((callHandler host index args).run app).state
        ((callHandler host index args).run base).state ∧
      ((callHandler host index args).run base).result =
        ((callHandler host index args).run app).result := by
  have hrest : Twin most left app base := ht.mono (Nat.le_succ left)
  unfold Application.callHandler
  rcases ht.hosts.get?_cases host with ⟨hl, hr⟩ | ⟨g, g', hl, hr, ha⟩
  · rw [Step.run_bind, Step.run_bind, run_hostNamed_of_get?_eq_none hl,
      run_hostNamed_of_get?_eq_none hr]
    exact ⟨hrest, rfl⟩
  · rw [Step.run_bind, Step.run_bind, run_hostNamed_of_get? hl, run_hostNamed_of_get? hr,
      Outcome.andThen_ok, Outcome.andThen_ok]
    dsimp only
    rw [ha.handlerAt? index]
    cases hh : g.handlerAt? index with
    | none => exact ⟨hrest, rfl⟩
    | some h =>
      obtain ⟨hs, he⟩ := ht.call (ha.layers_le hh) args
      change Twin most left ((Application.call h args >>= fun v => pure (some v)).run app).state
          ((Application.call h.bare args >>= fun v => pure (some v)).run base).state ∧
        ((Application.call h.bare args >>= fun v => pure (some v)).run base).result =
          ((Application.call h args >>= fun v => pure (some v)).run app).result
      rw [Step.run_bind_pure, Step.run_bind_pure, he]
      exact ⟨hs, rfl⟩

/-! ### Calls -/

/-- Answers that differ in the layers of handlers only. -/
abbrev SameAnswer : Except Fault Answer → Except Fault Answer → Prop :=
  SameEnd fun answer answer' => answer' = answer.bare

/-- What is asked of twins has the same answer, unless a plugin refuses an entry. -/
theorem Twin.routing (ht : Twin most (left + 1) app base) {c : Call}
    (hc : c.isAboutPlugins = false) (hr : ¬ Step.EndsIn Fault.IsRejection c.perform app) :
    Twin most left (c.perform.run app).state (c.perform.run base).state ∧
      SameAnswer (c.perform.run app).result (c.perform.run base).result := by
  have hof : TwinsAgree most left (fun a b => b = a.bare) c.perform c.perform →
      Twin most left (c.perform.run app).state (c.perform.run base).state ∧
        SameAnswer (c.perform.run app).result (c.perform.run base).result := fun h =>
    (h app base (ht.mono (Nat.le_succ left))).resolve_left hr
  cases c with
  | entries => exact hof (twinsAgree_entries.map fun _ => rfl)
  | actions =>
    have hactions : TwinsAgree most left Eq actions actions := twinsAgree_entries.map fun _ => rfl
    exact hof (hactions.map fun _ => rfl)
  | endpointsOf action =>
    have hendpoints : TwinsAgree most left Eq (endpointsOf action) (endpointsOf action) :=
      twinsAgree_walk.map fun _ => rfl
    exact hof (hendpoints.map fun _ => rfl)
  | urlOf action params =>
    have hurl : TwinsAgree most left Eq (urlOf action params) (urlOf action params) := by
      refine twinsAgree_walk.bind ?_
      rintro es _ rfl
      exact twinsAgree_strictly fun strict => Reverse.url strict es action params
    exact hof (hurl.map fun _ => rfl)
  | fillPattern pattern args =>
    have hurl : TwinsAgree most left Eq (fillPattern pattern args) (fillPattern pattern args) :=
      twinsAgree_strictly fun strict => Binding.urlOf strict pattern args
    exact hof (hurl.map fun _ => rfl)
  | deploy host =>
    refine hof ((twinsAgree_deploy host).bind fun rs ss hrs => Step.agrees_pure ?_)
    have hmap : ss = rs.map Route.bare := by
      induction hrs with
      | nil => rfl
      | cons hr _ ih => rw [hr, ih, List.map_cons]
    rw [hmap]
    rfl
  | callHandler host index args =>
    obtain ⟨hs, he⟩ := ht.callHandler host index args
    have hperform : ∀ app, (Call.callHandler host index args).perform.run app =
        (Application.callHandler host index args >>= fun v => pure (.value v)).run app :=
      fun _ => rfl
    rw [hperform, hperform, Step.run_bind_pure, Step.run_bind_pure, he]
    refine ⟨hs, ?_⟩
    cases ((Application.callHandler host index args).run app).result with
    | error fault => exact .error fault
    | ok v => exact .ok rfl
  | rewrite files =>
    refine hof ((Step.agrees_modify fun app base ht => ?_).bind fun _ _ _ => Step.agrees_pure rfl)
    exact ⟨rfl, ht.options, ht.root, ht.controllers, ht.table, ht.plain, ht.hosts,
      ht.passes.of_eq rfl rfl rfl⟩
  | attach => exact nomatch hc
  | configure => exact nomatch hc
  | setEnabled => exact nomatch hc

/-- What is done about plugins is no concern of the twin without. -/
theorem Twin.aboutPlugins (ht : Twin most (left + 1) app base) {c : Call}
    (hc : c.isAboutPlugins = true) (hp : c.PassesOn) :
    Twin most left (c.perform.run app).state base := by
  have hdone : ∀ x : Step Application Unit, Passes most left (x.run app).state →
      ((∃ store plugins, (x.run app).state =
        { app with router := { app.router with store, plugins } })) →
      Twin most left ((x >>= fun _ => pure Answer.done).run app).state base := by
    rintro x hp ⟨store, plugins, hs⟩
    rw [Step.run_bind_pure x fun _ => Answer.done, hs]
    exact ht.of_passes (hs ▸ hp)
  cases c with
  | attach plugin given sink =>
    refine hdone _ (ht.passes.attach hp.1 hp.2 plugin) ?_
    rcases state_attach plugin given sink app with hs | ⟨cls, -, hs | ⟨store, seen, -, hs⟩⟩ <;>
      rw [hs]
    · exact ⟨_, _, rfl⟩
    · exact ⟨_, _, rfl⟩
    · exact ⟨_, _, rfl⟩
  | configure plugin given =>
    refine hdone _ ((ht.passes.mono (Nat.le_succ left)).configure hp plugin) ?_
    rcases state_configure_cases plugin given app with hs | ⟨p, store, -, -, hs⟩ <;> rw [hs]
    · exact ⟨_, _, rfl⟩
    · exact ⟨_, _, rfl⟩
  | setEnabled action plugin on =>
    refine hdone _ ((ht.passes.mono (Nat.le_succ left)).setEnabled action plugin on) ?_
    rcases state_setEnabled action plugin on app with hs | ⟨p, -, hs⟩ <;> rw [hs]
    · exact ⟨_, _, rfl⟩
    · exact ⟨_, _, rfl⟩
  | _ => exact nomatch hc

/-! ### Sessions -/

/-- No call of a session ends because a plugin refuses an entry. -/
def Unrefused : List Call → Application → Prop
  | [], _ => True
  | c :: calls, app =>
    ¬ Step.EndsIn Fault.IsRejection c.perform app ∧ Unrefused calls (c.perform.run app).state

theorem unrefused_append {calls rest : List Call} (h : Unrefused (calls ++ rest) app) :
    Unrefused calls app ∧ Unrefused rest (after calls app) := by
  induction calls generalizing app with
  | nil => exact ⟨trivial, h⟩
  | cons c calls ih =>
    obtain ⟨hcalls, hrest⟩ := ih h.2
    exact ⟨⟨h.1, hcalls⟩, hrest⟩

/-- The calls that are about routing. -/
def routingCalls (calls : List Call) : List Call := calls.filter fun c => !c.isAboutPlugins

theorem Twin.after {calls : List Call} (ht : Twin most (calls.length + left) app base)
    (hp : ∀ c ∈ calls, c.PassesOn) (hu : Unrefused calls app) :
    Twin most left (after calls app) (after (routingCalls calls) base) := by
  -- Each call is one of those that were still to come; the twin only takes part in routing.
  induction calls generalizing app base with
  | nil => exact ht.mono (Nat.le_add_left left 0)
  | cons c calls ih =>
    have ht : Twin most (calls.length + left + 1) app base := by
      refine ht.mono ?_
      rw [List.length_cons]
      omega
    have hp' : ∀ c ∈ calls, c.PassesOn := fun c hm => hp c (List.mem_cons_of_mem _ hm)
    cases hc : c.isAboutPlugins with
    | true =>
      have hf : routingCalls (c :: calls) = routingCalls calls :=
        List.filter_cons_of_neg (by simp [hc])
      rw [hf]
      exact ih (ht.aboutPlugins hc (hp c List.mem_cons_self)) hp' hu.2
    | false =>
      have hf : routingCalls (c :: calls) = c :: routingCalls calls :=
        List.filter_cons_of_pos (by simp [hc])
      rw [hf]
      exact ih (ht.routing hc hu.1).1 hp' hu.2

/-- The application with a router that knows nothing of plugins. -/
def unpluggable (app : Application) : Application :=
  { app with router := { app.router with pluggable := false } }

theorem twin_unpluggable (hplugins : app.router.plugins = []) (hstore : app.router.store = [])
    (hhosts : ∀ p ∈ app.hosts, p.2.handlers = []) {most : Nat}
    (hclock : app.clock.Tells (2 * most * most)) : Twin most most app (unpluggable app) where
  files := rfl
  options := rfl
  root := rfl
  controllers := rfl
  table := rfl
  plain := hplugins
  hosts := List.forall₂_same.2 fun p hp => ⟨rfl, Host.alikeWithin_self (hhosts p hp) most⟩
  passes :=
    { comparable := hstore ▸ Store.comparable_nil
      sinks := by
        rw [hplugins]
        exact fun p hp => absurd hp List.not_mem_nil
      few := by simp [hplugins]
      tells := hclock }

/-- Plugins never change routing.  A router is asked for things in any order, and between them
plugins are attached, configured and switched; none of them refuses an entry, and they are
configured so that they can pass calls on.  Whatever is then asked of the router has the same result
or fault as if the router could have no plugins and had been asked only what is about routing:
entries, actions, URLs, the routes of a host but for the layers, and what calling any of its handlers
comes to.  The hosts are asked for the same routes and directories. -/
theorem plugins_never_change_routing {calls : List Call} {c : Call}
    (hplugins : app.router.plugins = []) (hstore : app.router.store = [])
    (hhosts : ∀ p ∈ app.hosts, p.2.handlers = [])
    (hclock : app.clock.Tells (2 * (calls.length + 1) * (calls.length + 1)))
    (hcalls : ∀ c ∈ calls, c.PassesOn) (hc : c.isAboutPlugins = false)
    (hrefused : Unrefused (calls ++ [c]) app) :
    let withPlugins := c.perform.run (after calls app)
    let without := c.perform.run (after (routingCalls calls) (unpluggable app))
    SameAnswer withPlugins.result without.result ∧
      Assoc.Matches Host.Alike withPlugins.state.hosts without.state.hosts := by
  obtain ⟨hcalls', hlast, -⟩ := unrefused_append hrefused
  have ht := (twin_unpluggable hplugins hstore hhosts hclock).after hcalls hcalls'
  obtain ⟨hs, ha⟩ := ht.routing hc hlast
  exact ⟨ha, hs.hosts.imp fun _ _ h => h.1⟩

/-- A router with one route, in an application with a host and two plugins to be had. -/
def onePage : Application :=
  { withRoutes "GET /a p.a" [("p", ⟨[.define "a" (.function "a" "done" none)], none⟩)] with
    registry := [("logging", PluginClass.logging), ("counting", PluginClass.counting)]
    hosts := [("h", {
      name := "h"
      registers := true
      verbs := []
      context := some []
      locals := none
      servesDirectories := false
      calls := []
      handlers := [] })] }

/-- Two plugins are attached, and one of them is switched off before the host gets its routes. -/
def attachedTwice : List Call :=
  [.attach (.text "logging") [] none, .attach (.text "counting") [] none,
    .setEnabled "p.a" "counting" false, .deploy "h"]

theorem plugins_never_change_routing_one_page :
    ((Call.callHandler "h" 0 (.ofList [])).perform.run (after attachedTwice onePage)).result =
      .ok (.value (some (.text "done"))) := by
  have hattach : HasComparableTarget [] ∧ ∀ cls, sinkFor cls [] none ≠ .unusable := by
    refine ⟨Scopes.isComparable_text baseLevel, fun cls => ?_⟩
    have hshared : sinkFor cls [] none = .shared := if_neg fun h => absurd h.2 (by decide)
    rw [hshared]
    exact nofun
  have hpasses : ∀ c ∈ attachedTwice, c.PassesOn := by
    simp [attachedTwice, hattach, Call.PassesOn]
  have hrefused : Unrefused (attachedTwice ++ [.callHandler "h" 0 (.ofList [])]) onePage :=
    ⟨Step.not_endsIn_of_isOk (by decide +kernel), Step.not_endsIn_of_isOk (by decide +kernel),
      Step.not_endsIn_of_isOk (by decide +kernel), Step.not_endsIn_of_isOk (by decide +kernel),
      Step.not_endsIn_of_isOk (by decide +kernel), trivial⟩
  have hplain : ((Call.callHandler "h" 0 (.ofList [])).perform.run
      (after (routingCalls attachedTwice) (unpluggable onePage))).result =
        .ok (.value (some (.text "done"))) := by
    have hcall : ((Application.callHandler "h" 0 (.ofList [])).run
        (after (routingCalls attachedTwice) (unpluggable onePage))).result =
          .ok (some (.text "done")) := by
      decide +kernel
    change ((Application.callHandler "h" 0 (.ofList []) >>= fun v => pure (Answer.value v)).run
      (after (routingCalls attachedTwice) (unpluggable onePage))).result = _
    rw [Step.run_bind_pure, hcall]
    rfl
  obtain ⟨hanswer, -⟩ := @plugins_never_change_routing onePage attachedTwice _ rfl rfl
    (by decide +kernel) (by decide +kernel) hpasses rfl hrefused
  rw [hplain] at hanswer
  obtain ⟨answer, ha, hb⟩ := hanswer.exists_eq_ok_left
  cases answer with
  | value v =>
    rw [ha, hb]
    rfl
  | _ => exact nomatch hb

end Application

end Routing
