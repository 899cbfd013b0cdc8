import Routing.Proofs.Handler.Layers
import Routing.Proofs.Step.Within
import Routing.Proofs.Table.Delivery

/-!
# Plugins that pass calls on

A plugin passes a call on if its settings can be told, if there is a place for its messages, and if
the clock can be read.  `Passes` says so of all plugins of an application, for some calls to come.
Nothing that is told to plugins or counted by them gets in the way (`passes_of_keepsSinks`), and
neither does attaching or configuring plugins for targets that can be
compared with actions.  While it holds, every
endpoint whose callable is found has a handler (`exists_layersOf`), and every handler is `Ready`.
-/

namespace Routing

/-! ### What becomes of attached plugins -/

namespace Router

/-- Nothing differs but the plugins, which are as many as before, and each of these reports to where
one did that was there. -/
def KeepsSinks (r r' : Router) : Prop :=
  ∃ plugins : List Plugin, r' = { r with plugins } ∧ plugins.length = r.plugins.length ∧
    ∀ q ∈ plugins, ∃ p ∈ r.plugins, q.sink = p.sink

variable {r : Router} {p q : Plugin}

theorem keepsSinks_refl (r : Router) : KeepsSinks r r :=
  ⟨r.plugins, rfl, rfl, fun q hq => ⟨q, hq, rfl⟩⟩

theorem keepsSinks_trans (r r' r'' : Router) (h : KeepsSinks r r') (h' : KeepsSinks r' r'') :
    KeepsSinks r r'' := by
  obtain ⟨ps, rfl, hl, hs⟩ := h
  obtain ⟨ps', rfl, hl', hs'⟩ := h'
  refine ⟨ps', rfl, hl'.trans hl, fun q hq => ?_⟩
  obtain ⟨p', hp', he'⟩ := hs' q hq
  obtain ⟨p, hp, he⟩ := hs p' hp'
  exact ⟨p, hp, he'.trans he⟩

theorem keepsSinks_setPlugin {name : Text} (hp : r.plugin? name = some p) (hq : q.sink = p.sink) :
    KeepsSinks r (r.setPlugin q) := by
  refine ⟨_, rfl, List.length_map _, fun q' hq' => ?_⟩
  obtain ⟨p', hp', rfl⟩ := List.mem_map.1 hq'
  split
  · exact ⟨p, List.mem_of_find?_eq_some hp, hq⟩
  · exact ⟨p', hp', rfl⟩

theorem keepsSinks_recorded (action : Text) (layers : List Layer) (r : Router) :
    KeepsSinks r (r.recorded action layers) := by
  induction layers generalizing r with
  | nil => exact keepsSinks_refl r
  | cons layer layers ih =>
    obtain ⟨plugin, kind⟩ := layer
    cases kind with
    | pass => exact ih r
    | report => exact ih r
    | count label =>
      have hone : KeepsSinks r (r.counted plugin label action) := by
        unfold counted
        split
        · rename_i p hp
          exact keepsSinks_setPlugin hp rfl
        · exact keepsSinks_refl r
      exact keepsSinks_trans _ _ _ hone (ih _)

end Router

namespace Application

variable {app : Application} {most left : Nat}

/-- Nothing differs but the router, and that only in what its plugins keep for themselves. -/
def KeepsSinks (app app' : Application) : Prop :=
  ∃ router, app' = { app with router } ∧ app.router.KeepsSinks router

theorem keepsSinks_refl (app : Application) : KeepsSinks app app :=
  ⟨app.router, rfl, Router.keepsSinks_refl _⟩

theorem keepsSinks_trans (app app' app'' : Application) (h : KeepsSinks app app')
    (h' : KeepsSinks app' app'') : KeepsSinks app app'' := by
  obtain ⟨router, rfl, h⟩ := h
  obtain ⟨router', rfl, h'⟩ := h'
  exact ⟨router', rfl, Router.keepsSinks_trans _ _ _ h h'⟩

theorem keepsSinks_of_tellAll (e : Entry) : Step.Moves KeepsSinks (tellAll e) := by
  have htell : ∀ p : Plugin, Step.Moves KeepsSinks (tell p.name e) := by
    intro p app
    rcases state_tell p.name e app with hs | ⟨p', seen, hp, hs⟩ <;> rw [hs]
    · exact keepsSinks_refl app
    · exact ⟨_, rfl, Router.keepsSinks_setPlugin hp rfl⟩
  refine (Step.moves_read keepsSinks_refl).bind keepsSinks_trans fun app => ?_
  exact Step.moves_forEach keepsSinks_refl keepsSinks_trans htell app.router.plugins

theorem isRejection_of_notify {base : Settings} {e : Entry} {p : Plugin} :
    FailsWithin Fault.IsRejection (p.notify base e) := by
  unfold Plugin.notify
  split
  · exact .error ⟨_, rfl⟩
  · exact .ok _

/-- Telling plugins of an entry can only fail because one of them refuses it. -/
theorem within_tellAll (e : Entry) :
    Step.Within (fun _ => True) Fault.IsRejection (tellAll e) := by
  refine Step.within_read.bind fun app => Step.within_forEach (fun p => ?_) _
  refine Step.within_read.bind fun app => ?_
  dsimp only
  split
  · exact Step.within_pure ()
  · exact (Step.within_ofExcept isRejection_of_notify).bind fun p => Step.within_modify _

/-! ### Passing on -/

/-- The plugins can tell their settings and have a place for their messages.  For some calls that
are still to come there will be no more than so many plugins, and the clock can be read by each
twice. -/
structure Passes (most left : Nat) (app : Application) : Prop where
  comparable : app.router.store.Comparable
  sinks : ∀ p ∈ app.router.plugins, p.sink ≠ .unusable
  few : app.router.plugins.length + left ≤ most
  tells : app.clock.Tells (2 * most * left)

/-- It does not matter what else there is. -/
theorem Passes.of_eq {app' : Application} (h : Passes most left app)
    (hs : app'.router.store = app.router.store) (hp : app'.router.plugins = app.router.plugins)
    (hc : app'.clock = app.clock) : Passes most left app' where
  comparable := hs ▸ h.comparable
  sinks := hp ▸ h.sinks
  few := hp ▸ h.few
  tells := hc ▸ h.tells

theorem Passes.mono {left' : Nat} (h : Passes most left app) (hl : left' ≤ left) :
    Passes most left' app where
  comparable := h.comparable
  sinks := h.sinks
  few := by
    have := h.few
    omega
  tells := h.tells.mono (Nat.mul_le_mul_left _ hl)

theorem passes_of_keepsSinks {router : Router} (h : Passes most left app)
    (hr : app.router.KeepsSinks router) : Passes most left { app with router } := by
  obtain ⟨plugins, rfl, hl, hs⟩ := hr
  have hfew : plugins.length + left ≤ most := hl ▸ h.few
  refine ⟨h.comparable, fun q hq => ?_, hfew, h.tells⟩
  obtain ⟨p, hp, he⟩ := hs q hq
  exact he ▸ h.sinks p hp

/-- The layers of a handler can be made: there is one for each plugin. -/
theorem exists_layersOf {store : Store} (h : store.Comparable) (action : Text) (ps : List Plugin) :
    ∃ layers, layersOf store action ps = .ok layers ∧ layers.length = ps.length := by
  have hone : ∀ p : Plugin, ∃ layer, layerOf store action p = .ok layer := by
    intro p
    unfold layerOf
    split
    · exact ⟨_, rfl⟩
    · exact ⟨_, rfl⟩
    · obtain ⟨settings, hs⟩ := Scopes.exists_merged (h.scopes p.name) (some action)
      rw [hs]
      exact ⟨_, rfl⟩
  induction ps with
  | nil => exact ⟨[], rfl, rfl⟩
  | cons p ps ih =>
    obtain ⟨layers, hl, hn⟩ := ih
    obtain ⟨layer, hp⟩ := hone p
    refine ⟨layer :: layers, ?_, congrArg (· + 1) hn⟩
    unfold layersOf
    rw [hl, hp]
    rfl

theorem Passes.ready (h : Passes most (left + 1) app) {handler : Handler}
    (hl : handler.layers.length ≤ most) : Ready handler app where
  canReport layer _ _ _ := by
    refine ⟨Scopes.exists_merged (h.comparable.scopes layer.plugin) _, ?_⟩
    unfold scene
    dsimp only
    cases hp : app.router.plugin? layer.plugin with
    | none => exact nofun
    | some p => exact h.sinks p (List.mem_of_find?_eq_some hp)
  tells := by
    have hf : (handler.layers.filter (app.scene.isOn handler.action)).length ≤ most :=
      Nat.le_trans (List.length_filter_le _ _) hl
    refine h.tells.mono ?_
    rw [Nat.mul_succ]
    omega

/-- A call takes its time. -/
theorem Passes.trace (h : Passes most (left + 1) app) (action : Text) (returns : Bool)
    {layers : List Layer} (hl : layers.length ≤ most) : Passes most left
      { app with
        clock := (app.scene.trace action returns layers app.clock).2
        router := app.router.recorded action layers } := by
  have hclock : app.clock.Tells (2 * layers.length + 2 * most * left) := by
    refine h.tells.mono ?_
    rw [Nat.mul_succ]
    omega
  have hspent : (app.scene.trace action returns layers app.clock).2.Tells (2 * most * left) :=
    Scene.tells_trace returns layers hclock
  have hrest := passes_of_keepsSinks (h.mono (Nat.le_succ left))
    (Router.keepsSinks_recorded action layers app.router)
  exact ⟨hrest.comparable, hrest.sinks, hrest.few, hspent⟩

/-! ### Calls about plugins -/

/-- Settings are given for a target that can be compared with actions. -/
def HasComparableTarget (given : Settings) : Prop := Scopes.IsComparable (Plugin.targetOf given)

theorem targetOf_settingsFor (cls : PluginClass) (given : Settings) (sink : Option Sink) :
    Plugin.targetOf (settingsFor cls given sink) = Plugin.targetOf given := by
  have hne : Plugin.targetName ≠ loggerArgument := by decide
  unfold Plugin.targetOf settingsFor
  split
  · rw [Assoc.get?_erase_of_ne hne]
  · split
    · rfl
    · rw [Assoc.get?_set_of_ne hne]

theorem comparable_attach {given : Settings} (h : app.router.store.Comparable)
    (ht : HasComparableTarget given) (name : Value) (sink : Option Sink) :
    ((attach name given sink).run app).state.router.store.Comparable := by
  rcases state_attach name given sink app with he | ⟨cls, -, he | ⟨store, seen, hc, he⟩⟩ <;> rw [he]
  · exact h
  · exact h.withScopes cls.code
  · have hfor : HasComparableTarget (settingsFor cls given sink) := by
      unfold HasComparableTarget
      rwa [targetOf_settingsFor]
    exact Plugin.comparable_of_configure hfor (h.withScopes cls.code) hc

theorem comparable_configure {given : Settings} (h : app.router.store.Comparable)
    (ht : HasComparableTarget given) (name : Text) :
    ((configure name given).run app).state.router.store.Comparable := by
  rcases state_configure_cases name given app with he | ⟨p, store, -, hc, he⟩ <;> rw [he]
  · exact h
  · exact Plugin.comparable_of_configure ht h hc

theorem comparable_setEnabled (h : app.router.store.Comparable) (action name : Text) (on : Bool) :
    ((setEnabled action name on).run app).state.router.store.Comparable := by
  rcases state_setEnabled action name on app with he | ⟨p, -, he⟩ <;> rw [he]
  · exact h
  · exact h.setSwitch name action on

theorem Passes.withStore (h : Passes most left app) {store : Store} (hs : store.Comparable) :
    Passes most left (app.withStore store) := ⟨hs, h.sinks, h.few, h.tells⟩

theorem Passes.attach (h : Passes most (left + 1) app) {given : Settings} {sink : Option Sink}
    (ht : HasComparableTarget given) (hs : ∀ cls, sinkFor cls given sink ≠ .unusable)
    (name : Value) : Passes most left ((attach name given sink).run app).state := by
  have hrest := h.mono (Nat.le_succ left)
  have hstore := comparable_attach h.comparable ht name sink
  rcases state_attach name given sink app with he | ⟨cls, -, he | ⟨store, seen, -, he⟩⟩ <;>
    rw [he] at hstore ⊢
  · exact hrest
  · exact hrest.withStore hstore
  · refine ⟨hstore, ?_, ?_, hrest.tells⟩
    · refine List.forall_mem_append.2 ⟨hrest.sinks, fun p hp => ?_⟩
      obtain rfl := List.mem_singleton.1 hp
      exact hs cls
    · have := h.few
      unfold withPlugins
      simp only [List.length_append, List.length_singleton]
      omega

theorem Passes.configure (h : Passes most left app) {given : Settings}
    (ht : HasComparableTarget given) (name : Text) :
    Passes most left ((configure name given).run app).state := by
  have hstore := comparable_configure h.comparable ht name
  rcases state_configure_cases name given app with he | ⟨p, store, -, -, he⟩ <;>
    rw [he] at hstore ⊢
  · exact h
  · exact h.withStore hstore

theorem Passes.setEnabled (h : Passes most left app) (action name : Text) (on : Bool) :
    Passes most left ((setEnabled action name on).run app).state := by
  have hstore := comparable_setEnabled h.comparable action name on
  rcases state_setEnabled action name on app with he | ⟨p, -, he⟩ <;> rw [he] at hstore ⊢
  · exact h
  · exact h.withStore hstore

end Application

end Routing
