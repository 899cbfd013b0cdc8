import Routing.Application.Calls
import Routing.Proofs.Plugin.Newcomer
import Routing.Proofs.Store.Targets

/-!
# The trace of a call

`Scene.trace` is what a call of a handler lets the outside see: the nesting of the layers whose
plugins are on, the first outermost.  A reporting layer stands around what the layers inside it
report, and has no end if the callable fails; a counting layer comes before them.  Main statement:
`run_callThrough`, which says besides that nothing changes but the clock, what is counted, and the
controller that the callable is of, and that the result is that of the callable.
-/

namespace Routing

/-! ### Counting -/

namespace Router

/-- The router after its plugin of a name has counted a call. -/
def counted (plugin : Text) (label : Value) (action : Text) (r : Router) : Router :=
  match r.plugin? plugin with
  | some p => r.setPlugin { p with calls := p.calls ++ [(label, action)] }
  | none => r

variable {r : Router} {plugin action : Text} {label : Value}

theorem counted_eq (plugin : Text) (label : Value) (action : Text) (r : Router) :
    ∃ plugins, r.counted plugin label action = { r with plugins } := by
  unfold counted
  split
  · exact ⟨_, rfl⟩
  · exact ⟨r.plugins, rfl⟩

@[simp] theorem controllers_counted (plugin : Text) (label : Value) (action : Text) (r : Router) :
    (r.counted plugin label action).controllers = r.controllers := by
  obtain ⟨plugins, hp⟩ := counted_eq plugin label action r
  rw [hp]

theorem map_name_counted (plugin : Text) (label : Value) (action : Text) (r : Router) :
    (r.counted plugin label action).plugins.map Plugin.name = r.plugins.map Plugin.name := by
  unfold counted
  split
  · exact map_name_setPlugin _ _
  · rfl

/-- Counting a call changes nothing else of any plugin. -/
theorem uncounted_plugin?_counted (plugin : Text) (label : Value) (action : Text) (r : Router)
    (name : Text) : ((r.counted plugin label action).plugin? name).map Plugin.uncounted =
      (r.plugin? name).map Plugin.uncounted := by
  unfold counted
  split
  · rename_i p hp
    obtain rfl : p.name = plugin := name_of_plugin? hp
    obtain ⟨q, hq, hqn, hqp⟩ : ∃ q : Plugin, { p with calls := p.calls ++ [(label, action)] } = q ∧
        q.name = p.name ∧ q.uncounted = p.uncounted := ⟨_, rfl, rfl, rfl⟩
    rw [hq]
    by_cases hn : name = p.name
    · subst hn
      have hs : (r.setPlugin q).plugin? p.name = some q := by
        rw [← hqn] at hp ⊢
        exact plugin?_setPlugin_self hp
      rw [hs, hp, Option.map_some, Option.map_some, hqp]
    · rw [plugin?_setPlugin_of_ne (hqn.symm ▸ hn)]
  · rfl

/-- The router after counting layers have counted a call. -/
def recorded (action : Text) (layers : List Layer) (r : Router) : Router :=
  layers.foldl
    (fun r layer => match layer.action with
      | .count label => r.counted layer.plugin label action
      | _ => r) r

end Router

namespace Clock

/-- The next readings, as many as that, can be told in seconds. -/
def Tells : Nat → Clock → Prop
  | 0, _ => True
  | n + 1, clock => isTellable clock.next.1 = true ∧ Tells n clock.next.2

instance decidableTells : ∀ n clock, Decidable (Tells n clock)
  | 0, _ => .isTrue trivial
  | n + 1, clock =>
    have : Decidable (Tells n clock.next.2) := decidableTells n clock.next.2
    inferInstanceAs (Decidable (isTellable clock.next.1 = true ∧ Tells n clock.next.2))

theorem Tells.mono {m n : Nat} {clock : Clock} (h : Tells n clock) (hm : m ≤ n) :
    Tells m clock := by
  induction n generalizing m clock with
  | zero =>
    obtain rfl : m = 0 := by omega
    exact trivial
  | succ n ih =>
    cases m with
    | zero => exact trivial
    | succ m => exact ⟨h.1, ih h.2 (by omega)⟩

end Clock

/-! ### The scene of a call -/

/-- What a call reads of the router and of the application around it. -/
structure Scene where
  scopes : Text → Scopes
  sink : Text → Sink
  /-- Whether the logger of the library has someone listening. -/
  isHeard : Bool

namespace Scene

variable (scene : Scene) (action : Text)

/-- Whether the plugin of a layer is on for an action. -/
def isOn (layer : Layer) : Bool := (scene.scopes layer.plugin).isEnabled action

/-- How a plugin reports the calls of an action. -/
def reporting (plugin : Text) : Reporting :=
  .ofSettings (((scene.scopes plugin).merged (some action)).toOption.getD [])

/-- A plugin can report on an action: its settings for that can be told, and there is a place for
its messages. -/
def CanReport (plugin : Text) : Prop :=
  (∃ settings, (scene.scopes plugin).merged (some action) = .ok settings) ∧
    scene.sink plugin ≠ .unusable

/-- A message of a plugin, as it goes out. -/
def message (plugin : Text) (r : Reporting) (text : Text) : List Event :=
  (r.event? (scene.sink plugin) scene.isHeard text).toOption.join.toList

/-- What a plugin reports of the start of a call. -/
def startOf (plugin : Text) : List Event :=
  let r := scene.reporting action plugin
  if r.before then scene.message plugin r (action ++ " start".toList) else []

/-- What a plugin reports of the end of a call. -/
def endOf (plugin : Text) (start stop : Int) : List Event :=
  let r := scene.reporting action plugin
  if r.after then
    scene.message plugin r (action ++ " end (".toList ++ Clock.elapsed start stop ++ " ms)".toList)
  else []

/-- What layers that are on report of a call, one around the other, and the clock after it; the
callable may return or fail. -/
def trace (returns : Bool) : List Layer → Clock → List Event × Clock
  | [], clock => ([], clock)
  | layer :: inner, clock =>
    match layer.action with
    | .pass => trace returns inner clock
    | .count label =>
      let rest := trace returns inner clock
      (.counted label.written action :: rest.1, rest.2)
    | .report =>
      if (scene.reporting action layer.plugin).enabled then
        let rest := trace returns inner clock.next.2
        if returns then
          (scene.startOf action layer.plugin ++ rest.1 ++
            scene.endOf action layer.plugin clock.next.1 rest.2.next.1, rest.2.next.2)
        else (scene.startOf action layer.plugin ++ rest.1, rest.2)
      else trace returns inner clock

variable {scene action}

/-- Two scenes are the same for the plugins of some layers. -/
def SameFor (scene scene' : Scene) (layers : List Layer) : Prop :=
  scene'.isHeard = scene.isHeard ∧ ∀ layer ∈ layers,
    scene'.scopes layer.plugin = scene.scopes layer.plugin ∧
      scene'.sink layer.plugin = scene.sink layer.plugin

theorem SameFor.filter {scene' : Scene} {layers : List Layer} (h : scene.SameFor scene' layers)
    (p : Layer → Bool) : scene.SameFor scene' (layers.filter p) :=
  ⟨h.1, fun layer hm => h.2 layer ((List.mem_filter.1 hm).1)⟩

theorem trace_congr {scene' : Scene} {layers : List Layer} (h : scene.SameFor scene' layers)
    (action : Text) (returns : Bool) (clock : Clock) :
    scene'.trace action returns layers clock = scene.trace action returns layers clock := by
  induction layers generalizing clock with
  | nil => rfl
  | cons layer layers ih =>
    obtain ⟨hheard, hsame⟩ := h
    obtain ⟨hscopes, hsink⟩ := hsame layer List.mem_cons_self
    have ih := ih ⟨hheard, fun l hl => hsame l (List.mem_cons_of_mem _ hl)⟩
    unfold trace startOf endOf message reporting
    simp only [hscopes, hsink, hheard, ih]

theorem filter_isOn_congr {scene' : Scene} {layers : List Layer} (h : scene.SameFor scene' layers)
    (action : Text) : layers.filter (scene'.isOn action) = layers.filter (scene.isOn action) := by
  refine List.filter_congr fun layer hm => ?_
  unfold isOn
  rw [(h.2 layer hm).1]

/-- A call reads the clock at most twice for each layer. -/
theorem tells_trace {n : Nat} (returns : Bool) (layers : List Layer) {clock : Clock}
    (h : clock.Tells (2 * layers.length + n)) :
    (scene.trace action returns layers clock).2.Tells n := by
  induction layers generalizing clock n with
  | nil => exact h.mono (by simp)
  | cons layer layers ih =>
    have hlen : 2 * (layer :: layers).length + n = 2 * layers.length + n + 2 := by
      rw [List.length_cons]
      omega
    rw [hlen] at h
    have hsame : (scene.trace action returns layers clock).2.Tells n := ih (h.mono (by omega))
    unfold trace
    split
    · exact hsame
    · exact hsame
    · split
      · have hnext : clock.next.2.Tells (2 * layers.length + (n + 1)) := h.2
        have hrest := ih hnext
        split
        · exact hrest.2
        · exact hrest.mono (by omega)
      · exact hsame

end Scene

namespace Application

variable {app : Application} {action : Text}

/-- What a call reads of an application. -/
def scene (app : Application) : Scene where
  scopes plugin := app.router.store.scopes plugin
  sink plugin := ((app.router.plugin? plugin).map Plugin.sink).getD .shared
  isHeard := app.isHeard

theorem scene_counted (plugin : Text) (label : Value) (action : Text) :
    scene { app with router := app.router.counted plugin label action } = app.scene := by
  have hsink : ∀ name, ((app.router.counted plugin label action).plugin? name).map Plugin.sink =
      (app.router.plugin? name).map Plugin.sink := by
    intro name
    have h := congrArg (Option.map Plugin.sink)
      (app.router.uncounted_plugin?_counted plugin label action name)
    rwa [Option.map_map, Option.map_map] at h
  obtain ⟨plugins, hp⟩ := app.router.counted_eq plugin label action
  unfold scene
  simp only [hsink, Scene.mk.injEq, and_true]
  rw [hp]

/-! ### What layers do -/

theorem run_count (plugin : Text) (label : Value) (action : Text) (app : Application) :
    (count plugin label action).run app = ⟨[.counted label.written action],
      { app with router := app.router.counted plugin label action }, .ok ()⟩ := by
  unfold count Router.counted
  simp only [Step.run_bind, Step.run_modify, Outcome.andThen_ok, Step.run_emit, List.nil_append]
  cases app.router.plugin? plugin <;> rfl

theorem run_tick (app : Application) (h : Clock.isTellable app.clock.next.1 = true) :
    tick.run app = ⟨[], { app with clock := app.clock.next.2 }, .ok app.clock.next.1⟩ := by
  unfold tick
  simp only [Step.run_bind, Step.run_read, Outcome.andThen_ok, List.nil_append, Step.run_modify, h]
  rfl

theorem run_report {plugin : Text} (h : app.scene.sink plugin ≠ .unusable) (r : Reporting)
    (text : Text) :
    (report plugin r text).run app = ⟨app.scene.message plugin r text, app, .ok ()⟩ := by
  have he : ∃ event?, r.event? (app.scene.sink plugin) app.isHeard text = .ok event? := by
    unfold Reporting.event?
    cases hs : app.scene.sink plugin with
    | unusable => exact absurd hs h
    | shared => cases app.isHeard <;> split <;> (try split) <;> exact ⟨_, rfl⟩
    | own => split <;> (try split) <;> exact ⟨_, rfl⟩
    | unheard => split <;> (try split) <;> exact ⟨_, rfl⟩
  obtain ⟨event?, he⟩ := he
  have hm : app.scene.message plugin r text = event?.toList := by
    unfold Scene.message
    rw [show app.scene.isHeard = app.isHeard from rfl, he]
    rfl
  have hsink : ((app.router.plugin? plugin).map Plugin.sink).getD .shared = app.scene.sink plugin :=
    rfl
  unfold report
  simp only [Step.run_bind, Step.run_read, Outcome.andThen_ok, hsink, he, hm]
  cases event? <;> rfl

/-- A message goes out if it is wanted. -/
theorem run_report_if (app : Application) {plugin : Text} (h : app.scene.sink plugin ≠ .unusable)
    (r : Reporting) (wanted : Bool) (text : Text) :
    (if wanted then report plugin r text else pure ()).run app =
      ⟨if wanted then app.scene.message plugin r text else [], app, .ok ()⟩ := by
  cases wanted with
  | true => exact run_report h r text
  | false => rfl

theorem reported_eq (plugin : Text) (r : Reporting) (action : Text)
    (inner : Step Application Value) : reported plugin r action inner =
      (if r.before then report plugin r (action ++ " start".toList) else pure ()) >>= fun _ =>
        tick >>= fun start => inner >>= fun result => tick >>= fun stop =>
          (if r.after then
            report plugin r (action ++ " end (".toList ++ Clock.elapsed start stop ++ " ms)".toList)
          else pure ()) >>= fun _ => pure result := by
  obtain ⟨enabled, before, after, log, print⟩ := r
  cases before <;> cases after <;> rfl

/-- What a reporting layer makes of a call, if it is known what comes of the layers inside it. -/
theorem run_reported {plugin : Text} {inner : Step Application Value} {events : List Event}
    {clock : Clock} {router : Router} {result : Except Fault Value}
    (hp : app.scene.sink plugin ≠ .unusable) (hstart : Clock.isTellable app.clock.next.1 = true)
    (hinner : inner.run { app with clock := app.clock.next.2 } =
      ⟨events, { app with clock, router }, result⟩)
    (hscene : scene { app with clock, router } = app.scene)
    (hstop : Clock.isTellable clock.next.1 = true) :
    (reported plugin (app.scene.reporting action plugin) action inner).run app =
      if result.isOk then
        ⟨app.scene.startOf action plugin ++ events ++
            app.scene.endOf action plugin app.clock.next.1 clock.next.1,
          { app with clock := clock.next.2, router }, result⟩
      else ⟨app.scene.startOf action plugin ++ events, { app with clock, router }, result⟩ := by
  have hbefore := run_report_if app hp (app.scene.reporting action plugin)
    (app.scene.reporting action plugin).before (action ++ " start".toList)
  rw [reported_eq, Step.run_bind, hbefore, Outcome.andThen_ok, Step.run_bind, run_tick app hstart,
    Outcome.andThen_ok, Step.run_bind, hinner]
  cases result with
  | error fault =>
    rw [Outcome.andThen_error]
    rfl
  | ok v =>
    have htick : tick.run { app with clock, router } =
        ⟨[], { app with clock := clock.next.2, router }, .ok clock.next.1⟩ :=
      run_tick { app with clock, router } hstop
    have hscene' : scene { app with clock := clock.next.2, router } = app.scene := hscene
    have hafter := run_report_if { app with clock := clock.next.2, router }
      (hscene'.symm ▸ hp) (app.scene.reporting action plugin)
      (app.scene.reporting action plugin).after
      (action ++ " end (".toList ++ Clock.elapsed app.clock.next.1 clock.next.1 ++ " ms)".toList)
    rw [hscene'] at hafter
    rw [Outcome.andThen_ok, Step.run_bind, htick, Outcome.andThen_ok, Step.run_bind, hafter,
      Outcome.andThen_ok]
    refine Outcome.ext ?_ rfl rfl
    change app.scene.startOf action plugin ++ ([] ++ (events ++ ([] ++
      (app.scene.endOf action plugin app.clock.next.1 clock.next.1 ++ [])))) =
        app.scene.startOf action plugin ++ events ++
          app.scene.endOf action plugin app.clock.next.1 clock.next.1
    rw [List.append_nil, List.nil_append, List.nil_append, List.append_assoc]

/-- How a call ends that goes through these layers, all of which are on, if it is known how that of
the callable ends. -/
def nested (app : Application) (action : Text) (result : Except Fault Value)
    (controllers : ControllerCache) (on : List Layer) : Outcome Application Value where
  events := (app.scene.trace action result.isOk on app.clock).1
  state := { app with
    clock := (app.scene.trace action result.isOk on app.clock).2
    router := { app.router.recorded action on with controllers } }
  result

theorem run_call_eq_nested (action : Text) (callable : Object) (args : Arguments)
    (app : Application) : (Step.on cachePart (ControllerCache.call callable args)).run app =
      app.nested action (app.router.controllers.answer callable args)
        (app.router.controllers.afterCall callable args) [] := by
  have hon : (Step.on cachePart (ControllerCache.call callable args)).run app =
      let inner := (ControllerCache.call callable args).run app.router.controllers
      ⟨inner.events, cachePart.set inner.state app, inner.result⟩ := rfl
  rw [hon, ControllerCache.run_call]
  rfl

theorem scene_recorded (action : Text) (on : List Layer) (app : Application) :
    scene { app with router := app.router.recorded action on } = app.scene := by
  induction on generalizing app with
  | nil => rfl
  | cons layer on ih =>
    obtain ⟨plugin, kind⟩ := layer
    cases kind with
    | pass => exact ih app
    | report => exact ih app
    | count label => exact (ih _).trans (scene_counted plugin label action)

variable {inner : Step Application Value} {result : Except Fault Value}
  {controllers : ControllerCache} {plugin : Text} {on : List Layer}

theorem run_performLayer_count {label : Value}
    (hinner : inner.run { app with router := app.router.counted plugin label action } =
      nested { app with router := app.router.counted plugin label action } action result
        controllers on)
    (scopes : Scopes) : (performLayer action ⟨plugin, .count label⟩ scopes inner).run app =
      app.nested action result controllers (⟨plugin, .count label⟩ :: on) := by
  have hscene : scene { app with router := app.router.counted plugin label action } = app.scene :=
    scene_counted plugin label action
  unfold performLayer
  rw [Step.run_bind, run_count, Outcome.andThen_ok, hinner]
  unfold nested
  rw [hscene]
  rfl

theorem run_performLayer_report (hp : app.scene.CanReport action plugin)
    (hc : app.clock.Tells (2 * on.length + 1 + 1))
    (hinner : ∀ clock : Clock, clock.Tells (2 * on.length) →
      inner.run { app with clock } = nested { app with clock } action result controllers on) :
    (performLayer action ⟨plugin, .report⟩ (app.scene.scopes plugin) inner).run app =
      app.nested action result controllers (⟨plugin, .report⟩ :: on) := by
  obtain ⟨⟨settings, hs⟩, hsink⟩ := hp
  have hr : Reporting.ofSettings settings = app.scene.reporting action plugin := by
    unfold Scene.reporting
    rw [hs]
    rfl
  have hperform : (performLayer action ⟨plugin, .report⟩ (app.scene.scopes plugin) inner).run app =
      (if (app.scene.reporting action plugin).enabled then
        reported plugin (app.scene.reporting action plugin) action inner else inner).run app := by
    unfold performLayer
    simp only [hs, Step.ofExcept, Step.run_bind, Step.run_pure, Outcome.andThen_ok, hr,
      List.nil_append]
  rw [hperform]
  unfold nested Scene.trace
  by_cases he : (app.scene.reporting action plugin).enabled = true
  · have hrest : (app.scene.trace action result.isOk on app.clock.next.2).2.Tells 1 :=
      Scene.tells_trace _ on hc.2
    rw [if_pos he, run_reported hsink hc.1 (hinner _ (hc.2.mono (by omega)))
      (scene_recorded action on app) hrest.1]
    simp only [he, if_true]
    cases result <;> rfl
  · rw [if_neg he, hinner app.clock (hc.mono (by omega))]
    simp only [he]
    rfl

/-- A call through layers, whose plugins may be on or off, goes through those that are on. -/
theorem run_callThrough {callable : Object} {args : Arguments} {layers : List Layer}
    (hl : ∀ layer ∈ layers, app.scene.isOn action layer = true → layer.action = .report →
      app.scene.CanReport action layer.plugin)
    (hc : app.clock.Tells (2 * (layers.filter (app.scene.isOn action)).length)) :
    (callThrough action callable args layers).run app =
      app.nested action (app.router.controllers.answer callable args)
        (app.router.controllers.afterCall callable args)
        (layers.filter (app.scene.isOn action)) := by
  -- Neither the clock nor what is counted is part of the scene, which is the same for every layer.
  induction layers generalizing app with
  | nil => exact run_call_eq_nested action callable args app
  | cons layer layers ih =>
    have hl' : ∀ layer ∈ layers, app.scene.isOn action layer = true → layer.action = .report →
        app.scene.CanReport action layer.plugin := fun l hm => hl l (List.mem_cons_of_mem _ hm)
    by_cases hon : app.scene.isOn action layer = true
    · have hf : (layer :: layers).filter (app.scene.isOn action) =
        layer :: layers.filter (app.scene.isOn action) := List.filter_cons_of_pos hon
      have hp : layer.action = .report → app.scene.CanReport action layer.plugin :=
        hl layer List.mem_cons_self hon
      have hcall : (callThrough action callable args (layer :: layers)).run app =
          (performLayer action layer (app.scene.scopes layer.plugin)
            (callThrough action callable args layers)).run app := by
        have hon : (app.router.store.scopes layer.plugin).isEnabled action = true := hon
        rw [callThrough_cons]
        unfold callLayer
        simp only [Step.run_bind, Step.run_read, Outcome.andThen_ok, List.nil_append, hon, if_true]
        rfl
      rw [hf, List.length_cons, Nat.mul_add] at hc
      rw [hf, hcall]
      obtain ⟨plugin, kind⟩ := layer
      cases kind with
      | pass => exact ih hl' (hc.mono (by omega))
      | count label =>
        have hscene : scene { app with router := app.router.counted plugin label action } =
          app.scene := scene_counted plugin label action
        have hinner := @ih { app with router := app.router.counted plugin label action }
        rw [hscene, Router.controllers_counted] at hinner
        exact run_performLayer_count (hinner hl' (hc.mono (by omega))) _
      | report =>
        exact run_performLayer_report (hp rfl) hc fun clock hc' => @ih { app with clock } hl' hc'
    · have hf : (layer :: layers).filter (app.scene.isOn action) =
        layers.filter (app.scene.isOn action) := List.filter_cons_of_neg hon
      rw [hf] at hc ⊢
      have hoff : (app.router.store.scopes layer.plugin).isEnabled action = false := by
        exact Bool.not_eq_true _ ▸ hon
      rw [run_callThrough_off hoff]
      exact ih hl' hc

end Application

end Routing
