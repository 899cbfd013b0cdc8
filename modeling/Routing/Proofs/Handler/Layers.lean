import Mathlib.Data.List.Forall2
import Routing.Application.Deployment
import Routing.Proofs.Handler.Trace
import Routing.Proofs.Table.Source

/-!
# The layers of a handler

A handler is made with one layer for each plugin that is attached then, in the order of attachment
(`result_makeHandler_eq_ok_iff`).  A plugin that is off for the action might as well not have been
there, and one that is attached later makes no difference to a call.  Main statement:
`handler_calls_nest`.
-/

namespace Routing.Application

variable {app app' : Application} {action : Text}

/-! ### Making handlers -/

/-- A layer for each plugin, in the order of the plugins. -/
def LayeredBy (store : Store) (action : Text) : List Plugin → List Layer → Prop :=
  List.Forall₂ fun p layer => layerOf store action p = .ok layer

variable {store : Store} {ps : List Plugin} {layers : List Layer}

theorem layersOf_eq_ok_iff :
    layersOf store action ps = .ok layers ↔ LayeredBy store action ps layers := by
  constructor
  · intro h
    induction ps generalizing layers with
    | nil =>
      obtain rfl := Except.ok.inj h
      exact .nil
    | cons p ps ih =>
      obtain ⟨inner, hi, h⟩ := exists_of_bind_eq_ok h
      obtain ⟨layer, hl, h⟩ := exists_of_bind_eq_ok h
      obtain rfl := Except.ok.inj h
      exact .cons hl (ih hi)
  · intro h
    induction h with
    | nil => rfl
    | cons hl _ ih =>
      unfold layersOf
      rw [ih, hl]
      rfl

theorem exists_of_forall₂_append_cons {α β : Type} {R : α → β → Prop} {xs ys : List α} {x : α}
    {bs : List β} (h : List.Forall₂ R (xs ++ x :: ys) bs) : ∃ outer b inner,
      bs = outer ++ b :: inner ∧ List.Forall₂ R xs outer ∧ R x b ∧ List.Forall₂ R ys inner := by
  induction xs generalizing bs with
  | nil =>
    obtain ⟨b, inner, hb, hi, rfl⟩ := List.forall₂_cons_left_iff.1 h
    exact ⟨[], b, inner, rfl, .nil, hb, hi⟩
  | cons a xs ih =>
    obtain ⟨b', bs, hb', hbs, rfl⟩ := List.forall₂_cons_left_iff.1 h
    obtain ⟨outer, b, inner, rfl, ho, hb, hi⟩ := ih hbs
    exact ⟨b' :: outer, b, inner, rfl, .cons hb' ho, hb, hi⟩

theorem plugin_of_layerOf {p : Plugin} {layer : Layer} (h : layerOf store action p = .ok layer) :
    layer.plugin = p.name := by
  unfold layerOf at h
  split at h
  · obtain rfl := Except.ok.inj h
    rfl
  · obtain rfl := Except.ok.inj h
    rfl
  · obtain ⟨settings, -, h⟩ := exists_of_bind_eq_ok h
    obtain rfl := Except.ok.inj h
    rfl

/-- Finding the callable that serves an endpoint. -/
def resolve (e : Endpoint) (app : Application) : Outcome ControllerCache Object :=
  (ControllerCache.callable app.files e.controller e.method).run app.router.controllers

theorem run_makeHandler (e : Endpoint) (app : Application) : (makeHandler e).run app =
    ⟨(resolve e app).events, cachePart.set (resolve e app).state app,
      (resolve e app).result >>= fun callable => wrap e callable app.router⟩ := by
  have hon :
      (Step.on cachePart (ControllerCache.callable app.files e.controller e.method)).run app =
        ⟨(resolve e app).events, cachePart.set (resolve e app).state app,
          (resolve e app).result⟩ := rfl
  unfold makeHandler
  rw [Step.run_bind, Step.run_read, Outcome.andThen_ok, Step.run_bind, hon]
  cases (resolve e app).result with
  | error fault => rfl
  | ok callable =>
    have hrest : (Step.read >>= fun app => Step.ofExcept (wrap e callable app.router)).run
        (cachePart.set (resolve e app).state app) =
          ⟨[], cachePart.set (resolve e app).state app, wrap e callable app.router⟩ := by
      rw [Step.run_bind, Step.run_read, Outcome.andThen_ok, Step.run_ofExcept]
      rfl
    rw [Outcome.andThen_ok, hrest, List.append_nil]
    rfl

theorem wrap_eq_ok_iff {e : Endpoint} {callable : Object} {r : Router} {h : Handler} :
    wrap e callable r = .ok h ↔ h.action = e.action ∧ h.callable = callable ∧
      LayeredBy r.store e.action r.plugins h.layers := by
  constructor
  · intro hw
    obtain ⟨layers, hl, hw⟩ := exists_of_bind_eq_ok hw
    obtain rfl := Except.ok.inj hw
    exact ⟨rfl, rfl, layersOf_eq_ok_iff.1 hl⟩
  · rintro ⟨ha, rfl, hl⟩
    unfold wrap
    rw [layersOf_eq_ok_iff.2 hl]
    obtain ⟨action, callable, layers⟩ := h
    obtain rfl : action = e.action := ha
    rfl

/-- A handler has the callable of its endpoint and a layer for each attached plugin. -/
theorem result_makeHandler_eq_ok_iff {e : Endpoint} {h : Handler} :
    ((makeHandler e).run app).result = .ok h ↔ h.action = e.action ∧
      (resolve e app).result = .ok h.callable ∧
        LayeredBy app.router.store e.action app.router.plugins h.layers := by
  rw [run_makeHandler]
  constructor
  · intro hr
    obtain ⟨callable, hc, hw⟩ := exists_of_bind_eq_ok hr
    obtain ⟨ha, rfl, hl⟩ := wrap_eq_ok_iff.1 hw
    exact ⟨ha, hc, hl⟩
  · rintro ⟨ha, hc, hl⟩
    have hw : wrap e h.callable app.router = .ok h := wrap_eq_ok_iff.2 ⟨ha, rfl, hl⟩
    dsimp only
    rw [hc]
    exact hw

/-! ### A plugin that is off -/

/-- Two steps come to the same wherever the plugin of a name is off for an action. -/
def SameWhereOff (action name : Text) (x y : Step Application Value) : Prop :=
  ∀ app : Application, (app.router.store.scopes name).isEnabled action = false →
    x.run app = y.run app

theorem state_report (plugin : Text) (r : Reporting) (text : Text) (app : Application) :
    ((report plugin r text).run app).state = app := by
  unfold report
  simp only [Step.run_bind, Step.run_read, Outcome.andThen_ok, Step.run_ofExcept]
  cases r.event? (((app.router.plugin? plugin).map Plugin.sink).getD .shared) app.isHeard text with
  | error fault => rfl
  | ok event? => cases event? <;> rfl

theorem state_tick (app : Application) :
    (tick.run app).state = { app with clock := app.clock.next.2 } := by
  unfold tick
  simp only [Step.run_bind, Step.run_read, Step.run_modify, Outcome.andThen_ok]
  cases Clock.isTellable app.clock.next.1 <;> rfl

theorem run_reported_congr {plugin : Text} {r : Reporting} {x y : Step Application Value}
    (h : ∀ clock : Clock, x.run { app with clock } = y.run { app with clock }) :
    (reported plugin r action x).run app = (reported plugin r action y).run app := by
  rw [reported_eq, reported_eq]
  refine Step.run_bind_congr fun _ => ?_
  have hs : ((if r.before then report plugin r (action ++ " start".toList) else pure ()).run
      app).state = app := by
    cases r.before with
    | true => exact state_report _ _ _ _
    | false => rfl
  rw [hs]
  refine Step.run_bind_congr fun start => ?_
  rw [state_tick, Step.run_bind, Step.run_bind, h]

/-- What a layer makes of a call has no part in whether a plugin is on. -/
theorem SameWhereOff.callLayer {name : Text} {x y : Step Application Value}
    (h : SameWhereOff action name x y) (layer : Layer) :
    SameWhereOff action name (callLayer action layer x) (callLayer action layer y) := by
  intro app ho
  unfold Application.callLayer
  refine Step.run_bind_congr fun app' => ?_
  rw [show (Step.read.run app).state = app from rfl]
  dsimp only
  split
  · unfold performLayer
    split
    · exact h app ho
    · rename_i label _
      refine Step.run_bind_congr fun _ => ?_
      rw [run_count]
      obtain ⟨plugins, hp⟩ := app.router.counted_eq layer.plugin label action
      rw [hp]
      exact h _ ho
    · refine Step.run_bind_congr fun settings => ?_
      rw [Step.run_ofExcept]
      dsimp only
      split
      · exact run_reported_congr fun clock => h _ ho
      · exact h app ho
  · exact h app ho

/-- A layer whose plugin is off for the action might as well not be there. -/
theorem sameWhereOff_callThrough {callable : Object} {args : Arguments} (outer : List Layer)
    (layer : Layer) (inner : List Layer) : SameWhereOff action layer.plugin
      (callThrough action callable args (outer ++ layer :: inner))
      (callThrough action callable args (outer ++ inner)) := by
  induction outer with
  | nil => exact fun app ho => run_callThrough_off ho
  | cons l outer ih => exact ih.callLayer l

/-! ### A plugin that comes later -/

/-- What a call of a handler needs besides its callable: the reporting plugins that are on can
report, and there is time to be told. -/
structure Ready (h : Handler) (app : Application) : Prop where
  canReport : ∀ layer ∈ h.layers, app.scene.isOn h.action layer = true → layer.action = .report →
    app.scene.CanReport h.action layer.plugin
  tells : app.clock.Tells (2 * (h.layers.filter (app.scene.isOn h.action)).length)

theorem Ready.congr {h : Handler} (hr : Ready h app) (hs : app.scene.SameFor app'.scene h.layers)
    (hc : app'.clock = app.clock) : Ready h app' := by
  have hon := Scene.filter_isOn_congr hs h.action
  refine ⟨fun layer hm ho hk => ?_, ?_⟩
  · obtain ⟨hscopes, hsink⟩ := hs.2 layer hm
    have ho' : app.scene.isOn h.action layer = true := by
      unfold Scene.isOn at ho ⊢
      rwa [← hscopes]
    have hp := hr.canReport layer hm ho' hk
    unfold Scene.CanReport at hp ⊢
    rwa [hscopes, hsink]
  · rw [hon, hc]
    exact hr.tells

theorem run_call {h : Handler} (hr : Ready h app) (args : Arguments) : (call h args).run app =
    app.nested h.action (app.router.controllers.answer h.callable args)
      (app.router.controllers.afterCall h.callable args)
      (h.layers.filter (app.scene.isOn h.action)) :=
  run_callThrough hr.canReport hr.tells

/-- Attaching a plugin concerns no host, no clock and no controller, and nothing of the plugins that
are there. -/
theorem attach_spares (name : Value) (given : Settings) (sink : Option Sink) (app : Application) :
    ((attach name given sink).run app).state.hosts = app.hosts ∧
    ((attach name given sink).run app).state.clock = app.clock ∧
    ((attach name given sink).run app).state.router.controllers = app.router.controllers ∧
    ((attach name given sink).run app).state.isHeard = app.isHeard ∧
    ∀ p, app.router.plugin? p.name = some p →
      ((attach name given sink).run app).state.router.plugin? p.name = some p ∧
      ((attach name given sink).run app).state.router.store.scopes p.name =
        app.router.store.scopes p.name := by
  rcases state_attach name given sink app with hs | ⟨cls, hcls, hs | ⟨store, seen, hc, hs⟩⟩ <;>
    rw [hs]
  · exact ⟨rfl, rfl, rfl, rfl, fun p hp => ⟨hp, rfl⟩⟩
  · refine ⟨rfl, rfl, rfl, rfl, fun p hp => ⟨hp, ?_⟩⟩
    have hne : p.name ≠ cls.code := fun he => nomatch (he ▸ hp).symm.trans hcls
    rw [Store.scopes_eq, Store.scopes_eq]
    exact congrArg _ (Store.owned_withScopes_of_ne hne)
  · refine ⟨rfl, rfl, rfl, rfl, fun p hp => ⟨?_, ?_⟩⟩
    · exact Router.plugin?_concat_of_some hp
    · have hne : p.name ≠ cls.code := fun he => nomatch (he ▸ hp).symm.trans hcls
      rw [Store.scopes_eq, Store.scopes_eq]
      have ho := Plugin.owned_of_configure_of_ne hne hc
      exact congrArg _ (ho.trans (Store.owned_withScopes_of_ne hne))

theorem sameFor_attach {layers : List Layer} (name : Value) (given : Settings) (sink : Option Sink)
    (ha : ∀ layer ∈ layers, (app.router.plugin? layer.plugin).isSome = true) :
    app.scene.SameFor ((attach name given sink).run app).state.scene layers := by
  obtain ⟨-, -, -, hheard, hspared⟩ := attach_spares name given sink app
  refine ⟨hheard, fun layer hm => ?_⟩
  obtain ⟨p, hp⟩ := Option.isSome_iff_exists.1 (ha layer hm)
  have hn : p.name = layer.plugin := Router.name_of_plugin? hp
  rw [← hn] at hp ⊢
  obtain ⟨hp', hscopes⟩ := hspared p hp
  refine ⟨hscopes, ?_⟩
  unfold scene
  dsimp only
  rw [hp', hp]

/-! ### The whole -/

/-- A handler has a layer for each plugin that is attached when it is made, in the order of
attachment.  When it is called, what is reported is the nesting of the layers whose plugins are on
for its action at that time, the first outermost, the result is that of the callable, and nothing changes
but the clock, what is counted, and the controller that the callable is of.  A plugin that is off
might as well not have been attached, and one that is attached afterwards changes nothing. -/
theorem handler_calls_nest {e : Endpoint} {app₀ : Application} {h : Handler}
    (hm : ((makeHandler e).run app₀).result = .ok h) :
    (h.action = e.action ∧ (resolve e app₀).result = .ok h.callable ∧
      List.Forall₂ (fun p layer => layerOf app₀.router.store e.action p = .ok layer)
        app₀.router.plugins h.layers) ∧
    (∀ app args, Ready h app →
      let on := h.layers.filter (app.scene.isOn e.action)
      let result := app.router.controllers.answer h.callable args
      (call h args).run app =
        ⟨(app.scene.trace e.action result.isOk on app.clock).1,
          { app with
            clock := (app.scene.trace e.action result.isOk on app.clock).2
            router := { app.router.recorded e.action on with
              controllers := app.router.controllers.afterCall h.callable args } },
          result⟩) ∧
    (∀ before p after, app₀.router.plugins = before ++ p :: after →
      ∃ h', ((makeHandler e).run (app₀.withPlugins (before ++ after))).result = .ok h' ∧
        ∀ app args, (app.router.store.scopes p.name).isEnabled e.action = false →
          (call h args).run app = (call h' args).run app) ∧
    ∀ app name given sink args, Ready h app →
      (∀ layer ∈ h.layers, (app.router.plugin? layer.plugin).isSome = true) →
      let later := ((attach name given sink).run app).state
      later.hosts = app.hosts ∧ ((call h args).run later).events = ((call h args).run app).events ∧
        ((call h args).run later).result = ((call h args).run app).result := by
  obtain ⟨haction, hcallable, hlayers⟩ := result_makeHandler_eq_ok_iff.1 hm
  refine ⟨⟨haction, hcallable, hlayers⟩, fun app args hr => ?_, fun before p after hp => ?_,
    fun app name given sink args hr ha => ?_⟩
  · rw [run_call hr args, haction]
    rfl
  · unfold LayeredBy at hlayers
    rw [hp] at hlayers
    obtain ⟨outer, layer, inner, hh, houter, hlayer, hinner⟩ :=
      exists_of_forall₂_append_cons hlayers
    have hname : layer.plugin = p.name := plugin_of_layerOf hlayer
    have hmade : ((makeHandler e).run (app₀.withPlugins (before ++ after))).result =
        .ok { h with layers := outer ++ inner } :=
      result_makeHandler_eq_ok_iff.2 ⟨haction, hcallable, List.rel_append houter hinner⟩
    refine ⟨_, hmade, fun app args ho => ?_⟩
    unfold call
    rw [hh, haction]
    rw [← hname] at ho
    exact sameWhereOff_callThrough outer layer inner app ho
  · have hs := sameFor_attach name given sink ha
    obtain ⟨hhosts, hclock, hcontrollers, -, -⟩ := attach_spares name given sink app
    refine ⟨hhosts, ?_, ?_⟩
    · rw [run_call (hr.congr hs hclock), run_call hr, hcontrollers]
      unfold nested
      rw [Scene.filter_isOn_congr hs, hclock, Scene.trace_congr (hs.filter _)]
    · rw [run_call (hr.congr hs hclock), run_call hr, hcontrollers]
      rfl

/-- A router with a plugin that reports and, inside it, one that counts. -/
def twoPlugins : Application :=
  (withRoutes [] [("p", ⟨[.define "a" (.function "a" "done" none)], none⟩)]).withPlugins
    [⟨.logging, .shared, [], []⟩, ⟨.counting, .shared, [], []⟩]

/-- That router after it has made a handler. -/
def servingTwoPlugins : Application := ((makeHandler ⟨.get, "/a", "p", "a"⟩).run twoPlugins).state

theorem handler_calls_nest_two_plugins :
    ∃ h, ((makeHandler ⟨.get, "/a", "p", "a"⟩).run twoPlugins).result = .ok h ∧
      ((call h ⟨[.int 1], [("x", .int 2)]⟩).run servingTwoPlugins).events =
        [.printed "p.a start", .counted "counting" "p.a", .printed "p.a end (0.98 ms)"] ∧
      ((call h ⟨[.int 1], [("x", .int 2)]⟩).run servingTwoPlugins).result =
        .ok (.text "done|1|x=2") := by
  obtain ⟨h, hm, ha, hl, hc⟩ :
      ∃ h, ((makeHandler ⟨.get, "/a", "p", "a"⟩).run twoPlugins).result = .ok h ∧
        h.action = "p.a" ∧
        h.layers = [⟨"logging", .report⟩, ⟨"counting", .count (.text "counting")⟩] ∧
        servingTwoPlugins.router.controllers.answer h.callable ⟨[.int 1], [("x", .int 2)]⟩ =
          .ok (.text "done|1|x=2") := ⟨_, rfl, rfl, rfl, by decide +kernel⟩
  have hready : Ready h servingTwoPlugins := by
    refine ⟨fun layer hmem _ _ => ⟨Scopes.exists_merged (Store.comparable_nil.scopes _) _, ?_⟩, ?_⟩
    · have hsink : ∀ name ∈ h.layers.map Layer.plugin,
          servingTwoPlugins.scene.sink name ≠ .unusable := by
        rw [hl]
        decide
      exact hsink _ (List.mem_map_of_mem hmem)
    · rw [hl, ha]
      decide
  obtain ⟨-, hcall, -⟩ := handler_calls_nest hm
  refine ⟨h, hm, ?_, ?_⟩
  · rw [hcall servingTwoPlugins _ hready]
    dsimp only
    rw [hl, hc]
    decide
  · rw [hcall servingTwoPlugins _ hready]
    exact hc

end Routing.Application
