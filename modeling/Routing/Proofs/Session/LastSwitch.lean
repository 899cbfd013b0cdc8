import Routing.Proofs.Session.Diary

/-!
# What a switch was last set to

Whether a plugin is on for an action goes by the last switch of that action, if there was one, and
else by the last at the base level; nothing but such a switch ever changes it.  Who asks for a
plugin that is not attached is refused, and nothing changes.  Main statement: `switch_last_set`.
-/

namespace Routing

/-- The plugin that has to be attached for a request. -/
def Request.asksFor : Request → Option Text
  | .call (.configure n _) => some n
  | .call (.setEnabled _ n _) => some n
  | .pluginNamed n => some n
  | .configOf n _ => some n
  | .isEnabled _ n => some n
  | _ => none

/-- Whether the plugin is looked for among the attributes of the router. -/
def Request.isByAttribute : Request → Bool
  | .call (.configure ..) => true
  | .pluginNamed _ => true
  | _ => false

namespace Mark

theorem lastSwitch?_append_of_forall {target : Text} {marks more : List Mark}
    (h : ∀ m ∈ more, m.switch? target = none) :
    lastSwitch? target (marks ++ more) = lastSwitch? target marks := by
  unfold lastSwitch?
  rw [List.filterMap_append, List.filterMap_eq_nil_iff.2 h, List.append_nil]

end Mark

theorem Step.run_bind_of_refused {σ α β : Type} {x : Step σ α} {s : σ} {fault : Fault}
    (h : x.run s = ⟨[], s, .error fault⟩) (f : α → Step σ β) :
    (x >>= f).run s = ⟨[], s, .error fault⟩ := by
  rw [Step.run_bind, h, Outcome.andThen_error]

/-- A mark of a request that does not switch a target is no switch of it. -/
theorem Request.Leaves.switch? {r : Request} {name : Text} {m : Mark} (h : r.Leaves name m)
    {target : Text} (ht : ∀ other on, r = .call (.setEnabled other name on) → other ≠ target) :
    m.switch? target = none := by
  unfold Request.Leaves at h
  split at h
  · obtain ⟨cls, hm⟩ := h
    exact PluginClass.switch?_of_mem_marks hm target
  · obtain ⟨cls, hm⟩ := h
    exact PluginClass.switch?_of_mem_marks hm target
  · obtain ⟨rfl, rfl⟩ := h
    exact if_neg (ht _ _ rfl)
  · exact h.elim

namespace Application

variable {app : Application} {requests : List Request} {name action : Text}

/-! ### Plugins that are not attached -/

theorem pluginNamed_of_absent (h : app.router.plugin? name = none) :
    ∃ fault, pluginNamed name app = .error fault ∧ fault.family = .access := by
  unfold pluginNamed Router.plugin
  rw [h]
  split
  · exact ⟨_, rfl, rfl⟩
  · exact ⟨_, rfl, rfl⟩

theorem pluginFor_of_absent (h : app.router.plugin? name = none) :
    ∃ fault, pluginFor name app = .error fault ∧ fault.family = .access := by
  unfold pluginFor
  split
  · exact ⟨_, rfl, rfl⟩
  · exact pluginNamed_of_absent h

/-- A plugin that is not attached is no attribute either, though the path of the routes file can
fail for reasons of its own. -/
theorem run_pluginAttribute_of_absent (h : app.router.plugin? name = none) :
    ∃ fault, (pluginAttribute name).run app = ⟨[], app, .error fault⟩ ∧
      (name ≠ pathAttribute → fault.family = .access) := by
  obtain ⟨fault, hfor, hfamily⟩ := pluginFor_of_absent h
  rw [run_pluginAttribute, hfor]
  split
  · rename_i hpath
    cases app.router.routesLocation with
    | error fault' => exact ⟨fault', rfl, fun hne => absurd hpath hne⟩
    | ok path => exact ⟨fault, rfl, fun _ => hfamily⟩
  · exact ⟨fault, rfl, fun _ => hfamily⟩

theorem run_attached_of_absent (h : app.router.plugin? name = none) :
    ∃ fault, (attached name).run app = ⟨[], app, .error fault⟩ ∧ fault.family = .access := by
  obtain ⟨fault, hnamed, hfamily⟩ := pluginNamed_of_absent h
  exact ⟨fault, by rw [run_attached, hnamed], hfamily⟩

/-- Who asks for a plugin that is not attached is refused, and nothing changes. -/
theorem run_perform_of_absent (h : app.router.plugin? name = none) {r : Request}
    (hr : r.asksFor = some name) :
    ∃ fault, r.perform.run app = ⟨[], app, .error fault⟩ ∧
      ((r.isByAttribute = true → name ≠ pathAttribute) → fault.family = .access) := by
  obtain ⟨byAttribute, hattribute, hbyAttribute⟩ := run_pluginAttribute_of_absent h
  obtain ⟨byName, hattached, hbyName⟩ := run_attached_of_absent h
  unfold Request.asksFor at hr
  split at hr
  · obtain rfl := Option.some.inj hr
    refine ⟨byAttribute, ?_, fun hpath => hbyAttribute (hpath rfl)⟩
    exact Step.run_bind_of_refused
      (Step.run_bind_of_refused (Step.run_bind_of_refused hattribute _) _) _
  · obtain rfl := Option.some.inj hr
    refine ⟨byName, ?_, fun _ => hbyName⟩
    exact Step.run_bind_of_refused
      (Step.run_bind_of_refused (Step.run_bind_of_refused hattached _) _) _
  · obtain rfl := Option.some.inj hr
    refine ⟨byAttribute, ?_, fun hpath => hbyAttribute (hpath rfl)⟩
    exact Step.run_bind_of_refused hattribute _
  · obtain rfl := Option.some.inj hr
    refine ⟨byName, ?_, fun _ => hbyName⟩
    exact Step.run_bind_of_refused (Step.run_bind_of_refused hattached _) _
  · obtain rfl := Option.some.inj hr
    refine ⟨byName, ?_, fun _ => hbyName⟩
    exact Step.run_bind_of_refused (Step.run_bind_of_refused hattached _) _
  · exact nomatch hr

/-! ### Plugins that are attached -/

/-- Whether a plugin is on for an action, as the diary of the plugin tells. -/
def lastSet (action : Text) (d : Diary) : Bool :=
  ((Mark.lastSwitch? action d.marks).or (Mark.lastSwitch? baseLevel d.marks)).getD true

theorem run_isEnabled_of_tells {registry : Registry} {d : Diary} (h : d.Tells registry name app)
    (hd : d.cls.isSome = true) (action : Text) :
    (isEnabled action name).run app = ⟨[], app, .ok (lastSet action d)⟩ := by
  obtain ⟨p, hnamed, rfl⟩ := h.exists_pluginNamed hd
  have hscopes : (app.router.store.scopes p.name).isEnabled action = lastSet action d := by
    unfold Scopes.isEnabled lastSet
    rw [h.scopes, Scopes.switch?_replay, Scopes.switch?_replay, Option.orElse_eq_or]
  unfold isEnabled
  rw [Step.run_bind, run_attached, hnamed, ← hscopes]
  rfl

/-- A request that switches neither an action nor the base level does not change what was last set
for it. -/
theorem lastSet_note {r : Request} (hr : ∀ target on, r = .call (.setEnabled target name on) →
      target ≠ action ∧ target ≠ baseLevel) (registry : Registry) (d : Diary) :
    lastSet action (d.note registry name r) = lastSet action d := by
  obtain ⟨-, more, hmarks, hmore⟩ := Diary.exists_marks_note registry name d r
  unfold lastSet
  rw [hmarks, Mark.lastSwitch?_append_of_forall fun m hm =>
      (hmore m hm).switch? fun target on he => (hr target on he).1,
    Mark.lastSwitch?_append_of_forall fun m hm =>
      (hmore m hm).switch? fun target on he => (hr target on he).2]

/-- After any session of a new router an attached plugin is on for an action as the action was last
switched, else as the base level was, else it is on; and no request changes that but one that
switches the plugin for the action or at the base level.  Who asks for a plugin that is not attached
fails and changes nothing, and is refused access unless it is the path of the routes file that is
read for the plugin. -/
theorem switch_last_set (hplugins : app.router.plugins = []) (hstore : app.router.store = [])
    (hpluggable : app.router.pluggable = true) (requests : List Request) (name : Text) :
    let now := asked requests app
    (∀ p, now.router.plugin? name = some p → ∀ action,
      (isEnabled action name).run now =
          ⟨[], now, .ok (lastSet action (diary app name requests))⟩ ∧
        ∀ r : Request, (∀ target on, r = .call (.setEnabled target name on) →
            target ≠ action ∧ target ≠ baseLevel) →
          ((isEnabled action name).run (r.perform.run now).state).result =
            ((isEnabled action name).run now).result) ∧
      (now.router.plugin? name = none → ∀ r : Request, r.asksFor = some name →
        ∃ fault, r.perform.run now = ⟨[], now, .error fault⟩ ∧
          ((r.isByAttribute = true → name ≠ pathAttribute) → fault.family = .access)) := by
  intro now
  have htells : (diary app name requests).Tells app.registry name now :=
    tells_diary hplugins hstore hpluggable name requests
  refine ⟨fun p hp action => ?_, fun habsent r hr => run_perform_of_absent habsent hr⟩
  have hcls : (diary app name requests).cls.isSome = true := by
    rw [← htells.attached, hp]
    rfl
  refine ⟨run_isEnabled_of_tells htells hcls action, fun r hr => ?_⟩
  have hafter : ((diary app name requests).note app.registry name r).cls.isSome = true := by
    rw [(Diary.exists_marks_note app.registry name (diary app name requests) r).1 hcls]
    exact hcls
  rw [run_isEnabled_of_tells (htells.note r) hafter, run_isEnabled_of_tells htells hcls,
    lastSet_note hr]

/-- A plugin is switched off, and on again for one action and for what looks like several. -/
def switchedAgain : List Request :=
  [.call (.attach (.text "logging") [] none),
    .call (.setEnabled "--base--" "logging" false),
    .call (.configure "logging" [("_target", .text "a.b"), ("enabled", .bool false)]),
    .call (.setEnabled "a.b" "logging" true),
    .call (.setEnabled "a.*" "logging" true)]

theorem switch_last_set_again :
    let now := asked switchedAgain (withRoutes [] [])
    (isEnabled "a.b" "logging").run now = ⟨[], now, .ok true⟩ ∧
      (isEnabled "a.c" "logging").run now = ⟨[], now, .ok false⟩ ∧
      ((isEnabled "a.b" "logging").run
        ((Request.call (.setEnabled "a.c" "logging" false)).perform.run now).state).result =
          .ok true ∧
      ∃ fault, (Request.call (.setEnabled "a.b" "counting" true)).perform.run now =
        ⟨[], now, .error fault⟩ ∧ fault.family = .access := by
  intro now
  have hp : now.router.plugin? "logging" = some ⟨PluginClass.logging, .shared, [], []⟩ := rfl
  have hlast := fun name => @switch_last_set (withRoutes [] []) rfl rfl rfl switchedAgain name
  obtain ⟨hon, hsame⟩ := (hlast "logging").1 _ hp "a.b"
  obtain ⟨hoff, -⟩ := (hlast "logging").1 _ hp "a.c"
  have hb : lastSet "a.b" (diary (withRoutes [] []) "logging" switchedAgain) = true := by
    decide +kernel
  have hc : lastSet "a.c" (diary (withRoutes [] []) "logging" switchedAgain) = false := by
    decide +kernel
  rw [hb] at hon
  rw [hc] at hoff
  refine ⟨hon, hoff, ?_, ?_⟩
  · rw [hsame, hon]
    intro target on he
    obtain ⟨rfl, -, -⟩ := Call.setEnabled.inj (Request.call.inj he)
    decide
  · obtain ⟨fault, hrun, hfamily⟩ := (hlast "counting").2 (by decide +kernel)
      (.call (.setEnabled "a.b" "counting" true)) rfl
    exact ⟨fault, hrun, hfamily nofun⟩

end Application

end Routing
