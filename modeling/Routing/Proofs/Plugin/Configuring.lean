import Routing.Proofs.Plugin.Attached
import Routing.Proofs.Session.Requests
import Routing.Proofs.Store.Changes

/-!
# Configuring is all or nothing

A plugin is configured target by target, and if that fails nothing has been written for any of them.
If it goes well nothing changes but the scopes of the targets.  Main statement:
`configures_all_or_nothing`.
-/

namespace Routing

/-- An empty target is one only if it is all that was named. -/
theorem PluginClass.nil_mem_targets_iff {cls : PluginClass} {target : Text} :
    [] ∈ cls.targets target ↔ target = [] := by
  unfold targets
  split
  · rename_i h
    refine iff_of_false (fun hm => ?_) fun he => ?_
    · have := (List.mem_filter.1 hm).2
      exact nomatch this
    · rw [he] at h
      exact absurd h.2 List.not_mem_nil
  · rw [List.mem_singleton, eq_comm]

namespace Application

variable {app : Application} {given : Settings} {name : Text} {p : Plugin}

/-- A plugin that is found by attribute is configured like any other. -/
theorem run_configure (hp : pluginFor name app = .ok p) (given : Settings) :
    (configure name given).run app = (configureClass p.cls given).run app := by
  have hs : ((pluginAttribute name).run app).state = app := by rw [run_pluginAttribute]
  have he : ((pluginAttribute name).run app).events = [] := by rw [run_pluginAttribute]
  unfold configure
  rw [Step.run_bind_of_result (result_pluginAttribute_eq_ok_iff.2 hp), hs, he]
  rfl

/-- Configuring a plugin fails and changes nothing, or it goes well.  Then, if the target that is
given is a text and the flags do not name flags again, what has changed is the scopes of the targets
in that text: into each the settings have been merged and, over them, the flags.  None of these
targets is empty, unless the text is.  A plugin that is found by attribute is configured just so. -/
theorem configures_all_or_nothing (hgiven : given.keys.Nodup) (cls : PluginClass)
    (app : Application) :
    let after := (configureClass cls given).run app
    (∀ fault, after.result = .error fault → after.state = app) ∧
      (after.result = .ok () → ∀ target, Plugin.targetOf given = .text target →
        ∃ flags store, Plugin.flagSettings (Assoc.get? Plugin.flagsName given) = .ok flags ∧
          after.state = app.withStore store ∧
          (Assoc.get? Plugin.flagsName flags = none →
            app.router.store.Updates cls.code (cls.targets target)
              (Assoc.merge (Plugin.meant given) flags) store) ∧
          ([] ∈ cls.targets target ↔ target = [])) ∧
      ∀ name p, pluginFor name app = .ok p → p.cls = cls →
        (configure name given).run app = after := by
  intro after
  have hafter : after = _ := run_configureClass cls given app
  refine ⟨fun fault hf => ?_, fun hok target ht => ?_, fun name p hp hcls => ?_⟩
  · rw [hafter] at hf ⊢
    cases hc : Plugin.configure cls given app.router.store with
    | error fault' => rfl
    | ok store =>
      rw [hc] at hf
      exact nomatch hf
  · rw [hafter] at hok ⊢
    cases hc : Plugin.configure cls given app.router.store with
    | error fault =>
      rw [hc] at hok
      exact nomatch hok
    | ok store =>
      obtain ⟨flags, hf, hstore⟩ := Plugin.exists_flags_of_configure ht hc
      refine ⟨flags, store, hf, rfl, fun hnone => ?_, PluginClass.nil_mem_targets_iff⟩
      have hd : (Assoc.merge (Plugin.meant given) flags).keys.Nodup :=
        Assoc.nodup_keys_merge (Plugin.nodup_keys_meant hgiven) flags
      have hw : cls.written target (Plugin.meant given) flags =
          Assoc.merge (Plugin.meant given) flags :=
        Plugin.written_of_get?_eq_none (Plugin.nodup_keys_flagSettings hf) hnone cls target
      rw [hstore, hw]
      exact Store.updates_putEach hd _ _ _
  · rw [run_configure hp, hcls]

/-- A plugin is attached. -/
def oneAttached : List Request := [.call (.attach (.text "logging") [] none)]

/-- It is configured for two targets. -/
def forTwoTargets (v : Value) : Settings := [("_target", .text "a.b, ,c.*"), ("before", v)]

/-- Either both targets are written for or neither is. -/
theorem configures_all_or_nothing_two_targets :
    let now := asked oneAttached (withRoutes [] [])
    (∃ store, ((configureClass PluginClass.logging (forTwoTargets (.bool false))).run now).state =
        now.withStore store ∧
      now.router.store.Updates "logging" ["a.b".toList, "c.*".toList] [("before", .bool false)]
        store) ∧
      ((configureClass PluginClass.logging (forTwoTargets (.text "maybe"))).run now).state =
        now := by
  intro now
  have hnodup : ∀ v, (forTwoTargets v).keys.Nodup := fun v => by
    simp [forTwoTargets, Assoc.keys]
  constructor
  · obtain ⟨-, hok, -⟩ :=
      configures_all_or_nothing (hnodup (.bool false)) PluginClass.logging now
    obtain ⟨flags, store, hf, hstate, hupdates, -⟩ := hok (by decide +kernel) "a.b, ,c.*" rfl
    obtain rfl : [] = flags := Except.ok.inj hf
    exact ⟨store, hstate, hupdates rfl⟩
  · obtain ⟨hfault, -⟩ := configures_all_or_nothing (hnodup (.text "maybe")) PluginClass.logging now
    exact hfault (.invalidSettings [("before", .notReadableAsBool)]) (by decide +kernel)

/-- A target that is empty is passed over among several, and written for if it is the only one. -/
theorem not_forall_configures_nonempty_only : ¬ ∀ (app : Application) (requests : List Request)
    (name : Text) (p : Plugin) (given flags : Settings) (target slot : Text),
    app.router.plugins = [] → app.router.store = [] →
      let now := asked requests app
      let after := (configure name given).run now
      pluginFor name now = .ok p → p.cls.acceptance.isSome = true → after.result = .ok () →
        Plugin.targetOf given = .text target →
        Plugin.flagSettings (Assoc.get? Plugin.flagsName given) = .ok flags →
        Assoc.get? Plugin.flagsName flags = none → Assoc.get? Plugin.targetName flags = none →
        slot ∉ (p.cls.targets target).filter (fun t => !t.isEmpty) →
          Keyed.get? (.text slot) (after.state.router.store.scopes name) =
            Keyed.get? (.text slot) (now.router.store.scopes name) := by
  intro h
  have hsame := h (withRoutes [] []) oneAttached "logging" ⟨PluginClass.logging, .shared, [], []⟩
    [("_target", .text []), ("before", .bool false)] [] [] [] rfl rfl rfl rfl
    (by decide +kernel) rfl rfl rfl rfl (by decide +kernel)
  revert hsame
  decide +kernel

end Application

end Routing
