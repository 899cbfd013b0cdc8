import Routing.Proofs.Session.Diary
import Routing.Proofs.Session.Reporting

/-!
# What is in force

After a session the settings of a plugin for an action can be read off the diary of the plugin: of
each option that is in force which was last written for the last of the targets that match, in the
order in which these were first written for.  Main statement: `config_in_force`.
-/

namespace Routing

/-- Settings are given under names of their own and for a text. -/
structure GivenPlainly (given : Settings) : Prop where
  distinct : given.keys.Nodup
  textual : ∃ target, Plugin.targetOf given = .text target

theorem Request.Leaves.isPlain {r : Request} {name : Text} {m : Mark} (h : r.Leaves name m)
    (hgiven : ∀ given, r.given? = some given → GivenPlainly given) : m.IsPlain := by
  unfold Request.Leaves at h
  split at h
  · rename_i n given sink
    obtain ⟨cls, hm⟩ := h
    obtain ⟨hd, ht⟩ := hgiven given rfl
    refine PluginClass.isPlain_of_mem_marks (Application.nodup_keys_settingsFor hd cls sink) ?_ m hm
    rwa [Application.targetOf_settingsFor]
  · obtain ⟨cls, hm⟩ := h
    obtain ⟨hd, ht⟩ := hgiven _ rfl
    exact PluginClass.isPlain_of_mem_marks hd ht m hm
  · rw [h.2]
    trivial
  · exact h.elim

/-- A plugin that is configured with nothing has had nothing written. -/
theorem Plugin.configure_nothing {cls : PluginClass} {given : Settings} {store store' : Store}
    {target : Text} (ht : targetOf given = .text target) (hmeant : meant given = [])
    (hflags : flagSettings (Assoc.get? flagsName given) = .ok [])
    (h : configure cls given store = .ok store') : store' = store := by
  obtain ⟨flags, hf, rfl⟩ := exists_flags_of_configure ht h
  obtain rfl : flags = [] := Except.ok.inj (hf.symm.trans hflags)
  have hnothing : cls.written target (meant given) [] = [] := by
    rw [hmeant]
    unfold PluginClass.written
    split <;> rfl
  rw [hnothing, Store.putEach_no_settings]

namespace Application

variable {app : Application} {requests : List Request} {name : Text} {p : Plugin}

/-- What a router tells of the settings of a plugin is merged of the marks in its diary. -/
theorem run_configOf_of_tells {registry : Registry} {d : Diary} (h : d.Tells registry name app)
    (hd : d.cls.isSome = true) (action : Option Text) :
    (configOf name action).run app = ⟨[], app, (Scopes.replay d.marks).merged action⟩ := by
  obtain ⟨p, hnamed, rfl⟩ := h.exists_pluginNamed hd
  rw [run_configOf, hnamed, ← h.scopes]
  rfl

/-- After any session of a new router, in which settings are given under names of their own and for
texts, an attached plugin has settings for every action, and of each option it has what the diary
says is in force; a switch counts for the order of the targets only.  What has been asked for but
does not concern the plugin makes no difference, and to configure one with nothing changes
nothing. -/
theorem config_in_force (hplugins : app.router.plugins = []) (hstore : app.router.store = [])
    (hpluggable : app.router.pluggable = true)
    (hgiven : ∀ r ∈ requests, ∀ given, r.given? = some given → GivenPlainly given)
    (hp : (asked requests app).router.plugin? name = some p) :
    let now := asked requests app
    (∀ action, action ≠ [] → ∃ settings, (configOf name (some action)).run now =
        ⟨[], now, .ok settings⟩ ∧ ∀ option, Assoc.get? option settings =
          Mark.inForce? action option (diary app name requests).marks) ∧
      (∀ requests' : List Request,
        (requests'.filter fun r => r.concerns app.registry name) =
            requests.filter (fun r => r.concerns app.registry name) →
          ∀ action, ((configOf name action).run (asked requests' app)).result =
            ((configOf name action).run now).result) ∧
      ∀ other given target, Plugin.targetOf given = .text target → Plugin.meant given = [] →
        Plugin.flagSettings (Assoc.get? Plugin.flagsName given) = .ok [] →
          ((configure other given).run now).state = now := by
  intro now
  have htells : ∀ requests,
      (diary app name requests).Tells app.registry name (asked requests app) :=
    tells_diary hplugins hstore hpluggable name
  have hcls : (diary app name requests).cls.isSome = true := by
    rw [← (htells requests).attached, hp]
    rfl
  refine ⟨fun action ha => ?_, fun requests' hsame action => ?_,
    fun other given target ht hm hf => ?_⟩
  · have hplain : ∀ m ∈ (diary app name requests).marks, m.IsPlain := by
      intro m hm
      obtain ⟨r, hr, hl⟩ := exists_leaves_of_mem_diary hm
      exact hl.isPlain (hgiven r hr)
    obtain ⟨settings, hmerged, hget⟩ := Scopes.get?_merged_replay hplain ha
    refine ⟨settings, ?_, hget⟩
    rw [run_configOf_of_tells (htells requests) hcls, hmerged]
  · have hdiary : diary app name requests' = diary app name requests := by
      rw [← diary_filter requests', hsame, diary_filter]
    have hcls' : (diary app name requests').cls.isSome = true := hdiary ▸ hcls
    rw [run_configOf_of_tells (htells requests) hcls,
      run_configOf_of_tells (htells requests') hcls', hdiary]
  · rcases state_configure_cases other given now with he | ⟨q, store, -, hc, he⟩
    · exact he
    · rw [he, Plugin.configure_nothing ht hm hf hc]
      rfl

/-- A plugin is attached, and configured for some actions, for one of them, and for all again. -/
def overlappingTargets : List Request :=
  [.call (.attach (.text "logging") [] none),
    .call (.configure "logging" [("_target", .text "a.*, a.b"), ("before", .bool false)]),
    .call (.configure "logging" [("_target", .text "a.b"), ("flags", .text "after:off")]),
    .call (.configure "logging" [("_target", .text "a.*"), ("after", .bool true)])]

/-- The target that came later counts, though the other has been written for since. -/
theorem config_in_force_overlapping :
    ∃ settings,
      (configOf "logging" (some "a.b")).run (asked overlappingTargets (withRoutes [] [])) =
        ⟨[], asked overlappingTargets (withRoutes [] []), .ok settings⟩ ∧
      Assoc.get? "after" settings = some (.bool false) ∧
      Assoc.get? "enabled" settings = some (.bool true) ∧ Assoc.get? "print" settings = none := by
  have hgiven : ∀ r ∈ overlappingTargets, ∀ given, r.given? = some given → GivenPlainly given := by
    have hplain : ∀ r ∈ overlappingTargets, ∃ given target, r.given? = some given ∧
        given.keys.Nodup ∧ Plugin.targetOf given = .text target := by
      refine List.forall_mem_cons.2 ⟨⟨_, baseLevel, rfl, by decide, rfl⟩, ?_⟩
      refine List.forall_mem_cons.2 ⟨⟨_, "a.*, a.b", rfl, by decide, rfl⟩, ?_⟩
      refine List.forall_mem_cons.2 ⟨⟨_, "a.b", rfl, by decide, rfl⟩, ?_⟩
      exact List.forall_mem_singleton.2 ⟨_, "a.*", rfl, by decide, rfl⟩
    intro r hr given hg
    obtain ⟨given', target, hg', hd, ht⟩ := hplain r hr
    obtain rfl := Option.some.inj (hg'.symm.trans hg)
    exact ⟨hd, target, ht⟩
  obtain ⟨p, hp⟩ : ∃ p, (asked overlappingTargets (withRoutes [] [])).router.plugin? "logging" =
      some p := Option.isSome_iff_exists.1 (by decide +kernel)
  obtain ⟨hforce, -⟩ := config_in_force rfl rfl rfl hgiven hp
  obtain ⟨settings, hrun, hget⟩ := hforce "a.b" (by decide)
  refine ⟨settings, hrun, ?_, ?_, ?_⟩ <;> rw [hget] <;> decide +kernel

end Application

end Routing
