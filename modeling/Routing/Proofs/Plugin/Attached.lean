import Routing.Application.Plugins
import Routing.Proofs.Store.InTurn
import Routing.Proofs.Table.Announcing

/-!
# Attached plugins

An attached plugin is found by its name, and putting another in its place changes nothing for the
other names.  Attaching a plugin comes to nothing, or it is admitted and enrolled (`run_attach`): its
settings are refused and only its scopes stay behind, or it comes after the plugins that are there
and is told of a built table (`run_enroll_of_refused`, `run_enroll_of_configured`).
-/

namespace Routing

/-- A plugin less the calls that it has counted. -/
def Plugin.uncounted (p : Plugin) : Plugin := { p with calls := [] }

namespace Router

variable {r : Router} {done rest : List Plugin} {p q : Plugin}

/-- In a row of plugins with different names, no other has the name of this one. -/
theorem ne_of_nodup_append_cons (hn : ((done ++ p :: rest).map Plugin.name).Nodup) :
    (∀ q ∈ done, q.name ≠ p.name) ∧ ∀ q ∈ rest, q.name ≠ p.name := by
  rw [List.map_append, List.map_cons, List.nodup_append, List.nodup_cons] at hn
  obtain ⟨-, ⟨hrest, -⟩, hdone⟩ := hn
  constructor
  · exact fun q hq => hdone _ (List.mem_map_of_mem hq) _ List.mem_cons_self
  · exact fun q hq he => hrest (he ▸ List.mem_map_of_mem hq)

theorem plugin?_append_cons (hr : r.plugins = done ++ p :: rest)
    (hd : ∀ q ∈ done, q.name ≠ p.name) : r.plugin? p.name = some p := by
  have hnone : done.find? (fun q => q.name == p.name) = none :=
    List.find?_eq_none.2 fun q hq he => hd q hq (by simpa using he)
  unfold plugin?
  rw [hr, List.find?_append, hnone]
  simp

/-- Plugins with different names are found under their names. -/
theorem plugin?_of_mem (hn : (r.plugins.map Plugin.name).Nodup) (hp : p ∈ r.plugins) :
    r.plugin? p.name = some p := by
  obtain ⟨done, rest, hr⟩ := List.append_of_mem hp
  exact plugin?_append_cons hr (ne_of_nodup_append_cons (hr ▸ hn)).1

theorem setPlugin_append_cons (hr : r.plugins = done ++ p :: rest)
    (hd : ∀ q ∈ done, q.name ≠ p.name) (hrest : ∀ q ∈ rest, q.name ≠ p.name)
    (hq : q.name = p.name) : r.setPlugin q = { r with plugins := done ++ q :: rest } := by
  have hother : ∀ ps : List Plugin, (∀ p' ∈ ps, p'.name ≠ p.name) →
      (ps.map fun p' => if p'.name = q.name then q else p') = ps := by
    intro ps hps
    refine (List.map_congr_left fun p' hp' => if_neg ?_).trans (List.map_id ps)
    rw [hq]
    exact hps p' hp'
  unfold setPlugin
  rw [hr, List.map_append, List.map_cons, hother done hd, hother rest hrest, if_pos hq.symm]

theorem map_name_setPlugin (q : Plugin) (r : Router) :
    (r.setPlugin q).plugins.map Plugin.name = r.plugins.map Plugin.name := by
  unfold setPlugin
  rw [List.map_map]
  refine List.map_congr_left fun p _ => ?_
  by_cases h : p.name = q.name <;> simp [h]

theorem plugin?_setPlugin_of_ne {name : Text} (h : name ≠ q.name) :
    (r.setPlugin q).plugin? name = r.plugin? name := by
  have hp : ∀ ps : List Plugin, (ps.map fun p => if p.name = q.name then q else p).find?
      (fun p => p.name == name) = ps.find? fun p => p.name == name := by
    intro ps
    induction ps with
    | nil => rfl
    | cons p ps ih =>
      by_cases hq : p.name = q.name
      · simp [hq, Ne.symm h, ih]
      · by_cases hn : p.name = name <;> simp [hq, hn, h, ih]
  exact hp r.plugins

theorem plugin?_setPlugin_self (hp : r.plugin? q.name = some p) :
    (r.setPlugin q).plugin? q.name = some q := by
  have hq : ∀ ps : List Plugin, ps.find? (fun p => p.name == q.name) = some p →
      (ps.map fun p => if p.name = q.name then q else p).find? (fun p => p.name == q.name) =
        some q := by
    intro ps hps
    induction ps with
    | nil => exact nomatch hps
    | cons p' ps ih =>
      by_cases hn : p'.name = q.name
      · simp [hn]
      · have hps : ps.find? (fun p => p.name == q.name) = some p := by simpa [hn] using hps
        simp [hn, ih hps]
  exact hq r.plugins hp

theorem name_of_plugin? {name : Text} (h : r.plugin? name = some p) : p.name = name := by
  simpa using List.find?_some h

theorem plugin?_concat_of_some {name : Text} (hp : r.plugin? name = some p) :
    Router.plugin? { r with plugins := r.plugins ++ [q] } name = some p := by
  unfold plugin? at hp ⊢
  rw [List.find?_append, hp]
  rfl

theorem ne_of_plugin?_eq_none {name : Text} (h : r.plugin? name = none) :
    ∀ q ∈ r.plugins, q.name ≠ name := by
  intro q hq he
  exact List.find?_eq_none.1 h q hq (by simpa using he)

theorem find?_concat (ps : List Plugin) (p : Plugin) (name : Text) :
    (ps ++ [p]).find? (fun q => q.name == name) =
      (ps.find? fun q => q.name == name).or (if p.name = name then some p else none) := by
  rw [List.find?_append, List.find?_singleton]
  simp only [beq_iff_eq]

/-- A plugin of a new name leaves the names different. -/
theorem nodup_concat (hn : (r.plugins.map Plugin.name).Nodup) (h : r.plugin? p.name = none) :
    ((r.plugins ++ [p]).map Plugin.name).Nodup := by
  rw [List.map_append, List.map_singleton]
  refine List.nodup_append.2 ⟨hn, by simp, fun a ha b hb he => ?_⟩
  obtain ⟨q, hq, rfl⟩ := List.mem_map.1 ha
  exact ne_of_plugin?_eq_none h q hq (he.trans (List.mem_singleton.1 hb))

end Router

/-- The class that goes by a name in a registry. -/
def Registry.classNamed (registry : Registry) : Value → Except Fault PluginClass
  | .scalar (.text name) =>
    match Assoc.get? name registry with
    | some cls => .ok cls
    | none => .error (.unknownPlugin name (registry.listing.map Prod.fst))
  | v => .error (.pluginNameNotText v.typeName)

namespace Application

variable {app : Application} {name : Value} {cls : PluginClass} {given : Settings}
  {sink : Option Sink}

/-- The application with another store. -/
def withStore (app : Application) (store : Store) : Application :=
  { app with router := { app.router with store } }

/-- The application with other plugins attached. -/
def withPlugins (app : Application) (ps : List Plugin) : Application :=
  { app with router := { app.router with plugins := ps } }

/-- A plugin as it is attached. -/
def newPlugin (cls : PluginClass) (given : Settings) (sink : Option Sink) : Plugin :=
  ⟨cls, sinkFor cls given sink, [], []⟩

/-- Attaches a plugin of a class that is not attached. -/
def enroll (cls : PluginClass) (given : Settings) (sink : Option Sink) : Step Application Unit := do
  Step.modify fun app => app.withStore (app.router.store.withScopes cls.code)
  configureClass cls (settingsFor cls given sink)
  Step.modify fun app => app.withPlugins (app.router.plugins ++ [newPlugin cls given sink])
  Step.forEach (tell cls.code) ((← Step.read).router.table.getD [])

/-- The class as which a plugin is attached, or what stands in the way before anything is done. -/
def admission (name : Value) (given : Settings) (app : Application) : Except Fault PluginClass :=
  if app.router.pluggable = false then .error .noSuchAttribute
  else if attachArguments.any fun argument => (Assoc.get? argument given).isSome then
    .error .settingGivenTwice
  else
    match app.registry.classNamed name with
    | .error fault => .error fault
    | .ok cls =>
      if (app.router.plugin? cls.code).isSome then .error (.pluginAlreadyAttached cls.code)
      else if (Assoc.get? routerArgument given).isSome then .error .settingGivenTwice
      else .ok cls

theorem run_classNamed (name : Value) (app : Application) :
    (classNamed name).run app = ⟨[], app, app.registry.classNamed name⟩ := by
  cases name with
  | scalar a =>
    cases a with
    | text s =>
      unfold classNamed Registry.classNamed
      simp only [Step.run_bind, Step.run_read, Outcome.andThen_ok, List.nil_append]
      cases Assoc.get? s app.registry <;> rfl
    | _ => rfl
  | _ => rfl

theorem run_needsPlugins (app : Application) : needsPlugins.run app =
    ⟨[], app, if app.router.pluggable then .ok () else .error .noSuchAttribute⟩ := by
  unfold needsPlugins
  rw [Step.run_bind, Step.run_read, Outcome.andThen_ok]
  split <;> rfl

/-- A check before a step either stops it or makes no difference. -/
theorem run_check {σ α : Type} {c : Prop} [Decidable c] (fault : Fault) (x : Step σ α) (s : σ) :
    (if c then (do Step.fail fault; x) else x).run s =
      if c then ⟨[], s, .error fault⟩ else x.run s := by
  split <;> rfl

/-- A plugin is enrolled if it is admitted, and nothing comes of it otherwise. -/
theorem run_attach (name : Value) (given : Settings) (sink : Option Sink) (app : Application) :
    (attach name given sink).run app = match admission name given app with
      | .error fault => ⟨[], app, .error fault⟩
      | .ok cls => (enroll cls given sink).run app := by
  by_cases hp : app.router.pluggable = true
  · have hneeds : needsPlugins.run app = ⟨[], app, .ok ()⟩ := by rw [run_needsPlugins, if_pos hp]
    have hn : ¬ app.router.pluggable = false := by simp [hp]
    unfold attach admission
    rw [Step.run_bind, hneeds, Outcome.andThen_ok, run_check, if_neg hn]
    split
    · rfl
    · rw [Step.run_bind, run_classNamed]
      cases app.registry.classNamed name with
      | error fault => rfl
      | ok cls =>
        simp only [Outcome.andThen_ok, Step.run_bind, Step.run_read, List.nil_append, run_check]
        split
        · rfl
        · split <;> rfl
  · have hneeds : needsPlugins.run app = ⟨[], app, .error .noSuchAttribute⟩ := by
      rw [run_needsPlugins, if_neg hp]
    have hn : app.router.pluggable = false := by simpa using hp
    unfold attach admission
    rw [Step.run_bind, hneeds, Outcome.andThen_error, if_pos hn]

/-- What it takes to be admitted. -/
theorem admission_eq_ok_iff : admission name given app = .ok cls ↔
    app.router.pluggable = true ∧
      (attachArguments.any fun argument => (Assoc.get? argument given).isSome) = false ∧
      app.registry.classNamed name = .ok cls ∧ app.router.plugin? cls.code = none ∧
      Assoc.get? routerArgument given = none := by
  unfold admission
  by_cases hp : app.router.pluggable = false
  · rw [if_pos hp]
    exact ⟨nofun, fun h => absurd h.1 (by simp [hp])⟩
  · have hp' : app.router.pluggable = true := by simpa using hp
    rw [if_neg hp]
    by_cases hg : (attachArguments.any fun argument => (Assoc.get? argument given).isSome) = true
    · rw [if_pos hg]
      exact ⟨nofun, fun h => nomatch hg.symm.trans h.2.1⟩
    · have hg' := Bool.eq_false_iff.2 hg
      rw [if_neg hg]
      cases hc : app.registry.classNamed name with
      | error fault => exact ⟨nofun, fun h => nomatch h.2.2.1⟩
      | ok cls' =>
        dsimp only
        constructor
        · intro h
          split at h
          · exact nomatch h
          · rename_i ha
            split at h
            · exact nomatch h
            · rename_i hr
              obtain rfl := Except.ok.inj h
              exact ⟨hp', hg', rfl, by simpa using ha, by simpa using hr⟩
        · rintro ⟨-, -, he, ha, hr⟩
          obtain rfl := Except.ok.inj he
          rw [ha, hr]
          rfl

/-- Only a plugin whose name is new is admitted. -/
theorem plugin?_of_admission (h : admission name given app = .ok cls) :
    app.router.plugin? cls.code = none := (admission_eq_ok_iff.1 h).2.2.2.1

/-- A plugin that has been admitted and is attached by now is not admitted again. -/
theorem admission_of_attached {app' : Application} (h : admission name given app = .ok cls)
    (hp : app'.router.pluggable = app.router.pluggable) (hr : app'.registry = app.registry)
    (ha : (app'.router.plugin? cls.code).isSome = true) :
    admission name given app' = .error (.pluginAlreadyAttached cls.code) := by
  obtain ⟨hpluggable, hgiven, hclass, -, -⟩ := admission_eq_ok_iff.1 h
  unfold admission
  rw [hp, hpluggable, if_neg nofun, hgiven, if_neg nofun, hr, hclass]
  exact if_pos ha

theorem run_configureClass (cls : PluginClass) (given : Settings) (app : Application) :
    (configureClass cls given).run app = match Plugin.configure cls given app.router.store with
      | .ok store => ⟨[], app.withStore store, .ok ()⟩
      | .error fault => ⟨[], app, .error fault⟩ := by
  have hrun : (Step.alter (Plugin.configure cls given)).run app.router.store = _ :=
    Step.run_alter _ _
  unfold configureClass Step.on
  rw [Plugin.configureInTurn_eq]
  dsimp only [storePart]
  rw [hrun]
  cases Plugin.configure cls given app.router.store <;> rfl

/-- A plugin whose settings are refused leaves its scopes behind. -/
theorem run_enroll_of_refused {fault : Fault} (h : Plugin.configure cls (settingsFor cls given sink)
    (app.router.store.withScopes cls.code) = .error fault) : (enroll cls given sink).run app =
      ⟨[], app.withStore (app.router.store.withScopes cls.code), .error fault⟩ := by
  unfold enroll
  have hc : (configureClass cls (settingsFor cls given sink)).run
      (app.withStore (app.router.store.withScopes cls.code)) =
        ⟨[], app.withStore (app.router.store.withScopes cls.code), .error fault⟩ := by
    rw [run_configureClass]
    simp only [withStore, h]
  simp only [Step.run_bind, Step.run_modify, Outcome.andThen_ok, hc, Outcome.andThen_error,
    List.nil_append]

/-- A plugin whose settings are accepted comes last, and is told of the entries of a built table. -/
theorem run_enroll_of_configured {store : Store}
    (h : Plugin.configure cls (settingsFor cls given sink)
      (app.router.store.withScopes cls.code) = .ok store) : (enroll cls given sink).run app =
        (Step.forEach (tell cls.code) (app.router.table.getD [])).run ((app.withStore store).withPlugins
          (app.router.plugins ++ [newPlugin cls given sink])) := by
  unfold enroll
  have hc : (configureClass cls (settingsFor cls given sink)).run
      (app.withStore (app.router.store.withScopes cls.code)) =
        ⟨[], app.withStore store, .ok ()⟩ := by
    rw [run_configureClass]
    simp only [withStore, h]
  simp only [Step.run_bind, Step.run_modify, Outcome.andThen_ok, hc, List.nil_append, Step.run_read]
  rfl

/-! ### Finding and configuring plugins -/

/-- The plugin that a name stands for, for a router that can have plugins. -/
def pluginNamed (name : Text) (app : Application) : Except Fault Plugin :=
  if app.router.pluggable = true then app.router.plugin name else .error .noSuchAttribute

/-- The plugin that a name stands for among the attributes of a router. -/
def pluginFor (name : Text) (app : Application) : Except Fault Plugin :=
  if name ∈ ownAttributes ∨ isHidden name = true then .error .noSuchAttribute
  else pluginNamed name app

theorem pluginNamed_eq_ok {name : Text} {p : Plugin} (h : pluginNamed name app = .ok p) :
    app.router.plugin? name = some p := by
  unfold pluginNamed Router.plugin at h
  split at h
  · split at h
    · rename_i q hq
      obtain rfl := Except.ok.inj h
      exact hq
    · exact nomatch h
  · exact nomatch h

theorem pluginFor_eq_ok {name : Text} {p : Plugin} (h : pluginFor name app = .ok p) :
    app.router.plugin? name = some p := by
  unfold pluginFor at h
  split at h
  · exact nomatch h
  · exact pluginNamed_eq_ok h

theorem run_attached (name : Text) (app : Application) :
    (attached name).run app = ⟨[], app, pluginNamed name app⟩ := by
  unfold attached pluginNamed
  rw [Step.run_bind, run_needsPlugins]
  split
  · rw [Outcome.andThen_ok, Step.run_bind, Step.run_read, Outcome.andThen_ok, Step.run_ofExcept]
    rfl
  · rfl

theorem reads_attached (name : Text) : Step.Reads (attached name) := fun app => by
  rw [run_attached]

theorem run_configOf (name : Text) (action : Option Text) (app : Application) :
    (configOf name action).run app = ⟨[], app,
      pluginNamed name app >>= fun p => (app.router.store.scopes p.name).merged action⟩ := by
  unfold configOf
  rw [Step.run_bind, run_attached]
  cases pluginNamed name app with
  | error fault => rfl
  | ok p =>
    rw [Outcome.andThen_ok, Step.run_bind, Step.run_read, Outcome.andThen_ok, Step.run_ofExcept]
    rfl

theorem run_plugins (app : Application) : plugins.run app =
    ⟨[], app, if app.router.pluggable then .ok app.router.plugins else .error .noSuchAttribute⟩ := by
  unfold plugins
  rw [Step.run_bind, run_needsPlugins]
  split <;> rfl

/-- Finding a plugin by attribute, once the path of the routes file is out of the way. -/
def pluginByAttribute (name : Text) : Step Application Plugin := do
  if name ∈ ownAttributes then Step.fail .noSuchAttribute
  needsPlugins
  if isHidden name then Step.fail .noSuchAttribute
  else Step.ofExcept ((← Step.read).router.plugin name)

theorem pluginAttribute_eq (name : Text) : pluginAttribute name =
    if name = pathAttribute then Step.read >>= fun app =>
      Step.ofExcept app.router.routesLocation >>= fun _ => pluginByAttribute name
    else pluginByAttribute name := rfl

theorem run_pluginByAttribute (name : Text) (app : Application) :
    (pluginByAttribute name).run app = ⟨[], app, pluginFor name app⟩ := by
  unfold pluginByAttribute pluginFor pluginNamed
  rw [run_check]
  by_cases hown : name ∈ ownAttributes
  · rw [if_pos hown, if_pos (.inl hown)]
  · rw [if_neg hown, Step.run_bind, run_needsPlugins]
    by_cases hp : app.router.pluggable = true
    · rw [if_pos hp, if_pos hp, Outcome.andThen_ok]
      by_cases hh : isHidden name = true
      · rw [if_pos hh, if_pos (.inr hh)]
        rfl
      · rw [if_neg hh, if_neg (not_or_intro hown hh), Step.run_bind, Step.run_read,
          Outcome.andThen_ok, Step.run_ofExcept]
        rfl
    · rw [if_neg hp, if_neg hp, Outcome.andThen_error]
      split <;> rfl

/-- Finding a plugin by attribute changes nothing; the path of the routes file is no plugin. -/
theorem run_pluginAttribute (name : Text) (app : Application) :
    (pluginAttribute name).run app = ⟨[], app,
      if name = pathAttribute then app.router.routesLocation >>= fun _ => pluginFor name app
      else pluginFor name app⟩ := by
  rw [pluginAttribute_eq]
  split
  · rw [Step.run_bind, Step.run_read, Outcome.andThen_ok, Step.run_bind, Step.run_ofExcept]
    cases app.router.routesLocation with
    | error fault => rfl
    | ok path =>
      rw [Outcome.andThen_ok, run_pluginByAttribute]
      rfl
  · exact run_pluginByAttribute name app

theorem result_pluginAttribute_eq_ok_iff {name : Text} {p : Plugin} :
    ((pluginAttribute name).run app).result = .ok p ↔ pluginFor name app = .ok p := by
  rw [run_pluginAttribute]
  by_cases hp : name = pathAttribute
  · have hown : name ∈ ownAttributes := hp ▸ List.mem_cons_self
    have hn : pluginFor name app = .error .noSuchAttribute := if_pos (.inl hown)
    rw [if_pos hp, hn]
    cases app.router.routesLocation with
    | error fault => exact ⟨nofun, nofun⟩
    | ok path => exact Iff.rfl
  · rw [if_neg hp]

/-- Configuring a plugin comes to nothing, or to a store in which the plugin of that name has been
configured. -/
theorem state_configure (name : Text) (given : Settings) (app : Application) :
    ((configure name given).run app).state = match pluginFor name app with
      | .error _ => app
      | .ok p => match Plugin.configure p.cls given app.router.store with
        | .error _ => app
        | .ok store => app.withStore store := by
  have hs : ((pluginAttribute name).run app).state = app := by rw [run_pluginAttribute]
  unfold configure
  cases hp : pluginFor name app with
  | ok p =>
    rw [Step.run_bind_of_result (result_pluginAttribute_eq_ok_iff.2 hp), hs]
    dsimp only
    rw [run_configureClass]
    cases Plugin.configure p.cls given app.router.store <;> rfl
  | error fault =>
    cases hr : ((pluginAttribute name).run app).result with
    | error fault' => rw [Step.run_bind_of_fault hr, hs]
    | ok p => exact nomatch hp.symm.trans (result_pluginAttribute_eq_ok_iff.1 hr)

/-- Configuring a plugin comes to nothing or to another store. -/
theorem state_configure_cases (name : Text) (given : Settings) (app : Application) :
    ((configure name given).run app).state = app ∨ ∃ p store, app.router.plugin? name = some p ∧
      Plugin.configure p.cls given app.router.store = .ok store ∧
        ((configure name given).run app).state = app.withStore store := by
  rw [state_configure]
  cases hp : pluginFor name app with
  | error fault => exact .inl rfl
  | ok p =>
    dsimp only
    cases hc : Plugin.configure p.cls given app.router.store with
    | error fault => exact .inl rfl
    | ok store => exact .inr ⟨p, store, pluginFor_eq_ok hp, hc, rfl⟩

/-- Switching a plugin on or off comes to nothing or to another switch. -/
theorem state_setEnabled (action name : Text) (on : Bool) (app : Application) :
    ((setEnabled action name on).run app).state = app ∨ ∃ p, app.router.plugin? name = some p ∧
      ((setEnabled action name on).run app).state =
        app.withStore (app.router.store.setSwitch name action on) := by
  unfold setEnabled
  rw [Step.run_bind, run_attached]
  cases hp : pluginNamed name app with
  | error fault => exact .inl rfl
  | ok p =>
    obtain rfl : p.name = name := Router.name_of_plugin? (pluginNamed_eq_ok hp)
    exact .inr ⟨p, pluginNamed_eq_ok hp, rfl⟩

end Application

end Routing
