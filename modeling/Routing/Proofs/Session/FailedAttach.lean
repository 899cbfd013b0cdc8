import Routing.Proofs.Session.Resemblance

/-!
# Failing to attach a plugin

A plugin that is not admitted, or whose settings are refused, leaves nothing behind that anything
could tell.  Only a plugin that refuses an entry of a built table is attached all the same, although
attaching it has failed, and then it is attached for good.  Main statement:
`failed_attach_unnoticed_unless_refused`.
-/

namespace Routing

/-! ### What configuring can fail with -/

/-- A computation whose fault is not that of a refused entry. -/
abbrev RefusesNoEntry {α : Type} (x : Except Fault α) : Prop :=
  FailsWithin (fun fault => ¬ fault.IsRejection) x

theorem RefusesNoEntry.not_isRejection {α : Type} {x : Except Fault α} {fault : Fault}
    (h : RefusesNoEntry x) (hx : x = .error fault) : ¬ fault.IsRejection := h fault hx

namespace Plugin

theorem refusesNoEntry_flagSettings (v : Option Value) : RefusesNoEntry (flagSettings v) := by
  unfold flagSettings
  repeat' split
  all_goals first
    | exact .ok _
    | exact .error fun ⟨_, h⟩ => nomatch h

theorem refusesNoEntry_configureOne (plugin : Text) (acceptance : Acceptance) (target : Value)
    (settings : Settings) (store : Store) :
    RefusesNoEntry (configureOne plugin acceptance target settings store) := by
  refine FailsWithin.bind ?_ fun _ => ?_
  · unfold Settings.check
    split
    · exact .ok ()
    · exact .error fun ⟨_, h⟩ => nomatch h
  · unfold Store.write
    split
    · exact .ok _
    · split
      · exact .ok _
      · exact .error fun ⟨_, h⟩ => nomatch h

theorem refusesNoEntry_configureAccepting (plugin : Text) (acceptance : Acceptance)
    (given : Settings) (store : Store) :
    RefusesNoEntry (configureAccepting plugin acceptance given store) := by
  refine (refusesNoEntry_flagSettings _).bind fun flags => FailsWithin.bind ?_ fun several => ?_
  · unfold holdsComma
    split
    · exact .ok _
    · exact .ok _
    · exact .ok _
    · exact .ok _
    · exact .error fun ⟨_, h⟩ => nomatch h
  · cases several with
    | false => exact refusesNoEntry_configureOne _ _ _ _ _
    | true =>
      refine FailsWithin.bind ?_ fun targets => FailsWithin.foldlM (fun store target => ?_) _ _
      · unfold divided
        split
        · exact .ok _
        · exact .error fun ⟨_, h⟩ => nomatch h
      · unfold configureAmong
        split
        · exact .error fun ⟨_, h⟩ => nomatch h
        · exact (refusesNoEntry_flagSettings _).bind fun more =>
            refusesNoEntry_configureOne _ _ _ _ _

/-- Whatever is wrong with settings, it is not that an entry is refused. -/
theorem refusesNoEntry_configure (cls : PluginClass) (given : Settings) (store : Store) :
    RefusesNoEntry (configure cls given store) := by
  unfold configure
  split
  · exact .error fun ⟨_, h⟩ => nomatch h
  · split
    · exact refusesNoEntry_configureAccepting _ _ _ _
    · unfold configurePlain
      split
      · exact .error fun ⟨_, h⟩ => nomatch h
      · refine (refusesNoEntry_flagSettings _).bind fun flags => ?_
        unfold Store.write
        split
        · exact .ok _
        · split
          · exact .ok _
          · exact .error fun ⟨_, h⟩ => nomatch h

end Plugin

namespace Application

variable {app : Application} {name : Value} {given : Settings} {sink : Option Sink} {fault : Fault}
  {cls : PluginClass}

theorem refusesNoEntry_admission (name : Value) (given : Settings) (app : Application) :
    RefusesNoEntry (admission name given app) := by
  have hclass : RefusesNoEntry (app.registry.classNamed name) := by
    unfold Registry.classNamed
    split
    · split
      · exact .ok _
      · exact .error fun ⟨_, h⟩ => nomatch h
    · exact .error fun ⟨_, h⟩ => nomatch h
  unfold admission
  split
  · exact .error fun ⟨_, h⟩ => nomatch h
  · split
    · exact .error fun ⟨_, h⟩ => nomatch h
    · split
      · rename_i fault hf
        exact .error (hclass.not_isRejection hf)
      · split
        · exact .error fun ⟨_, h⟩ => nomatch h
        · split
          · exact .error fun ⟨_, h⟩ => nomatch h
          · exact .ok _

/-! ### Failing -/

/-- An attempt to attach a plugin fails because the plugin refuses an entry of a built table, and the
plugin stays attached. -/
structure RefusesTable (name : Value) (given : Settings) (sink : Option Sink) (fault : Fault)
    (app : Application) (cls : PluginClass) (before : List Entry) (e : Entry) : Prop where
  admitted : admission name given app = .ok cls
  built : ∃ rest, app.router.table = some (before ++ e :: rest)
  rejected : fault.IsRejection
  /-- The plugin comes last; it is configured, has heard of the entries before, and refuses the one
  after them under its settings. -/
  attached : ∃ store, Plugin.configure cls (settingsFor cls given sink)
      (app.router.store.withScopes cls.code) = .ok store ∧
    (∃ message, (app.withStore store).refusal? e cls = some message ∧
      fault = .entryRejected message) ∧
    ((attach name given sink).run app).state = (app.withStore store).withPlugins
      (app.router.plugins ++ [(newPlugin cls given sink).hears before])

/-- An attempt to attach a plugin that fails leaves no trace, unless the plugin refuses an entry. -/
theorem resembles_or_refusesTable
    (h : ((attach name given sink).run app).result = .error fault) :
    (¬ fault.IsRejection ∧ Resembles app ((attach name given sink).run app).state) ∨
      ∃ cls before e, RefusesTable name given sink fault app cls before e := by
  have hattach := run_attach name given sink app
  cases ha : admission name given app with
  | error fault' =>
    rw [ha] at hattach
    rw [hattach] at h ⊢
    obtain rfl := Except.error.inj h
    exact .inl ⟨refusesNoEntry_admission name given app _ ha, resembles_refl app⟩
  | ok cls =>
    rw [ha] at hattach
    dsimp only at hattach
    rw [run_enroll (plugin?_of_admission ha)] at hattach
    cases hs : Plugin.configure cls (settingsFor cls given sink)
        (app.router.store.withScopes cls.code) with
    | error fault' =>
      rw [hs] at hattach
      rw [hattach] at h ⊢
      obtain rfl := Except.error.inj h
      exact .inl ⟨Plugin.refusesNoEntry_configure _ _ _ _ hs,
        _, Store.alike_withScopes _ cls.code, rfl⟩
    | ok store =>
      rw [hs] at hattach
      dsimp only at hattach
      rw [hattach] at h
      obtain ⟨before, e, rest, message, hes, hbefore, he, rfl⟩ :=
        Table.Audience.exists_of_verdict h
      have htold := @Table.Audience.told_append_cons _ _ _ _ rest hbefore he
      have hbuilt : app.router.table = some (before ++ e :: rest) := by
        cases ht : app.router.table with
        | none =>
          rw [ht] at hes
          exact absurd hes.symm (by simp)
        | some es =>
          rw [ht] at hes
          exact congrArg some hes
      refine .inr ⟨cls, before, e, ha, ⟨rest, hbuilt⟩, ⟨message, rfl⟩, store, hs,
        ⟨message, he, rfl⟩, ?_⟩
      rw [hes, htold] at hattach
      rw [hattach]
      simp [listener]

/-- The plugin that stays attached can be seen, and is not attached again. -/
theorem RefusesTable.later {before : List Entry} {e : Entry}
    (h : RefusesTable name given sink fault app cls before e) :
    let later := ((attach name given sink).run app).state
    ¬ Indistinct app later ∧
      ((attach name given sink).run later).result = .error (.pluginAlreadyAttached cls.code) := by
  obtain ⟨ha, -, -, store, -, -, hs⟩ := h
  obtain ⟨hpluggable, -⟩ := admission_eq_ok_iff.1 ha
  have hnew := plugin?_of_admission ha
  refine ⟨fun hsame => ?_, ?_⟩
  · -- There is one plugin more, and plugins can be listed.
    have hlist : ∀ app : Application, app.router.pluggable = true →
        (Request.plugins.perform.run app).result = .ok (.plugins app.router.plugins) := by
      intro app hp
      have hperform : Request.plugins.perform.run app =
        (Application.plugins >>= fun ps => pure (Reply.plugins ps)).run app := rfl
      rw [hperform, Step.run_bind_pure, run_plugins, if_pos hp]
      rfl
    have hlisted := (hsame [] .plugins).2
    have hlater : ((attach name given sink).run app).state.router.pluggable = true := by
      rw [hs]
      exact hpluggable
    rw [asked_nil, asked_nil, hlist app hpluggable, hlist _ hlater, hs] at hlisted
    have hlength := congrArg List.length (Reply.plugins.inj (Except.ok.inj hlisted))
    simp [withPlugins] at hlength
  · have hthere : (((attach name given sink).run app).state.router.plugin? cls.code).isSome = true := by
      have hfound := @Router.plugin?_append_cons
        ((app.withStore store).withPlugins (app.router.plugins ++
          [(newPlugin cls given sink).hears before])).router app.router.plugins []
        _ rfl fun q hq => by
          rw [Plugin.name_hears]
          exact Router.ne_of_plugin?_eq_none hnew q hq
      rw [Plugin.name_hears] at hfound
      rw [hs]
      exact Option.isSome_of_eq_some hfound
    rw [run_attach, admission_of_attached ha (by rw [hs]; rfl) (by rw [hs]; rfl) hthere]

/-- Attaching a plugin fails without a trace or with the plugin attached.  Whatever is asked
afterwards, nothing shows that there was an attempt, the same attempt made again included, unless
what failed was a hook that refuses an entry of a built table.  Then the plugin comes last, is
configured and has heard of the entries before that one, and it is not attached again. -/
theorem failed_attach_unnoticed_unless_refused
    (h : ((attach name given sink).run app).result = .error fault) :
    let later := ((attach name given sink).run app).state
    (Indistinct app later ↔ ¬ fault.IsRejection) ∧
      (fault.IsRejection → ∃ cls before e, RefusesTable name given sink fault app cls before e ∧
        ((attach name given sink).run later).result = .error (.pluginAlreadyAttached cls.code)) := by
  rcases resembles_or_refusesTable h with ⟨hf, hr⟩ | ⟨cls, before, e, hr⟩
  · exact ⟨iff_of_true (indistinct_of_resembles hr) hf, fun hf' => absurd hf' hf⟩
  · obtain ⟨hseen, hagain⟩ := hr.later
    exact ⟨iff_of_false hseen (not_not_intro hr.rejected), fun _ => ⟨cls, before, e, hr, hagain⟩⟩

/-- A router with one page, and a plugin to be had that can be set to refuse it. -/
def refusablePage : Application :=
  { withRoutes "GET /1 a.b\n" [] with registry := [("picky", PluginClass.picky)] }

/-- Settings under which the page is refused. -/
def refusing : Settings := [("reject", .text "/1")]

theorem failed_attach_unnoticed_unless_refused_page :
    let built := asked [.call .entries] refusablePage
    ((attach (.text "picky") refusing none).run
      ((attach (.text "picky") refusing none).run built).state).result =
        .error (.pluginAlreadyAttached "picky") := by
  have hresult : ((attach (.text "picky") refusing none).run
      (asked [.call .entries] refusablePage)).result =
        .error (.entryRejected "picky: /1") := by decide +kernel
  obtain ⟨cls, before, e, hr, hagain⟩ :=
    (failed_attach_unnoticed_unless_refused hresult).2 ⟨_, rfl⟩
  have hcode : (admission (.text "picky") refusing (asked [.call .entries] refusablePage)).map
      PluginClass.code = .ok "picky" := by decide +kernel
  have hcls : cls.code = "picky" :=
    Except.ok.inj ((congrArg (Except.map PluginClass.code) hr.admitted).symm.trans hcode)
  exact hagain.trans (congrArg (Except.error ∘ Fault.pluginAlreadyAttached) hcls)

/-- A plugin that refuses an entry is attached, although attaching it has failed. -/
theorem not_forall_failed_attach_unnoticed : ¬ ∀ (app : Application) (requests : List Request)
    (name : Value) (given : Settings) (sink : Option Sink) (fault : Fault),
    app.router.plugins = [] → app.router.store = [] → app.router.table = none →
      ((attach name given sink).run (asked requests app)).result = .error fault →
        Indistinct (asked requests app) ((attach name given sink).run (asked requests app)).state := by
  intro h
  have hresult : ((attach (.text "picky") refusing none).run
      (asked [.call .entries] refusablePage)).result =
        .error (.entryRejected "picky: /1") := by decide +kernel
  have hsame := h refusablePage [.call .entries] (.text "picky") refusing none _ rfl rfl rfl hresult
  rcases resembles_or_refusesTable hresult with ⟨hf, -⟩ | ⟨cls, before, e, hr⟩
  · exact hf ⟨_, rfl⟩
  · exact hr.later.1 hsame

end Application

end Routing
