import Routing.Proofs.Session.Delivery
import Routing.Proofs.Session.Following
import Routing.Proofs.Table.Again

/-!
# Attaching plugins and building the table

It does not matter when the table is built.  A plugin hears of the entries when they are announced if
it is attached by then, and when it is attached if they have been; so in any session in which no
entry is refused, it has heard of each entry of the table once, in order (`informed_asked`).  The
table is the same whenever it is built (`descends_asked`), and so is all that was decided of plugins.
Main statement: `attaching_commutes_with_building`.
-/

namespace Routing.Application

variable {app app' base : Application} {requests : List Request} {name : Text}

/-! ### One table in a session -/

theorem Descends.of_same (h : Descends base app) (hf : app'.files = app.files)
    (ho : app'.router.options = app.router.options) (hr : app'.router.root = app.router.root)
    (ht : app'.router.table = app.router.table)
    (hc : app.router.table = none →
      app'.router.controllers = app.router.controllers ∧ app'.hosts = app.hosts) :
    Descends base app' where
  files := hf.trans h.files
  options := ho.trans h.options
  root := hr.trans h.root
  built es he := h.built es (ht.symm.trans he)
  unbuilt hn := by
    have hn' : app.router.table = none := ht.symm.trans hn
    rw [(hc hn').1]
    exact h.unbuilt hn'
  hosts hn := by
    have hn' : app.router.table = none := ht.symm.trans hn
    exact (hc hn').2.trans (h.hosts hn')

theorem Descends.of_stays (h : Descends base app) (hs : Stays app app')
    (ht : app'.router.table = app.router.table)
    (hc : app.router.table = none →
      app'.router.controllers = app.router.controllers ∧ app'.hosts = app.hosts) :
    Descends base app' :=
  h.of_same hs.files hs.options hs.root ht hc

/-- The application stays one of those with the table of what their routes file says. -/
def KeepsSource (base app app' : Application) : Prop := Descends base app → Descends base app'

theorem keepsSource_refl (base app : Application) : KeepsSource base app app := id

theorem keepsSource_trans (base app app' app'' : Application) (h : KeepsSource base app app')
    (h' : KeepsSource base app' app'') : KeepsSource base app app'' := h' ∘ h

/-- Handing the table to a host builds it first, and loads controllers only then. -/
theorem keepsSource_deploy (hb : base.router.table = none) (host : Text) :
    Step.Moves (KeepsSource base) (deploy host) := by
  rw [deploy_eq]
  intro app h
  have hfind := reads_hostNamed host app
  cases hr : ((hostNamed host).run app).result with
  | error fault =>
    rw [Step.run_bind_of_fault hr, ← hfind]
    exact h
  | ok found =>
    rw [Step.run_bind_of_result hr, ← hfind]
    have hentries := h.entries hb
    cases he : (entries.run app).result with
    | error fault =>
      rw [Step.run_bind_of_fault he]
      exact hentries
    | ok es =>
      rw [Step.run_bind_of_result he]
      have ht := table_of_entries he
      have hstays := spans_stays.mount host es (entries.run app).state
      have hsteady := spans_steady.mount host es (entries.run app).state
      exact hentries.of_stays hstays hsteady.table fun hn => nomatch ht.symm.trans hn

/-- Where no host has been given a handler, calling one changes nothing. -/
theorem state_callHandler_of_unserved (h : ∀ p ∈ app.hosts, p.2.handlers = []) (host : Text)
    (index : Int) (args : Arguments) : ((callHandler host index args).run app).state = app := by
  unfold callHandler
  cases hh : Assoc.get? host app.hosts with
  | none => rw [Step.run_bind, run_hostNamed_of_get?_eq_none hh, Outcome.andThen_error]
  | some found =>
    have hnone : found.handlerAt? index = none := by
      unfold Host.handlerAt?
      rw [h _ (Assoc.mem_of_get? hh)]
      cases index <;> rfl
    rw [Step.run_bind, run_hostNamed_of_get? hh, Outcome.andThen_ok, hnone]
    rfl

theorem covers_keepsSource (hb : base.router.table = none)
    (hu : ∀ p ∈ base.hosts, p.2.handlers = []) :
    Covers fun _ x => Step.Moves (KeepsSource base) x where
  reads hx := hx.moves (keepsSource_refl base)
  bind hx hf := hx.bind (keepsSource_trans base) hf
  entries app h := h.entries hb
  walk app h := h.entries hb
  deploy := keepsSource_deploy hb
  callHandler host index args app h := by
    -- Before there is a table, no host has a handler that could change a controller.
    have hstays := spans_stays.callHandler host index args app
    have hsteady := spans_steady.callHandler host index args app
    refine h.of_stays hstays hsteady.table fun hn => ?_
    rw [state_callHandler_of_unserved (h.hosts hn ▸ hu)]
    exact ⟨rfl, rfl⟩

/-- Nothing that is asked of a router makes another table of what its routes file says. -/
theorem Descends.perform (h : Descends base app) (hb : base.router.table = none)
    (hu : ∀ p ∈ base.hosts, p.2.handlers = []) {r : Request}
    (hw : r.isRewriting = false) : Descends base (r.perform.run app).state := by
  cases r using Request.casesByPart with
  | rewrite => exact nomatch hw
  | plugins r hp =>
    obtain ⟨store, plugins, he⟩ := exists_state_of_isAboutPlugins hp app
    rw [he]
    exact h.of_same rfl rfl rfl rfl fun _ => ⟨rfl, rfl⟩
  | plain r hp hother => exact (covers_keepsSource hb hu).perform hp hother app h

theorem descends_asked (hb : base.router.table = none)
    (hu : ∀ p ∈ base.hosts, p.2.handlers = []) (h : Descends base app)
    (hw : ∀ r ∈ requests, r.isRewriting = false) : Descends base (asked requests app) := by
  induction requests generalizing app with
  | nil => exact h
  | cons r requests ih =>
    obtain ⟨hr, hrest⟩ := List.forall_mem_cons.1 hw
    exact ih (h.perform hb hu hr) hrest

/-! ### What plugins have heard in a session -/

/-- The attached plugins have different names, and have heard of the entries of the table, if there
is one, each once and in order. -/
structure Informed (app : Application) : Prop where
  distinct : (app.router.plugins.map Plugin.name).Nodup
  seen (name : Text) (p : Plugin) : app.router.plugin? name = some p →
    p.seen = app.router.table.getD []

/-- No request of a session fails because a hook refuses an entry. -/
def NoneRefused : List Request → Application → Prop
  | [], _ => True
  | r :: requests, app =>
    ¬ Step.EndsIn Fault.IsRejection r.perform app ∧
      NoneRefused requests (r.perform.run app).state

theorem noneRefused_of_goesWell (h : GoesWell requests app) : NoneRefused requests app := by
  induction requests generalizing app with
  | nil => trivial
  | cons r requests ih => exact ⟨Step.not_endsIn_of_isOk h.1, ih h.2⟩

theorem covers_delivers (name : Text) : Covers fun _ x => Delivers name x where
  reads hx := delivers_of_steady (hx.moves steady_refl) name
  bind hx hf := hx.bind hf
  entries := (attended_entries name).delivers_access
  walk := (attended_entries name).delivers_access.mapFault fun _ ⟨message, hf⟩ =>
    hf ▸ ⟨message, rfl⟩
  deploy := delivers_deploy name
  callHandler host index args :=
    delivers_of_steady (spans_steady.callHandler host index args) name

/-- A plugin that is attached hears of the entries that there are. -/
theorem Informed.attach (h : Informed app) {plugin : Value} {given : Settings} {sink : Option Sink}
    (hu : ¬ Step.EndsIn Fault.IsRejection (Application.attach plugin given sink) app) :
    Informed ((Application.attach plugin given sink).run app).state := by
  unfold Step.EndsIn at hu
  have hattach := run_attach plugin given sink app
  cases ha : admission plugin given app with
  | error fault =>
    rw [ha] at hattach
    rw [hattach]
    exact h
  | ok cls =>
    have hnew := plugin?_of_admission ha
    rw [ha] at hattach
    dsimp only at hattach
    rw [run_enroll hnew] at hattach
    cases hc : Plugin.configure cls (settingsFor cls given sink)
        (app.router.store.withScopes cls.code) with
    | error fault =>
      rw [hc] at hattach
      rw [hattach]
      exact ⟨h.distinct, h.seen⟩
    | ok store =>
      rw [hc] at hattach
      dsimp only at hattach
      rw [hattach] at hu ⊢
      -- No entry is refused, so the plugin has been told of all of them.
      have hverdict : ((app.withStore store).listener cls).verdict (app.router.table.getD []) =
          .ok () := by
        cases hv : ((app.withStore store).listener cls).verdict (app.router.table.getD []) with
        | ok u => rfl
        | error fault => exact absurd ⟨fault, hv, Table.Audience.isRejection_of_verdict hv⟩ hu
      have htold := Table.Audience.told_of_forall (Table.Audience.verdict_eq_ok_iff.1 hverdict)
      rw [htold]
      refine ⟨?_, fun name q hq => ?_⟩
      · refine Router.nodup_concat h.distinct ?_
        rw [Plugin.name_hears]
        exact hnew
      · replace hq := (Router.find?_concat app.router.plugins _ name).symm.trans hq
        rw [Plugin.name_hears] at hq
        cases hold : app.router.plugin? name with
        | some p =>
          have hp : (app.router.plugins.find? fun q => q.name == name) = some p := hold
          rw [hp, Option.some_or] at hq
          obtain rfl := Option.some.inj hq
          exact h.seen name _ hold
        | none =>
          have hp : (app.router.plugins.find? fun q => q.name == name) = none := hold
          rw [hp, Option.none_or] at hq
          split at hq
          · obtain rfl := Option.some.inj hq
            rfl
          · exact nomatch hq

/-- Whoever has heard of all entries so far has heard of all of them afterwards. -/
theorem Informed.of_delivers {α : Type} {x : Step Application α} (h : Informed app)
    (hs : Stays app (x.run app).state) (hx : ∀ name, Delivers name x)
    (hu : ¬ Step.EndsIn Fault.IsRejection x app) : Informed (x.run app).state := by
  refine ⟨hs.names ▸ h.distinct, fun name q hq => ?_⟩
  have hblank := Router.plugin?_map_blank (x.run app).state.router name
  rw [hs.plugins h.distinct, ← Router.plugin?_map_blank, hq, Option.map_some, eq_comm,
    Option.map_eq_some_iff] at hblank
  obtain ⟨p, hp, -⟩ := hblank
  have hattends : Attends name app := ⟨h.distinct, p, hp⟩
  have hseen := h.seen name p hp
  rw [← heard_of_plugin? hp] at hseen
  rw [← heard_of_plugin? hq]
  cases ht : app.router.table with
  | some es =>
    obtain ⟨hkept, hheard⟩ := (hx name).built hattends ht
    have hkept : (x.run app).state.router.table = some es := hkept
    rw [ht] at hseen
    rw [hkept, hheard, hseen]
  | none =>
    obtain ⟨told, hheard, hbuilt | ⟨hnone, htold⟩⟩ := (hx name).unbuilt hattends ht
    · have hbuilt : (x.run app).state.router.table = some told := hbuilt
      rw [ht] at hseen
      rw [hbuilt, hheard, hseen]
      rfl
    · have hnone : (x.run app).state.router.table = none := hnone
      have htold : told = [] := by
        rcases htold with htold | hf
        · exact htold
        · exact absurd hf hu
      rw [ht] at hseen
      rw [hnone, hheard, hseen, htold]
      rfl

theorem Informed.perform (h : Informed app) {r : Request}
    (hu : ¬ Step.EndsIn Fault.IsRejection r.perform app) : Informed (r.perform.run app).state := by
  cases r using Request.casesByEffect with
  | rewrite files =>
    rw [state_perform_rewrite]
    exact ⟨h.distinct, h.seen⟩
  | attach plugin given sink =>
    rw [state_perform_attach]
    exact h.attach fun ⟨fault, hf, hj⟩ => hu ⟨fault, result_perform_attach_of_fault hf, hj⟩
  | configure plugin given =>
    rw [state_perform_configure]
    rcases state_configure_cases plugin given app with he | ⟨p, store, -, -, he⟩ <;> rw [he]
    · exact h
    · exact ⟨h.distinct, h.seen⟩
  | setEnabled action plugin on =>
    rw [state_perform_setEnabled]
    rcases state_setEnabled action plugin on app with he | ⟨p, -, he⟩ <;> rw [he]
    · exact h
    · exact ⟨h.distinct, h.seen⟩
  | plain r hp hw =>
    exact h.of_delivers (stays_perform hp hw app) (fun name => (covers_delivers name).perform hp hw) hu

theorem informed_asked (h : Informed app) (hu : NoneRefused requests app) :
    Informed (asked requests app) := by
  induction requests generalizing app with
  | nil => exact h
  | cons r requests ih => exact ih (h.perform hu.1) hu.2

/-! ### Two interleavings -/

theorem keptByWriting_eq : KeptByWriting Eq where
  withScopes plugin h := congrArg _ h
  write plugin := by
    rintro store _ target settings rfl
    exact sameEnd_refl _

/-- A session in which plugins are attached and configured, and which ends with a table, without any
entry having been refused. -/
structure BuildsUp (requests : List Request) (app : Application) (es : List Entry) : Prop where
  kind : ∀ r ∈ requests, r.isSwitch = false ∧ r.isRewriting = false
  unrefused : NoneRefused requests app
  built : (asked requests app).router.table = some es

theorem switchedWhen_of_kind {P : Application → Text → Text → Prop}
    (h : ∀ r ∈ requests, r.isSwitch = false) : SwitchedWhen P requests app := by
  induction requests generalizing app with
  | nil => trivial
  | cons r requests ih =>
    obtain ⟨hr, hrest⟩ := List.forall_mem_cons.1 h
    refine ⟨?_, ih hrest⟩
    rintro action plugin on rfl
    exact nomatch hr

/-- What a session builds up of plugins is what it comes to without anything else. -/
theorem BuildsUp.follows {es : List Entry} (h : BuildsUp requests app es)
    (hplugins : app.router.plugins = []) :
    Follows Eq (asked requests app) (asked (settingUp requests) app) := by
  have hstart : Follows Eq app app := by
    refine ⟨rfl, rfl, ?_, rfl, rfl⟩
    rw [hplugins]
    exact List.nodup_nil
  refine Follows.asked (P := fun _ _ _ => False) keptByWriting_eq (fun _ _ _ _ _ h => h.elim) hstart ?_
  exact switchedWhen_of_kind fun r hr => (h.kind r hr).1

theorem BuildsUp.seen {es : List Entry} (h : BuildsUp requests app es)
    (hplugins : app.router.plugins = []) :
    ∀ p ∈ (asked requests app).router.plugins, p.seen = es := by
  have hstart : Informed app := by
    refine ⟨?_, fun name p hp => ?_⟩
    · rw [hplugins]
      exact List.nodup_nil
    · unfold Router.plugin? at hp
      rw [hplugins] at hp
      exact nomatch hp
  have hend := informed_asked hstart h.unrefused
  intro p hp
  have hseen := hend.seen p.name p (Router.plugin?_of_mem hend.distinct hp)
  rwa [h.built] at hseen

variable {requests' : List Request} {es es' : List Entry}

/-- Two sessions that attach and configure the same plugins in the same order, to a router without a
table whose hosts have no handlers yet, and that end with a table without any entry having been
refused, end with the same table, the same plugins in the same order, and the same to be told of the
settings of each.  In both, every plugin has heard of each entry of the table once, in order,
whenever the table was built. -/
theorem attaching_commutes_with_building (hplugins : app.router.plugins = [])
    (htable : app.router.table = none) (hhosts : ∀ p ∈ app.hosts, p.2.handlers = [])
    (h : BuildsUp requests app es) (h' : BuildsUp requests' app es')
    (hsame : settingUp requests' = settingUp requests) :
    let one := asked requests app
    let other := asked requests' app
    (∀ p ∈ one.router.plugins, p.seen = es) ∧ (∀ p ∈ other.router.plugins, p.seen = es') ∧
      es' = es ∧ other.router.plugins.map Plugin.blank = one.router.plugins.map Plugin.blank ∧
      ∀ name action, ((configOf name action).run other).result =
        ((configOf name action).run one).result := by
  have hfollows := h.follows hplugins
  have hfollows' := h'.follows hplugins
  rw [hsame] at hfollows'
  have hboth : Follows Eq (asked requests app) (asked requests' app) :=
    ⟨hfollows'.registry.symm.trans hfollows.registry, hfollows'.pluggable.symm.trans hfollows.pluggable,
      hfollows.distinct, hfollows'.plugins.symm.trans hfollows.plugins,
      hfollows.store.trans hfollows'.store.symm⟩
  have htable_eq : es' = es := by
    have hone := descends_asked htable hhosts (descends_refl htable)
      fun r hr => (h.kind r hr).2
    have hother := descends_asked htable hhosts (descends_refl htable)
      fun r hr => (h'.kind r hr).2
    exact Except.ok.inj ((hother.built es' h'.built).symm.trans (hone.built es h.built))
  refine ⟨h.seen hplugins, h'.seen hplugins, htable_eq, hboth.plugins, fun name action => ?_⟩
  refine result_configOf_congr hboth (fun plugin => ?_) name
  rw [hboth.store]

/-- A router with one page, and two plugins to be had. -/
def listenedPage : Application :=
  { withRoutes "GET /1 a.b\n" [] with
    registry := [("counting", PluginClass.counting), ("outer", PluginClass.outer)] }

/-- The table is built when one of the plugins is attached. -/
def builtBetween : List Request :=
  [.call (.attach (.text "counting") [("label", .text "calls")] none), .call .entries,
    .call (.attach (.text "outer") [] none)]

/-- The table is built when both are. -/
def builtLast : List Request :=
  [.call (.attach (.text "counting") [("label", .text "calls")] none),
    .call (.attach (.text "outer") [] none), .call .actions]

theorem attaching_commutes_with_building_one_page :
    (∀ p ∈ (asked builtBetween listenedPage).router.plugins,
      p.seen = [.endpoint ⟨.get, "/1", "a", "b"⟩]) ∧
    ((configOf "counting" none).run (asked builtLast listenedPage)).result =
      ((configOf "counting" none).run (asked builtBetween listenedPage)).result := by
  have hbetween : BuildsUp builtBetween listenedPage [.endpoint ⟨.get, "/1", "a", "b"⟩] :=
    { kind := by simp [builtBetween, Request.isSwitch, Request.isRewriting]
      unrefused := noneRefused_of_goesWell (by decide +kernel)
      built := by decide +kernel }
  have hlast : BuildsUp builtLast listenedPage [.endpoint ⟨.get, "/1", "a", "b"⟩] :=
    { kind := by simp [builtLast, Request.isSwitch, Request.isRewriting]
      unrefused := noneRefused_of_goesWell (by decide +kernel)
      built := by decide +kernel }
  obtain ⟨hseen, -, -, -, hconfig⟩ :=
    attaching_commutes_with_building rfl rfl (fun _ hp => absurd hp List.not_mem_nil) hbetween
      hlast rfl
  exact ⟨hseen, hconfig "counting" none⟩

end Routing.Application
