import Routing.Application.Calls
import Routing.Proofs.Plugin.Passing
import Routing.Proofs.Session.Following
import Routing.Proofs.Store.Accepted

/-!
# What reports go by

A plugin that reports asks its settings for five options whenever a handler is called.  Each has been
accepted as a truth value when it was given, in any session: what is in force of it can be read as
one.  But a report goes by whether it counts as true, and a word for false does.  Main statement:
`reports_as_accepted_unless_spelled_false`.
-/

namespace Routing

/-- An option of a plugin that reports. -/
inductive ReportOption where
  | enabled
  | before
  | after
  | log
  | print
  deriving DecidableEq

namespace ReportOption

/-- The setting that it is. -/
def name : ReportOption → Text
  | .enabled => "enabled"
  | .before => "before"
  | .after => "after"
  | .log => "log"
  | .print => "print"

/-- What it is unless it has been set. -/
def default : ReportOption → Bool
  | .print => false
  | _ => true

/-- What it is in a way of reporting. -/
def of (r : Reporting) : ReportOption → Bool
  | .enabled => r.enabled
  | .before => r.before
  | .after => r.after
  | .log => r.log
  | .print => r.print

/-- What settings say of it, read as when they were accepted. -/
def read (settings : Settings) (o : ReportOption) : Except SettingFault Bool :=
  match Assoc.get? o.name settings with
  | none => .ok o.default
  | some v => SettingKind.readBool v

/-- Whether it has been set to a word for false. -/
def isSpelledFalse (settings : Settings) (o : ReportOption) : Bool :=
  (Assoc.get? o.name settings).any Value.spellsFalse

variable {settings : Settings}

theorem of_ofSettings (settings : Settings) (o : ReportOption) :
    o.of (.ofSettings settings) = Reporting.switch settings o.name o.default := by
  cases o <;> rfl

/-- The logging plugin accepts truth values only for any of them. -/
theorem readsBool (o : ReportOption) :
    ∃ acceptance, PluginClass.logging.acceptance = some acceptance ∧
      acceptance.ReadsBool o.name := by
  refine ⟨_, rfl, @Settings.readsBool_faults _ ⟨o.name, .bool, false⟩ ?_ rfl⟩
  cases o <;> decide

/-- Settings that the logging plugin takes say something of every option, and it is what a report
goes by unless it was spelled as a word for false. -/
theorem exists_read (h : ∀ p ∈ settings, PluginClass.logging.Takes p) (o : ReportOption) :
    ∃ b, o.read settings = .ok b ∧
      (o.of (.ofSettings settings) = b ↔ o.isSpelledFalse settings = false) := by
  rw [of_ofSettings]
  unfold read isSpelledFalse Reporting.switch
  cases hv : Assoc.get? o.name settings with
  | none => exact ⟨o.default, rfl, iff_of_true rfl rfl⟩
  | some v =>
    obtain ⟨acceptance, hacceptance, hreads⟩ := o.readsBool
    obtain ⟨b, hb⟩ := h _ (Assoc.mem_of_get? hv) acceptance hacceptance hreads
    refine ⟨b, hb, ?_⟩
    have hread := SettingKind.isTrue_eq_iff_of_readBool hb
    cases v with
    | null => exact nomatch hb
    | _ => exact hread

end ReportOption

namespace Application

variable {app app' : Application} {given : Settings}

/-! ### What has been accepted -/

/-- The scopes of every attached plugin hold only what its class takes, and no other plugin has any
but the base scope. -/
structure HoldsAccepted (app : Application) : Prop where
  distinct : (app.router.plugins.map Plugin.name).Nodup
  attached : ∀ name p, app.router.plugin? name = some p →
    (app.router.store.scopes name).TakenBy p.cls
  absent : ∀ name, app.router.plugin? name = none →
    app.router.store.scopes name = [(.text baseLevel, Scope.base)]

theorem holdsAccepted_of_fresh (hplugins : app.router.plugins = [])
    (hstore : app.router.store = []) : HoldsAccepted app where
  distinct := by
    rw [hplugins]
    exact List.nodup_nil
  attached name p hp := by
    unfold Router.plugin? at hp
    rw [hplugins] at hp
    exact nomatch hp
  absent name _ := by
    rw [hstore]
    exact Store.scopes_nil name

theorem HoldsAccepted.of_stays (h : HoldsAccepted app) (hs : Stays app app') : HoldsAccepted app' := by
  have hblank : ∀ name, (app'.router.plugin? name).map Plugin.blank =
      (app.router.plugin? name).map Plugin.blank := by
    intro name
    rw [Router.plugin?_map_blank, Router.plugin?_map_blank, hs.plugins h.distinct]
  refine ⟨hs.names ▸ h.distinct, fun name q hq => ?_, fun name hn => ?_⟩
  · have hb := hblank name
    rw [hq, Option.map_some, eq_comm, Option.map_eq_some_iff] at hb
    obtain ⟨p, hp, hpq⟩ := hb
    have hcls : p.cls = q.cls := (congrArg Plugin.cls hpq :)
    rw [hs.store, ← hcls]
    exact h.attached name p hp
  · have hb := hblank name
    rw [hn, Option.map_none, eq_comm, Option.map_eq_none_iff] at hb
    rw [hs.store]
    exact h.absent name hb

theorem HoldsAccepted.alike (h : HoldsAccepted app) {store : Store}
    (hs : app.router.store.Alike store) : HoldsAccepted (app.withStore store) where
  distinct := h.distinct
  attached name p hp := (hs name : store.scopes name = _) ▸ h.attached name p hp
  absent name hn := (hs name).trans (h.absent name hn)

/-- Scopes in which a class has accepted everything can take the place of those of a plugin. -/
theorem HoldsAccepted.withStore (h : HoldsAccepted app) {store : Store} {name : Text} {p : Plugin}
    (hp : app.router.plugin? name = some p) (htaken : (store.scopes name).TakenBy p.cls)
    (hothers : ∀ other, other ≠ name → store.scopes other = app.router.store.scopes other) :
    HoldsAccepted (app.withStore store) where
  distinct := h.distinct
  attached other q hq := by
    change (store.scopes other).TakenBy q.cls
    by_cases ho : other = name
    · subst ho
      obtain rfl := Option.some.inj (hp.symm.trans hq)
      exact htaken
    · rw [hothers other ho]
      exact h.attached other q hq
  absent other hn := by
    have ho : other ≠ name := by
      rintro rfl
      exact nomatch hp.symm.trans hn
    exact (hothers other ho).trans (h.absent other hn)

theorem nodup_keys_settingsFor (hg : given.keys.Nodup) (cls : PluginClass) (sink : Option Sink) :
    (settingsFor cls given sink).keys.Nodup := by
  unfold settingsFor
  split
  · exact Assoc.nodup_keys_erase hg _
  · split
    · exact hg
    · exact Assoc.nodup_keys_set hg _ _

theorem HoldsAccepted.attach (h : HoldsAccepted app) (hg : given.keys.Nodup) (name : Value)
    (sink : Option Sink) : HoldsAccepted ((attach name given sink).run app).state := by
  rcases state_attach name given sink app with he | ⟨cls, hnew, he | ⟨store, seen, hc, he⟩⟩ <;> rw [he]
  · exact h
  · exact h.alike (Store.alike_withScopes _ cls.code)
  · have hscopes : ∀ other, (app.router.store.withScopes cls.code).scopes other =
        app.router.store.scopes other := Store.alike_withScopes _ cls.code
    have hothers : ∀ other, other ≠ cls.code →
        store.scopes other = app.router.store.scopes other := fun other ho =>
      (Store.scopes_of_configure_of_ne ho hc).trans (hscopes other)
    have htaken : (store.scopes cls.code).TakenBy cls := by
      refine Store.takenBy_configure hc (nodup_keys_settingsFor hg cls sink) ?_
      rw [hscopes, h.absent cls.code hnew]
      exact Scopes.takenBy_base cls
    have hfind := fun other => Router.find?_concat app.router.plugins
      ⟨cls, sinkFor cls given sink, seen, []⟩ other
    refine ⟨Router.nodup_concat h.distinct hnew, fun other q hq => ?_, fun other hn => ?_⟩
    · replace hq : (app.router.plugin? other).or (if cls.code = other then _ else none) = some q :=
        (hfind other).symm.trans hq
      change (store.scopes other).TakenBy q.cls
      by_cases ho : cls.code = other
      · subst ho
        rw [hnew, Option.none_or, if_pos rfl] at hq
        obtain rfl := Option.some.inj hq
        exact htaken
      · rw [if_neg ho, Option.or_none] at hq
        rw [hothers other (Ne.symm ho)]
        exact h.attached other q hq
    · replace hn : (app.router.plugin? other).or (if cls.code = other then _ else none) = none :=
        (hfind other).symm.trans hn
      obtain ⟨hold, hother⟩ := Option.or_eq_none_iff.1 hn
      have ho : other ≠ cls.code := by
        rintro rfl
        rw [if_pos rfl] at hother
        exact nomatch hother
      exact (hothers other ho).trans (h.absent other hold)

theorem HoldsAccepted.configure (h : HoldsAccepted app) (hg : given.keys.Nodup) (name : Text) :
    HoldsAccepted ((configure name given).run app).state := by
  rcases state_configure_cases name given app with he | ⟨p, store, hp, hc, he⟩ <;> rw [he]
  · exact h
  · obtain rfl : p.cls.code = name := Router.name_of_plugin? hp
    exact h.withStore hp (Store.takenBy_configure hc hg (h.attached _ p hp))
      fun other ho => Store.scopes_of_configure_of_ne ho hc

theorem HoldsAccepted.setEnabled (h : HoldsAccepted app) (action name : Text) (on : Bool) :
    HoldsAccepted ((setEnabled action name on).run app).state := by
  rcases state_setEnabled action name on app with he | ⟨p, hp, he⟩ <;> rw [he]
  · exact h
  · refine h.withStore hp ?_ fun other ho => ?_
    · rw [Store.scopes_setSwitch, if_pos rfl]
      exact Scopes.takenBy_setSwitch (h.attached name p hp) action on
    · rw [Store.scopes_setSwitch, if_neg ho]

theorem keptByRequests_holdsAccepted :
    KeptByRequests (fun given => given.keys.Nodup) HoldsAccepted where
  stays hs h := h.of_stays hs
  rewrite _ h := ⟨h.distinct, h.attached, h.absent⟩
  attach name sink hg h := h.attach hg name sink
  configure name hg h := h.configure hg name
  setEnabled action name on h := h.setEnabled action name on

theorem keptByRequests_comparable :
    KeptByRequests HasComparableTarget fun app => app.router.store.Comparable where
  stays hs h := by
    rw [hs.store]
    exact h
  rewrite _ h := h
  attach name sink ht h := comparable_attach h ht name sink
  configure name ht h := comparable_configure h ht name
  setEnabled action name on h := comparable_setEnabled h action name on

/-! ### Reporting -/

/-- A layer that reports, of a plugin that is on, goes by the settings that hold for the action. -/
theorem run_callLayer_report {plugin action : Text} {settings : Settings}
    (hon : (app.router.store.scopes plugin).isEnabled action = true)
    (hm : (app.router.store.scopes plugin).merged (some action) = .ok settings)
    (inner : Step Application Value) : (callLayer action ⟨plugin, .report⟩ inner).run app =
      (if ReportOption.enabled.of (.ofSettings settings) then
        reported plugin (.ofSettings settings) action inner
      else inner).run app := by
  unfold callLayer
  rw [Step.run_bind, Step.run_read, Outcome.andThen_ok]
  dsimp only
  rw [if_pos hon]
  unfold performLayer
  dsimp only
  rw [hm, Step.run_bind, Step.run_ofExcept, Outcome.andThen_ok]
  rfl

variable {requests : List Request} {name action : Text} {p : Plugin}

/-- In any session in which settings are given under names of their own, what is in force of each
option of the logging plugin reads as a truth value.  Calls of the action are reported by that, if
the plugin is on, unless it was spelled as a word for false: then they are reported as if it were
true.  If all targets given can be compared with actions, there are settings for every action. -/
theorem reports_as_accepted_unless_spelled_false (hplugins : app.router.plugins = [])
    (hstore : app.router.store = [])
    (hgiven : ∀ r ∈ requests, ∀ given, r.given? = some given → given.keys.Nodup)
    (hp : (asked requests app).router.plugin? name = some p) (hcls : p.cls = PluginClass.logging)
    (action : Text) :
    let now := asked requests app
    let scopes := now.router.store.scopes name
    (∀ settings, scopes.merged (some action) = .ok settings →
      (scopes.isEnabled action = true → ∀ inner,
        (callLayer action ⟨name, .report⟩ inner).run now =
          (if ReportOption.enabled.of (.ofSettings settings) then
            reported name (.ofSettings settings) action inner
          else inner).run now) ∧
      ∀ o : ReportOption, ∃ b, o.read settings = .ok b ∧
        (o.of (.ofSettings settings) = b ↔ o.isSpelledFalse settings = false)) ∧
    ((∀ r ∈ requests, ∀ given, r.given? = some given → HasComparableTarget given) →
      ∃ settings, scopes.merged (some action) = .ok settings) := by
  have haccepted : HoldsAccepted (asked requests app) :=
    keptByRequests_holdsAccepted.asked hgiven (holdsAccepted_of_fresh hplugins hstore)
  refine ⟨fun settings hm => ⟨fun hon => run_callLayer_report hon hm, fun o => ?_⟩, fun ht => ?_⟩
  · have htaken := haccepted.attached name p hp
    rw [hcls] at htaken
    exact o.exists_read (Scopes.takes_merged htaken hm)
  · have hstart : app.router.store.Comparable := by
      rw [hstore]
      exact Store.comparable_nil
    exact Scopes.exists_merged ((keptByRequests_comparable.asked ht hstart).scopes name) _

/-- The logging plugin is attached, and configured with a word and a number. -/
def wordAndNumber : List Request :=
  [.call (.attach (.text "logging") [] none),
    .call (.configure "logging" [("enabled", .text "off"), ("print", .int 1)])]

/-- What holds after that. -/
def wordAndNumberSettings : Settings := [("enabled", .text "off"), ("print", .int 1)]

theorem plugin?_wordAndNumber : (asked wordAndNumber (withRoutes [] [])).router.plugin? "logging" =
    some ⟨PluginClass.logging, .shared, [], []⟩ := rfl

theorem merged_wordAndNumber :
    ((asked wordAndNumber (withRoutes [] [])).router.store.scopes "logging").merged (some "a.b") =
      .ok wordAndNumberSettings := by decide +kernel

theorem nodup_wordAndNumber :
    ∀ r ∈ wordAndNumber, ∀ given, r.given? = some given → given.keys.Nodup := by
  simp [wordAndNumber, Request.given?, Assoc.keys]

/-- Reports are printed as was accepted, and are not left out as was. -/
theorem reports_as_accepted_unless_spelled_false_off :
    ReportOption.print.read wordAndNumberSettings =
        .ok (ReportOption.print.of (.ofSettings wordAndNumberSettings)) ∧
      ReportOption.enabled.read wordAndNumberSettings ≠
        .ok (ReportOption.enabled.of (.ofSettings wordAndNumberSettings)) := by
  have hplugins : (withRoutes [] []).router.plugins = [] := rfl
  have hstore : (withRoutes [] []).router.store = [] := rfl
  obtain ⟨hoptions, -⟩ := reports_as_accepted_unless_spelled_false hplugins hstore
    nodup_wordAndNumber plugin?_wordAndNumber rfl "a.b"
  obtain ⟨-, hread⟩ := hoptions wordAndNumberSettings merged_wordAndNumber
  constructor
  · obtain ⟨b, hb, hsame⟩ := hread .print
    rw [hb, hsame.2 (by decide)]
  · obtain ⟨b, hb, hsame⟩ := hread .enabled
    rw [hb]
    intro he
    exact absurd (hsame.1 (Except.ok.inj he).symm) (by decide)

/-- An option can be accepted as false and reported by as true. -/
theorem not_forall_reports_as_accepted : ¬ ∀ (app : Application) (requests : List Request)
    (p : Plugin) (action : Text) (settings : Settings),
    app.router.plugins = [] → app.router.store = [] → GoesWell requests app →
      (∀ r ∈ requests, ∀ given, r.given? = some given → given.keys.Nodup) →
      (asked requests app).router.plugin? "logging" = some p → p.cls = PluginClass.logging →
      ((asked requests app).router.store.scopes "logging").merged (some action) = .ok settings →
        ∀ o : ReportOption, o.read settings = .ok (o.of (.ofSettings settings)) := by
  intro h
  have hwell : GoesWell wordAndNumber (withRoutes [] []) := by decide +kernel
  have henabled := h _ _ _ _ _ rfl rfl hwell nodup_wordAndNumber plugin?_wordAndNumber rfl
    merged_wordAndNumber .enabled
  revert henabled
  decide

end Application

end Routing
