import Routing.Proofs.Session.Following
import Routing.Proofs.Store.Settled

/-!
# Switches and settings

A switch changes no settings, but it gives its target a place among the targets, and settings are
merged in the order of these places.  Two sessions that set up the same plugins leave the same
settings for every target, and the same at the base level, wherever plugins are switched in between;
and if each target that is switched has settings by then, or never gets any, what is merged for an
action is the same as well.  Main statement: `switches_keep_settings`.
-/

namespace Routing.Application

variable {app base : Application}

theorem keptByWriting_sameSettings : KeptByWriting Store.SameSettings where
  withScopes plugin h := h.withScopes plugin
  write := Store.sameSettings_writesAlike

theorem keptByWriting_settlesUnless (Spared : Text → Text → Prop) :
    KeptByWriting (Store.SettlesUnless Spared) where
  withScopes plugin h := h.withScopes plugin
  write := Store.settlesUnless_writesAlike Spared

/-- A router without plugins follows itself. -/
theorem follows_self {S : Store → Store → Prop} (hplugins : app.router.plugins = [])
    (hs : S app.router.store app.router.store) : Follows S app app where
  registry := rfl
  pluggable := rfl
  distinct := by
    rw [hplugins]
    exact List.nodup_nil
  plugins := rfl
  store := hs

theorem switchedWhen_true (requests : List Request) (app : Application) :
    SwitchedWhen (fun _ _ _ => True) requests app := by
  induction requests generalizing app with
  | nil => trivial
  | cons r requests ih => exact ⟨fun _ _ _ _ => trivial, ih _⟩

/-- Each target that is switched in a session has settings of its own by then, or has none in the
end. -/
def SwitchedInPlace (requests : List Request) (app : Application) : Prop :=
  SwitchedWhen (fun now action plugin => (now.router.store.scopes plugin).settingsAt action ≠ [] ∨
    ((asked requests app).router.store.scopes plugin).settingsAt action = []) requests app

/-! ### One session -/

variable {requests : List Request}

/-- A session leaves the settings that are left if its plugins are only set up. -/
theorem follows_settingUp (hplugins : app.router.plugins = []) (requests : List Request) :
    Follows Store.SameSettings (asked requests app) (asked (settingUp requests) app) := by
  refine Follows.asked keptByWriting_sameSettings (P := fun _ _ _ => True) ?_
    (follows_self hplugins fun _ _ => rfl) (switchedWhen_true requests app)
  exact fun _ _ action plugin on _ h => h.store.setSwitch plugin action on

/-- If its switches have their places, it leaves these in the same order. -/
theorem merged_settingUp (hplugins : app.router.plugins = []) (hstore : app.router.store = [])
    (hw : SwitchedInPlace requests app) (plugin : Text) (action : Option Text) :
    ((asked (settingUp requests) app).router.store.scopes plugin).merged action =
      ((asked requests app).router.store.scopes plugin).merged action := by
  -- Spared are the targets that have no settings in the end, and then they never had any.
  let Spared : Text → Text → Prop := fun plugin target =>
    ((asked requests app).router.store.scopes plugin).settingsAt target = []
  have hstart : Store.SettlesUnless Spared app.router.store app.router.store := by
    rw [hstore]
    exact .inr (Store.settles_nil Spared)
  have hf : Follows (Store.SettlesUnless Spared) (asked requests app)
      (asked (settingUp requests) app) := by
    refine Follows.asked (keptByWriting_settlesUnless Spared) ?_ (follows_self hplugins hstart) hw
    exact fun _ _ action plugin on hp h => h.store.setSwitch hp.symm on
  rcases hf.store with ⟨p, t, hspared, hs⟩ | ⟨hbare, hbase, hsettled⟩
  · exact absurd hspared hs
  · rw [hsettled plugin, Scopes.merged_settled (hbare plugin) (hbase plugin)]

/-! ### Two sessions -/

/-- Two sessions in which the same plugins are attached and configured, and whatever else is asked
for, leave the same plugins attached and the same settings for each target, and for no action a
router tells different settings of a plugin.  For an action it tells the same if in both sessions
each target that is switched has settings by then, or has none in the end. -/
theorem switches_keep_settings {requests requests' : List Request}
    (hplugins : app.router.plugins = []) (hstore : app.router.store = [])
    (hsame : settingUp requests' = settingUp requests) :
    let one := asked requests app
    let other := asked requests' app
    other.router.plugins.map Plugin.blank = one.router.plugins.map Plugin.blank ∧
      one.router.store.SameSettings other.router.store ∧
      (∀ name, ((configOf name none).run other).result = ((configOf name none).run one).result) ∧
      (SwitchedInPlace requests app → SwitchedInPlace requests' app → ∀ name action,
        ((configOf name action).run other).result = ((configOf name action).run one).result) := by
  have hone := follows_settingUp hplugins requests
  have hother := follows_settingUp hplugins requests'
  rw [hsame] at hother
  have hplugins' : (asked requests' app).router.plugins.map Plugin.blank =
      (asked requests app).router.plugins.map Plugin.blank :=
    hother.plugins.symm.trans hone.plugins
  have hsettings : (asked requests app).router.store.SameSettings
      (asked requests' app).router.store :=
    fun plugin target => (hother.store plugin target).symm.trans (hone.store plugin target)
  have hfollows : Follows Store.SameSettings (asked requests app) (asked requests' app) :=
    ⟨hother.registry.symm.trans hone.registry, hother.pluggable.symm.trans hone.pluggable,
      hone.distinct, hplugins', hsettings⟩
  refine ⟨hplugins', hsettings, fun name => ?_, fun hw hw' name action => ?_⟩
  · refine result_configOf_congr hfollows (fun plugin => ?_) name
    unfold Scopes.merged
    rw [Scopes.baseSettings_eq, Scopes.baseSettings_eq, hsettings]
  · refine result_configOf_congr hfollows (fun plugin => ?_) name
    rw [← merged_settingUp hplugins hstore hw, ← merged_settingUp hplugins hstore hw', hsame]

/-- A plugin is attached, and configured for some actions and for one of them. -/
def overlapping : List Request :=
  [.call (.attach (.text "logging") [] none),
    .call (.configure "logging" [("_target", .text "a.*"), ("before", .bool false)]),
    .call (.configure "logging" [("_target", .text "a.b"), ("before", .bool true)])]

/-- The one action is switched off when it has settings already. -/
def switchedLate : List Request := overlapping ++ [.call (.setEnabled "a.b" "logging" false)]

theorem switches_keep_settings_late : ((configOf "logging" (some "a.b")).run
    (asked switchedLate (withRoutes [] []))).result =
      .ok [("enabled", .bool true), ("before", .bool true)] := by
  have hplain : SwitchedInPlace overlapping (withRoutes [] []) :=
    ⟨nofun, nofun, nofun, trivial⟩
  have hlate : SwitchedInPlace switchedLate (withRoutes [] []) := by
    refine ⟨nofun, nofun, nofun, ?_, trivial⟩
    rintro action plugin on h
    obtain ⟨rfl, rfl, rfl⟩ := Call.setEnabled.inj (Request.call.inj h)
    left
    decide +kernel
  have hplugins : (withRoutes [] []).router.plugins = [] := rfl
  have hstore : (withRoutes [] []).router.store = [] := rfl
  have hsame : settingUp switchedLate = settingUp overlapping := rfl
  obtain ⟨-, -, -, hconfig⟩ := switches_keep_settings hplugins hstore hsame
  rw [hconfig hplain hlate]
  decide +kernel

/-- A switch can give a target a place before other targets, and then its settings come first. -/
theorem not_forall_switches_keep_settings : ¬ ∀ (app : Application) (requests requests' : List Request),
    app.router.plugins = [] → app.router.store = [] → app.router.table = none →
      requests.filter (fun r => !r.isSwitch) = requests'.filter (fun r => !r.isSwitch) →
        ∀ name action, ((configOf name action).run (asked requests' app)).result =
          ((configOf name action).run (asked requests app)).result := by
  intro h
  have hsame := h (withRoutes [] []) overlapping
    (overlapping.take 1 ++ .call (.setEnabled "a.b" "logging" false) :: overlapping.drop 1)
    rfl rfl rfl rfl "logging" (some "a.b")
  revert hsame
  decide +kernel

end Routing.Application
