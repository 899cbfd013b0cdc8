import Routing.Proofs.Plugin.Newcomer
import Routing.Proofs.Session.Requests
import Routing.Proofs.Step.Blind
import Routing.Proofs.Store.Alike

/-!
# Routers that nothing tells apart

Two applications resemble each other if they differ in the store of plugin settings at most, and in
both every plugin has the same scopes.  No request sees a difference between them
(`blind_perform`), so nothing that is asked of them in any session tells them apart:
`indistinct_of_resembles`.
-/

namespace Routing

theorem Directive.blind_ofLines {σ : Type} {R : σ → σ → Prop} (lines : List Text) :
    Step.Blind R (ofLines lines) := by
  intro s t hr
  rcases complete_or_exists_short lines with hc | ⟨before, line, after, rfl, hs, hb⟩
  · rw [run_ofLines_of_complete hc, run_ofLines_of_complete hc]
    exact ⟨rfl, hr, rfl⟩
  · rw [run_ofLines_of_short hs hb, run_ofLines_of_short hs hb]
    exact ⟨rfl, hr, rfl⟩

namespace Application

variable {app app' : Application}

/-- The second application differs in its store at most, and no plugin has other scopes there. -/
def Resembles (app app' : Application) : Prop :=
  ∃ store, app.router.store.Alike store ∧ app' = app.withStore store

theorem resembles_refl (app : Application) : Resembles app app :=
  ⟨app.router.store, Store.alike_refl _, rfl⟩

/-- A step that does not see what is in the store beyond the scopes of plugins. -/
abbrev Unseeing {α : Type} (x : Step Application α) : Prop := Step.Blind Resembles x

/-! ### The table -/

theorem unseeing_directives : Unseeing directives := by
  refine Step.blind_read_bind ?_ fun app => ?_
  · rintro app _ ⟨store, -, rfl⟩
    rfl
  · refine (Step.blind_ofExcept _).bind fun path => (Step.blind_ofExcept _).bind fun lines => ?_
    exact Directive.blind_ofLines lines

theorem resembles_setControllers (cache : ControllerCache) (h : Resembles app app') :
    Resembles (cachePart.set cache app) (cachePart.set cache app') := by
  obtain ⟨store, hs, rfl⟩ := h
  exact ⟨store, hs, rfl⟩

theorem unseeing_onCache {α : Type} (x : Step ControllerCache α) :
    Unseeing (Step.on cachePart x) := by
  refine Step.blind_on x ?_ fun _ _ cache => resembles_setControllers cache
  rintro app _ ⟨store, -, rfl⟩
  rfl

theorem unseeing_expandLine (d : Directive) : Unseeing (expandLine d) := by
  refine Step.blind_read_bind ?_ fun app => unseeing_onCache _
  rintro app _ ⟨store, -, rfl⟩
  rfl

theorem unseeing_tell (name : Text) (e : Entry) : Unseeing (tell name e) := by
  refine Step.blind_read_bind ?_ fun app => ?_
  · rintro app _ ⟨store, hs, rfl⟩
    have hscopes : (app.withStore store).router.store.scopes name = app.router.store.scopes name :=
      hs name
    dsimp only
    rw [hscopes]
    rfl
  · dsimp only
    split
    · exact Step.blind_pure ()
    · refine (Step.blind_ofExcept _).bind fun p => Step.blind_modify ?_
      rintro app _ ⟨store, hs, rfl⟩
      exact ⟨store, hs, rfl⟩

theorem unseeing_tellAll (e : Entry) : Unseeing (tellAll e) := by
  refine Step.blind_read_bind ?_ fun app => Step.blind_forEach (fun p => unseeing_tell _ e) _
  rintro app _ ⟨store, -, rfl⟩
  rfl

theorem unseeing_entries : Unseeing entries := by
  have hcompile : Unseeing recipe.compile :=
    unseeing_directives.bind fun ds => Step.blind_flatMapList unseeing_expandLine ds
  have hpublish : ∀ es, Unseeing (recipe.publish tablePart es) := by
    intro es
    refine (Step.blind_forEach unseeing_tellAll es).bind fun _ => ?_
    refine (Step.blind_modify ?_).bind fun _ => (Step.blind_log _ _).bind fun _ =>
      Step.blind_pure es
    rintro app _ ⟨store, hs, rfl⟩
    exact ⟨store, hs, rfl⟩
  intro app app' hr
  have ht : tablePart.get app' = tablePart.get app := by
    obtain ⟨store, -, rfl⟩ := hr
    rfl
  unfold entries
  cases hg : tablePart.get app with
  | some es =>
    rw [Table.run_access_of_built hg, Table.run_access_of_built (ht.trans hg)]
    exact ⟨rfl, hr, rfl⟩
  | none =>
    rw [Table.run_access_of_unbuilt hg, Table.run_access_of_unbuilt (ht.trans hg)]
    exact hcompile.bind hpublish app app' hr

theorem unseeing_describe : Unseeing describe := by
  refine unseeing_entries.bind fun es => Step.blind_read_bind ?_ fun app => ?_
  · rintro app _ ⟨store, hs, rfl⟩
    have hscopes : ∀ name, (app.withStore store).router.store.scopes name =
        app.router.store.scopes name := hs
    simp only [hscopes]
    rfl
  · exact (Step.blind_ofExcept _).bind fun path => Step.blind_pure _

/-! ### Handlers and hosts -/

theorem layersOf_congr {store store' : Store} (h : store.Alike store') (action : Text)
    (ps : List Plugin) : layersOf store' action ps = layersOf store action ps := by
  induction ps with
  | nil => rfl
  | cons p ps ih =>
    have hp : layerOf store' action p = layerOf store action p := by
      unfold layerOf
      rw [h p.name]
    unfold layersOf
    rw [ih, hp]

theorem unseeing_makeHandler (e : Endpoint) : Unseeing (makeHandler e) := by
  rintro app _ ⟨store, hs, rfl⟩
  have hw : ∀ callable, wrap e callable (app.withStore store).router = wrap e callable app.router := by
    intro callable
    unfold wrap
    rw [show (app.withStore store).router.store = store from rfl, layersOf_congr hs]
    rfl
  rw [run_makeHandler, run_makeHandler]
  refine ⟨rfl, ⟨store, hs, rfl⟩, ?_⟩
  simp only [hw]
  rfl

theorem unseeing_hostNamed (host : Text) : Unseeing (hostNamed host) := by
  refine Step.blind_read_bind ?_ fun app => ?_
  · rintro app _ ⟨store, -, rfl⟩
    rfl
  · split
    · exact Step.blind_pure _
    · exact Step.blind_fail _

theorem unseeing_onHost (host : Text) (f : Host → Except Fault Host) : Unseeing (onHost host f) := by
  refine (unseeing_hostNamed host).bind fun h => (Step.blind_ofExcept _).bind fun g =>
    Step.blind_modify ?_
  rintro app _ ⟨store, hs, rfl⟩
  exact ⟨store, hs, rfl⟩

theorem unseeing_serveEntry (host : Text) (entry : Entry) : Unseeing (serveEntry host entry) := by
  cases entry with
  | folder folder =>
    refine Step.Blind.map (Step.blind_read_bind ?_ fun app => ?_) fun _ => []
    · rintro app _ ⟨store, -, rfl⟩
      rfl
    · refine (Step.blind_ofExcept _).bind fun found => ?_
      split
      · exact (unseeing_onHost host _).bind fun _ => Step.blind_log _ _
      · exact Step.blind_fail _
  | endpoint e =>
    exact (unseeing_makeHandler e).bind fun h => (unseeing_onHost host _).bind fun _ =>
      Step.blind_pure _

theorem unseeing_deploy (host : Text) : Unseeing (deploy host) := by
  refine (unseeing_hostNamed host).bind fun _ => unseeing_entries.bind fun es => ?_
  refine Step.blind_read_bind ?_ fun app => (unseeing_onHost host _).bind fun _ => ?_
  · rintro app _ ⟨store, -, rfl⟩
    rfl
  · refine (Step.blind_flatMapList (unseeing_serveEntry host) es).bind fun routes => ?_
    exact (Step.blind_log _ _).bind fun _ => Step.blind_pure _

/-! ### Calls of handlers -/

theorem unseeing_report (plugin : Text) (r : Reporting) (message : Text) :
    Unseeing (report plugin r message) := by
  refine Step.blind_read_bind ?_ fun app => (Step.blind_ofExcept _).bind fun event? => ?_
  · rintro app _ ⟨store, -, rfl⟩
    rfl
  · cases event? with
    | some event => exact Step.blind_emit event
    | none => exact Step.blind_pure ()

theorem unseeing_tick : Unseeing tick := by
  have hrun : ∀ app : Application, tick.run app = ⟨[], { app with clock := app.clock.next.2 },
      if Clock.isTellable app.clock.next.1 then .ok app.clock.next.1
      else .error .clockOutOfRange⟩ := by
    intro app
    unfold tick
    simp only [Step.run_bind, Step.run_read, Step.run_modify, Outcome.andThen_ok]
    cases Clock.isTellable app.clock.next.1 <;> rfl
  rintro app _ ⟨store, hs, rfl⟩
  rw [hrun, hrun]
  exact ⟨rfl, ⟨store, hs, rfl⟩, rfl⟩

theorem unseeing_count (plugin : Text) (label : Value) (action : Text) :
    Unseeing (count plugin label action) := by
  rintro app _ ⟨store, hs, rfl⟩
  have hc : (app.withStore store).router.counted plugin label action =
      { app.router.counted plugin label action with store } := by
    unfold Router.counted
    rw [show (app.withStore store).router.plugin? plugin = app.router.plugin? plugin from rfl]
    cases app.router.plugin? plugin <;> rfl
  obtain ⟨plugins, hp⟩ := app.router.counted_eq plugin label action
  rw [run_count, run_count, hc, hp]
  exact ⟨rfl, ⟨store, hs, rfl⟩, rfl⟩

theorem unseeing_reported {inner : Step Application Value} (h : Unseeing inner) (plugin : Text)
    (r : Reporting) (action : Text) : Unseeing (reported plugin r action inner) := by
  have hreport : ∀ (wanted : Bool) (text : Text),
      Unseeing (if wanted then report plugin r text else pure ()) := by
    intro wanted text
    cases wanted with
    | true => exact unseeing_report plugin r text
    | false => exact Step.blind_pure ()
  rw [reported_eq]
  refine (hreport _ _).bind fun _ => unseeing_tick.bind fun start => h.bind fun result => ?_
  exact unseeing_tick.bind fun stop => (hreport _ _).bind fun _ => Step.blind_pure result

theorem unseeing_callLayer {inner : Step Application Value} (h : Unseeing inner) (action : Text)
    (layer : Layer) : Unseeing (callLayer action layer inner) := by
  refine Step.blind_read_bind ?_ fun app => ?_
  · rintro app _ ⟨store, hs, rfl⟩
    have hscopes : (app.withStore store).router.store.scopes layer.plugin =
        app.router.store.scopes layer.plugin := hs layer.plugin
    dsimp only
    rw [hscopes]
  · dsimp only
    split
    · unfold performLayer
      split
      · exact h
      · exact (unseeing_count _ _ _).bind fun _ => h
      · refine (Step.blind_ofExcept _).bind fun settings => ?_
        dsimp only
        split
        · exact unseeing_reported h _ _ _
        · exact h
    · exact h

theorem unseeing_callHandler (host : Text) (index : Int) (args : Arguments) :
    Unseeing (callHandler host index args) := by
  have hcall : ∀ h : Handler, Unseeing (Application.call h args) := by
    intro h
    unfold Application.call
    induction h.layers with
    | nil => exact unseeing_onCache _
    | cons layer layers ih => exact unseeing_callLayer ih h.action layer
  refine (unseeing_hostNamed host).bind fun g => ?_
  split
  · exact Step.blind_pure _
  · exact (hcall _).map _

/-! ### Plugins -/

theorem unseeing_attached (name : Text) : Unseeing (attached name) := by
  rintro app _ ⟨store, hs, rfl⟩
  rw [run_attached, run_attached]
  exact ⟨rfl, ⟨store, hs, rfl⟩, rfl⟩

theorem unseeing_pluginAttribute (name : Text) : Unseeing (pluginAttribute name) := by
  rintro app _ ⟨store, hs, rfl⟩
  rw [run_pluginAttribute, run_pluginAttribute]
  exact ⟨rfl, ⟨store, hs, rfl⟩, rfl⟩

theorem writesAlike_alike (plugin : Text) : Plugin.WritesAlike Store.Alike plugin :=
  fun _ _ _ _ h => h.sameEnd_write

theorem unseeing_configureClass (cls : PluginClass) (given : Settings) :
    Unseeing (configureClass cls given) := by
  rintro app _ ⟨store, hs, rfl⟩
  have hend := Plugin.sameEnd_configure (writesAlike_alike cls.code) given hs
  rw [run_configureClass, run_configureClass]
  rw [show (app.withStore store).router.store = store from rfl]
  generalize Plugin.configure cls given app.router.store = x at hend ⊢
  generalize Plugin.configure cls given store = y at hend ⊢
  cases hend with
  | ok h => exact ⟨rfl, ⟨_, h, rfl⟩, rfl⟩
  | error fault => exact ⟨rfl, ⟨store, hs, rfl⟩, rfl⟩

theorem listener_congr (app : Application) {store store' : Store} (h : store.Alike store')
    (cls : PluginClass) :
    (app.withStore store').listener cls = (app.withStore store).listener cls := by
  unfold listener refusal?
  rw [show (app.withStore store').router.store = store' from rfl, h cls.code]
  rfl

theorem unseeing_attach (name : Value) (given : Settings) (sink : Option Sink) :
    Unseeing (attach name given sink) := by
  rintro app _ ⟨store, hs, rfl⟩
  have hadmission : admission name given (app.withStore store) = admission name given app := rfl
  rw [run_attach, run_attach, hadmission]
  cases ha : admission name given app with
  | error fault => exact ⟨rfl, ⟨store, hs, rfl⟩, rfl⟩
  | ok cls =>
    have hnew : app.router.plugin? cls.code = none := plugin?_of_admission ha
    have hnew' : (app.withStore store).router.plugin? cls.code = none := hnew
    have hend := Plugin.sameEnd_configure (writesAlike_alike cls.code) (settingsFor cls given sink)
      (hs.withScopes cls.code)
    dsimp only
    rw [run_enroll hnew, run_enroll hnew']
    rw [show (app.withStore store).router.store = store from rfl]
    generalize Plugin.configure cls (settingsFor cls given sink)
      (app.router.store.withScopes cls.code) = x at hend ⊢
    generalize Plugin.configure cls (settingsFor cls given sink) (store.withScopes cls.code) = y
      at hend ⊢
    cases hend with
    | ok h =>
      have hlistener := listener_congr app h cls
      dsimp only
      rw [show ∀ s, (app.withStore store).withStore s = app.withStore s from fun _ => rfl,
        hlistener]
      exact ⟨rfl, ⟨_, h, rfl⟩, rfl⟩
    | error fault => exact ⟨rfl, ⟨_, hs.withScopes cls.code, rfl⟩, rfl⟩

theorem unseeing_setEnabled (action name : Text) (on : Bool) :
    Unseeing (setEnabled action name on) := by
  refine (unseeing_attached name).bind fun p => Step.blind_modify ?_
  rintro app _ ⟨store, hs, rfl⟩
  exact ⟨_, hs.setSwitch p.name action on, rfl⟩

/-! ### Requests -/

theorem unseeing_walk : Unseeing walk := unseeing_entries.mapFault _

/-- A step that reads nothing of an application but what has to do with routing. -/
theorem unseeing_read {α : Type} {f : Application → Except Fault α}
    (hf : ∀ app store, f (app.withStore store) = f app) :
    Unseeing (Step.read >>= fun app => Step.ofExcept (f app)) := by
  refine Step.blind_read_bind ?_ fun app => Step.blind_ofExcept _
  rintro app _ ⟨store, -, rfl⟩
  rw [hf]

theorem unseeing_perform (r : Request) : Unseeing r.perform := by
  cases r with
  | call c =>
    refine Step.Blind.map ?_ _
    cases c with
    | entries => exact unseeing_entries.map _
    | actions => exact (unseeing_entries.map _).map _
    | endpointsOf action => exact (unseeing_walk.map _).map _
    | urlOf action params =>
      exact (unseeing_walk.bind fun es => unseeing_read fun _ _ => rfl).map _
    | fillPattern pattern args => exact (unseeing_read fun _ _ => rfl).map _
    | deploy host => exact (unseeing_deploy host).map _
    | callHandler host index args => exact (unseeing_callHandler host index args).map _
    | rewrite files =>
      refine Step.Blind.map (Step.blind_modify ?_) _
      rintro app _ ⟨store, hs, rfl⟩
      exact ⟨store, hs, rfl⟩
    | attach plugin given sink => exact (unseeing_attach plugin given sink).map _
    | configure plugin given =>
      exact ((unseeing_pluginAttribute plugin).bind fun p =>
        unseeing_configureClass p.cls given).map _
    | setEnabled action plugin on => exact (unseeing_setEnabled action plugin on).map _
  | describe => exact unseeing_describe.map _
  | plugins =>
    refine Step.Blind.map ?_ _
    rintro app _ ⟨store, hs, rfl⟩
    rw [run_plugins, run_plugins]
    exact ⟨rfl, ⟨store, hs, rfl⟩, rfl⟩
  | pluginNamed name => exact (unseeing_pluginAttribute name).map _
  | configOf plugin action =>
    refine Step.Blind.map ((unseeing_attached plugin).bind fun p => Step.blind_read_bind ?_
      fun app => Step.blind_ofExcept _) _
    rintro app _ ⟨store, hs, rfl⟩
    rw [show (app.withStore store).router.store = store from rfl, hs p.name]
  | isEnabled action plugin =>
    refine Step.Blind.map ((unseeing_attached plugin).bind fun p => Step.blind_read_bind ?_
      fun app => Step.blind_pure _) _
    rintro app _ ⟨store, hs, rfl⟩
    rw [show (app.withStore store).router.store = store from rfl, hs p.name]

/-- Whatever is asked of two applications, one thing after the other, is reported and answered the
same. -/
def Indistinct (app app' : Application) : Prop :=
  ∀ (requests : List Request) (r : Request),
    (r.perform.run (asked requests app')).events = (r.perform.run (asked requests app)).events ∧
      (r.perform.run (asked requests app')).result = (r.perform.run (asked requests app)).result

/-- Nothing tells applications apart that resemble each other. -/
theorem indistinct_of_resembles (h : Resembles app app') : Indistinct app app' := by
  intro requests r
  have hafter : Resembles (asked requests app) (asked requests app') :=
    Step.blind_after (List.forall_mem_map.2 fun r _ => unseeing_perform r) h
  have hlast := unseeing_perform r _ _ hafter
  exact ⟨hlast.events, hlast.result⟩

end Application

end Routing
