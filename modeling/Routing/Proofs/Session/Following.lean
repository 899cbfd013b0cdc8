import Routing.Proofs.Plugin.Newcomer
import Routing.Proofs.Session.Requests
import Routing.Proofs.Store.Alike

/-!
# Routers that were set up alike

A router follows another if the same plugins have been attached to both, in the same order, and its
store goes with that of the other in some way that all writing keeps.  Attaching and configuring in
both keeps that (`Follows.attach`, `Follows.configure`), and what is asked of either but not about
plugins is of no concern (`Follows.of_stays`).  So a session is followed by another that attaches and
configures the same: `Follows.asked`.
-/

namespace Routing

/-- Whether a request attaches or configures a plugin. -/
def Request.setsUp : Request → Bool
  | .call (.attach ..) => true
  | .call (.configure ..) => true
  | _ => false

/-- Whether a request switches a plugin on or off. -/
def Request.isSwitch : Request → Bool
  | .call (.setEnabled ..) => true
  | _ => false

/-- The requests that attach or configure plugins. -/
def settingUp (requests : List Request) : List Request := requests.filter Request.setsUp

@[simp] theorem Plugin.name_blank (p : Plugin) : p.blank.name = p.name := rfl

theorem Plugin.blank_hears (es : List Entry) (p : Plugin) : (p.hears es).blank = p.blank := rfl

theorem Router.plugin?_map_blank (r : Router) (name : Text) :
    (r.plugin? name).map Plugin.blank =
      (r.plugins.map Plugin.blank).find? fun p => p.name == name := by
  unfold plugin?
  rw [List.find?_map]
  rfl

namespace Application

variable {S : Store → Store → Prop} {app app' base base' : Application}

/-- The same plugins are attached in the second application, and its store goes with that of the
first. -/
structure Follows (S : Store → Store → Prop) (app base : Application) : Prop where
  registry : base.registry = app.registry
  pluggable : base.router.pluggable = app.router.pluggable
  distinct : (app.router.plugins.map Plugin.name).Nodup
  plugins : base.router.plugins.map Plugin.blank = app.router.plugins.map Plugin.blank
  store : S app.router.store base.router.store

theorem Follows.names (h : Follows S app base) :
    base.router.plugins.map Plugin.name = app.router.plugins.map Plugin.name := by
  have hn := congrArg (List.map Plugin.name) h.plugins
  rwa [List.map_map, List.map_map] at hn

theorem Follows.plugin? (h : Follows S app base) (name : Text) :
    (base.router.plugin? name).map Plugin.blank = (app.router.plugin? name).map Plugin.blank := by
  rw [Router.plugin?_map_blank, Router.plugin?_map_blank, h.plugins]

/-- A name stands for the same plugin in both. -/
theorem Follows.pluginNamed (h : Follows S app base) (name : Text) :
    SameEnd (fun p q => q.blank = p.blank) (pluginNamed name app) (pluginNamed name base) := by
  have hp := h.plugin? name
  unfold Application.pluginNamed Router.plugin
  rw [h.pluggable]
  split
  · cases ha : app.router.plugin? name with
    | none =>
      rw [ha, Option.map_none, Option.map_eq_none_iff] at hp
      rw [hp]
      exact .error _
    | some p =>
      rw [ha, Option.map_some, Option.map_eq_some_iff] at hp
      obtain ⟨q, hq, hb⟩ := hp
      rw [hq]
      exact .ok hb
  · exact .error _

theorem Follows.pluginFor (h : Follows S app base) (name : Text) :
    SameEnd (fun p q => q.blank = p.blank) (pluginFor name app) (pluginFor name base) := by
  unfold Application.pluginFor
  split
  · exact .error _
  · exact h.pluginNamed name

/-- What a router tells of the settings of a plugin depends on what is merged for it. -/
theorem result_configOf_congr {S : Store → Store → Prop} (h : Follows S app base)
    {action : Option Text}
    (hm : ∀ plugin, (base.router.store.scopes plugin).merged action =
      (app.router.store.scopes plugin).merged action) (name : Text) :
    ((configOf name action).run base).result = ((configOf name action).run app).result := by
  have hend := h.pluginNamed name
  rw [run_configOf, run_configOf]
  dsimp only
  generalize pluginNamed name app = x at hend ⊢
  generalize pluginNamed name base = y at hend ⊢
  cases hend with
  | error fault => rfl
  | @ok p q hb =>
    have hn : q.name = p.name := by rw [← Plugin.name_blank q, hb, Plugin.name_blank]
    change (base.router.store.scopes q.name).merged action =
      (app.router.store.scopes p.name).merged action
    rw [hn, hm]

/-! ### What does not matter -/

theorem Follows.of_stays (h : Follows S app base) (hs : Stays app app') (hs' : Stays base base') :
    Follows S app' base' where
  registry := (hs'.registry.trans h.registry).trans hs.registry.symm
  pluggable := (hs'.pluggable.trans h.pluggable).trans hs.pluggable.symm
  distinct := hs.names ▸ h.distinct
  plugins := by
    have hn : (base.router.plugins.map Plugin.name).Nodup := h.names ▸ h.distinct
    rw [hs'.plugins hn, hs.plugins h.distinct, h.plugins]
  store := by
    rw [hs.store, hs'.store]
    exact h.store

theorem Follows.withStore (h : Follows S app base) {store store' : Store} (hs : S store store') :
    Follows S (app.withStore store) (base.withStore store') :=
  ⟨h.registry, h.pluggable, h.distinct, h.plugins, hs⟩

/-- Other files make no difference. -/
theorem Follows.rewrite (h : Follows S app base) (files : FileTree) :
    Follows S { app with files } base :=
  ⟨h.registry, h.pluggable, h.distinct, h.plugins, h.store⟩

/-! ### Attaching and configuring -/

/-- A relation between stores that goes over to what is written into both. -/
structure KeptByWriting (S : Store → Store → Prop) : Prop where
  withScopes {store store' : Store} (plugin : Text) :
    S store store' → S (store.withScopes plugin) (store'.withScopes plugin)
  write (plugin : Text) : Plugin.WritesAlike S plugin

theorem Follows.admission (h : Follows S app base) (name : Value) (given : Settings) :
    admission name given base = admission name given app := by
  have hsome : ∀ code, (base.router.plugin? code).isSome = (app.router.plugin? code).isSome := by
    intro code
    have hp := congrArg Option.isSome (h.plugin? code)
    rwa [Option.isSome_map, Option.isSome_map] at hp
  unfold Application.admission
  simp only [h.registry, h.pluggable, hsome]

theorem Follows.attach (hk : KeptByWriting S) (h : Follows S app base) (name : Value)
    (given : Settings) (sink : Option Sink) :
    Follows S ((attach name given sink).run app).state ((attach name given sink).run base).state := by
  rw [run_attach, run_attach, h.admission]
  cases ha : Application.admission name given app with
  | error fault => exact h
  | ok cls =>
    have hnew : app.router.plugin? cls.code = none := plugin?_of_admission ha
    have hnew' : base.router.plugin? cls.code = none :=
      plugin?_of_admission ((h.admission name given).trans ha)
    have hscopes := hk.withScopes cls.code h.store
    have hend := Plugin.sameEnd_configure (hk.write cls.code) (settingsFor cls given sink) hscopes
    dsimp only
    rw [run_enroll hnew, run_enroll hnew']
    generalize Plugin.configure cls (settingsFor cls given sink)
      (app.router.store.withScopes cls.code) = x at hend ⊢
    generalize Plugin.configure cls (settingsFor cls given sink)
      (base.router.store.withScopes cls.code) = y at hend ⊢
    cases hend with
    | error fault => exact h.withStore hscopes
    | ok hs =>
      refine ⟨h.registry, h.pluggable, ?_, ?_, hs⟩
      · refine Router.nodup_concat h.distinct ?_
        rw [Plugin.name_hears]
        exact hnew
      · unfold withPlugins
        simp only [List.map_append, List.map_singleton, Plugin.blank_hears, h.plugins]

theorem Follows.configure (hk : KeptByWriting S) (h : Follows S app base) (name : Text)
    (given : Settings) :
    Follows S ((configure name given).run app).state ((configure name given).run base).state := by
  have hfound := h.pluginFor name
  rw [state_configure, state_configure]
  generalize Application.pluginFor name app = x at hfound ⊢
  generalize Application.pluginFor name base = y at hfound ⊢
  cases hfound with
  | error fault => exact h
  | @ok p q hb =>
    have hc : q.cls = p.cls := (congrArg Plugin.cls hb :)
    have hend := Plugin.sameEnd_configure (hk.write p.cls.code) given h.store
    dsimp only
    rw [hc]
    generalize Plugin.configure p.cls given app.router.store = x at hend ⊢
    generalize Plugin.configure p.cls given base.router.store = y at hend ⊢
    cases hend with
    | error fault => exact h
    | ok hs => exact h.withStore hs

/-! ### Sessions -/

/-- Whenever a plugin is switched in a session, this is so of the application and of what is
switched. -/
def SwitchedWhen (P : Application → Text → Text → Prop) : List Request → Application → Prop
  | [], _ => True
  | r :: requests, app =>
    (∀ action plugin on, r = .call (.setEnabled action plugin on) → P app action plugin) ∧
      SwitchedWhen P requests (r.perform.run app).state

/-- A session is followed by the one that only sets up the same, if its switches are kept out of the
stores. -/
theorem Follows.asked {P : Application → Text → Text → Prop} (hk : KeptByWriting S)
    (hswitch : ∀ app base action plugin on, P app action plugin → Follows S app base →
      S (app.router.store.setSwitch plugin action on) base.router.store)
    {requests : List Request} (h : Follows S app base) (hw : SwitchedWhen P requests app) :
    Follows S (asked requests app) (asked (settingUp requests) base) := by
  -- The second session waits while the first is asked for something else.
  induction requests generalizing app base with
  | nil => exact h
  | cons r requests ih =>
    obtain ⟨hr, hw⟩ := hw
    cases hset : r.setsUp with
    | true =>
      have hf : settingUp (r :: requests) = r :: settingUp requests := List.filter_cons_of_pos hset
      rw [hf, asked_cons, asked_cons]
      refine ih ?_ hw
      cases r with
      | call c =>
        cases c with
        | attach name given sink =>
          rw [state_perform_attach, state_perform_attach]
          exact h.attach hk name given sink
        | configure name given =>
          rw [state_perform_configure, state_perform_configure]
          exact h.configure hk name given
        | _ => exact nomatch hset
      | _ => exact nomatch hset
    | false =>
      have hf : settingUp (r :: requests) = settingUp requests :=
        List.filter_cons_of_neg (by simp [hset])
      rw [hf, asked_cons]
      refine ih ?_ hw
      cases r using Request.casesByEffect with
      | rewrite files =>
        rw [state_perform_rewrite]
        exact h.rewrite files
      | setEnabled action plugin on =>
        rw [state_perform_setEnabled]
        rcases state_setEnabled action plugin on app with he | ⟨p, -, he⟩ <;> rw [he]
        · exact h
        · exact ⟨h.registry, h.pluggable, h.distinct, h.plugins,
            hswitch app base action plugin on (hr action plugin on rfl) h⟩
      | attach => exact nomatch hset
      | configure => exact nomatch hset
      | plain r hp hother => exact h.of_stays (stays_perform hp hother app) (stays_refl base)

end Application

end Routing
