import Routing.Proofs.Session.Following
import Routing.Proofs.Store.Accepted
import Routing.Proofs.Store.Marks

/-!
# The diary of a plugin

What becomes of a plugin in a session can be told from the requests that concern it: when it has
been attached and as what, and the marks that its scopes have come to.  A request is noted by what
it gives and by whether the plugin is attached by then, and by nothing else about the application.
Main statement: `tells_diary`, that the diary tells what is there.
-/

namespace Routing

open Application

/-- What has become of one plugin. -/
structure Diary where
  /-- The class as which it is attached, if it is. -/
  cls : Option PluginClass
  /-- What its scopes have come to, oldest first. -/
  marks : List Mark

namespace Diary

def blank : Diary := ⟨none, []⟩

/-- Settings among which nothing gets in the way of attaching a plugin. -/
def CanAttach (given : Settings) : Prop :=
  (attachArguments.any fun argument => (Assoc.get? argument given).isSome) = false ∧
    Assoc.get? routerArgument given = none

instance decidableCanAttach (given : Settings) : Decidable (CanAttach given) :=
  inferInstanceAs (Decidable (_ ∧ _))

/-- A name under which a plugin can be had as an attribute. -/
def IsAttribute (name : Text) : Prop := ¬ (name ∈ ownAttributes ∨ isHidden name = true)

instance decidableIsAttribute (name : Text) : Decidable (IsAttribute name) :=
  inferInstanceAs (Decidable (¬ _))

variable {registry : Registry} {name : Text} {d : Diary} {app app' : Application}
  {given : Settings} {cls : PluginClass}

/-- A plugin of a class is attached, if it is the one and its settings are accepted. -/
def attach (name : Text) (cls : PluginClass) (settings : Settings) (d : Diary) : Diary :=
  if cls.code = name ∧ d.cls = none ∧ cls.accepts settings = true then
    ⟨some cls, d.marks ++ cls.marks settings⟩
  else d

/-- The plugin comes to marks if it is attached. -/
def add (marks : PluginClass → List Mark) (d : Diary) : Diary :=
  match d.cls with
  | some cls => { d with marks := d.marks ++ marks cls }
  | none => d

/-- A request is noted. -/
def note (registry : Registry) (name : Text) (d : Diary) : Request → Diary
  | .call (.attach n given sink) =>
    match registry.classNamed n with
    | .ok cls => if CanAttach given then d.attach name cls (settingsFor cls given sink) else d
    | .error _ => d
  | .call (.configure n given) =>
    if n = name ∧ IsAttribute n then d.add fun cls => cls.marks given else d
  | .call (.setEnabled action n on) =>
    if n = name then d.add fun _ => [.switched action on] else d
  | _ => d

/-- What is there is what the diary says. -/
structure Tells (registry : Registry) (name : Text) (d : Diary) (app : Application) : Prop where
  registry : app.registry = registry
  pluggable : app.router.pluggable = true
  distinct : (app.router.plugins.map Plugin.name).Nodup
  attached : (app.router.plugin? name).map Plugin.cls = d.cls
  scopes : app.router.store.scopes name = Scopes.replay d.marks

/-! ### Single requests -/

theorem add_of_some (hd : d.cls = some cls) (marks : PluginClass → List Mark) :
    d.add marks = { d with marks := d.marks ++ marks cls } := by
  unfold add
  rw [hd]

theorem add_of_none (hd : d.cls = none) (marks : PluginClass → List Mark) : d.add marks = d := by
  unfold add
  rw [hd]

theorem Tells.exists_plugin? (h : d.Tells registry name app) (hd : d.cls = some cls) :
    ∃ p, app.router.plugin? name = some p ∧ p.cls = cls := by
  have ha := h.attached
  rw [hd, Option.map_eq_some_iff] at ha
  exact ha

theorem Tells.plugin?_eq_none (h : d.Tells registry name app) (hd : d.cls = none) :
    app.router.plugin? name = none := by
  have ha := h.attached
  rwa [hd, Option.map_eq_none_iff] at ha

theorem pluginNamed_eq (hp : app.router.pluggable = true) (n : Text) :
    pluginNamed n app = app.router.plugin n := if_pos hp

/-- A plugin that is attached by the diary is found. -/
theorem Tells.exists_pluginNamed (h : d.Tells registry name app) (hd : d.cls.isSome = true) :
    ∃ p, pluginNamed name app = .ok p ∧ p.name = name := by
  obtain ⟨cls, hcls⟩ := Option.isSome_iff_exists.1 hd
  obtain ⟨p, hp, -⟩ := h.exists_plugin? hcls
  refine ⟨p, ?_, Router.name_of_plugin? hp⟩
  rw [pluginNamed_eq h.pluggable, Router.plugin, hp]

theorem pluginFor_of_isAttribute (ha : IsAttribute name) :
    pluginFor name app = pluginNamed name app := if_neg ha

theorem pluginFor_of_not_isAttribute (ha : ¬ IsAttribute name) :
    pluginFor name app = .error .noSuchAttribute := if_pos (not_not.1 ha)

theorem Tells.of_stays (h : d.Tells registry name app) (hs : Stays app app') :
    d.Tells registry name app' where
  registry := hs.registry.trans h.registry
  pluggable := hs.pluggable.trans h.pluggable
  distinct := hs.names ▸ h.distinct
  attached := by
    have hblank : (app'.router.plugin? name).map Plugin.blank =
        (app.router.plugin? name).map Plugin.blank := by
      rw [Router.plugin?_map_blank, Router.plugin?_map_blank, hs.plugins h.distinct]
    have hcls := congrArg (Option.map Plugin.cls) hblank
    rw [Option.map_map, Option.map_map] at hcls
    exact hcls.trans h.attached
  scopes := by
    rw [hs.store]
    exact h.scopes

/-- A store in which the scopes of the plugin have not changed makes no difference. -/
theorem Tells.withStore (h : d.Tells registry name app) {store : Store}
    (hs : store.scopes name = app.router.store.scopes name) :
    d.Tells registry name (app.withStore store) :=
  ⟨h.registry, h.pluggable, h.distinct, h.attached, hs.trans h.scopes⟩

theorem Tells.add (h : d.Tells registry name app) (hd : d.cls = some cls) {store : Store}
    {marks : PluginClass → List Mark}
    (hs : store.scopes name = (marks cls).foldl Mark.leave (app.router.store.scopes name)) :
    (d.add marks).Tells registry name (app.withStore store) := by
  rw [add_of_some hd]
  refine ⟨h.registry, h.pluggable, h.distinct, h.attached, ?_⟩
  rw [Scopes.replay_append, ← h.scopes]
  exact hs

theorem Tells.setEnabled (h : d.Tells registry name app) (action n : Text) (on : Bool) :
    (d.note registry name (.call (.setEnabled action n on))).Tells registry name
      ((setEnabled action n on).run app).state := by
  have hstate : ((Application.setEnabled action n on).run app).state =
      (app.router.plugin? n).elim app
        fun p => app.withStore (app.router.store.setSwitch p.name action on) := by
    unfold Application.setEnabled
    rw [Step.run_bind, run_attached, pluginNamed_eq h.pluggable]
    unfold Router.plugin
    cases app.router.plugin? n <;> rfl
  rw [hstate]
  unfold note
  cases hp : app.router.plugin? n with
  | none =>
    dsimp only
    split
    · rename_i hn
      subst hn
      have hd : d.cls = none := by rw [← h.attached, hp]; rfl
      rw [add_of_none hd]
      exact h
    · exact h
  | some p =>
    obtain rfl : p.name = n := Router.name_of_plugin? hp
    dsimp only
    split
    · rename_i hn
      subst hn
      have hd : d.cls = some p.cls := by rw [← h.attached, hp]; rfl
      refine h.add hd ?_
      rw [Store.scopes_setSwitch, if_pos rfl]
      rfl
    · rename_i hn
      refine h.withStore ?_
      rw [Store.scopes_setSwitch, if_neg (Ne.symm hn)]

theorem Tells.configure (h : d.Tells registry name app) (n : Text) (given : Settings) :
    (d.note registry name (.call (.configure n given))).Tells registry name
      ((configure n given).run app).state := by
  rw [state_configure]
  unfold note
  by_cases ha : IsAttribute n
  · rw [pluginFor_of_isAttribute ha, pluginNamed_eq h.pluggable]
    unfold Router.plugin
    cases hp : app.router.plugin? n with
    | none =>
      dsimp only
      split
      · rename_i hn
        obtain ⟨rfl, -⟩ := hn
        have hd : d.cls = none := by rw [← h.attached, hp]; rfl
        rw [add_of_none hd]
        exact h
      · exact h
    | some p =>
      obtain rfl : p.cls.code = n := Router.name_of_plugin? hp
      dsimp only
      split
      · rename_i hn
        obtain ⟨rfl, -⟩ := hn
        have hd : d.cls = some p.cls := by rw [← h.attached, hp]; rfl
        cases hc : Plugin.configure p.cls given app.router.store with
        | ok store => exact h.add hd (Store.scopes_of_configure hc)
        | error fault =>
          have hnone := PluginClass.marks_of_refused (Plugin.not_accepts_of_configure hc)
          refine h.add hd ?_
          rw [hnone]
          rfl
      · rename_i hn
        have hother : name ≠ p.cls.code := fun he => hn ⟨he.symm, ha⟩
        cases hc : Plugin.configure p.cls given app.router.store with
        | ok store => exact h.withStore (Store.scopes_of_configure_of_ne hother hc)
        | error fault => exact h
  · dsimp only
    rw [pluginFor_of_not_isAttribute ha, if_neg fun hn => ha hn.2]
    exact h

/-- A plugin of a class comes to those that are attached, and it is noted if it is the one. -/
theorem Tells.enroll (h : d.Tells registry name app) (hnew : app.router.plugin? cls.code = none)
    (given : Settings) (sink : Option Sink) :
    (d.attach name cls (settingsFor cls given sink)).Tells registry name
      ((enroll cls given sink).run app).state := by
  have hd : cls.code = name → d.cls = none := by
    rintro rfl
    rw [← h.attached, hnew]
    rfl
  have hscopes : ∀ other, (app.router.store.withScopes cls.code).scopes other =
      app.router.store.scopes other := Store.alike_withScopes _ cls.code
  rw [run_enroll hnew]
  cases hc : Plugin.configure cls (settingsFor cls given sink)
      (app.router.store.withScopes cls.code) with
  | error fault =>
    have hrefused := Plugin.not_accepts_of_configure hc
    unfold Diary.attach
    rw [if_neg fun ha => Bool.false_ne_true (hrefused.symm.trans ha.2.2)]
    exact h.withStore (hscopes name)
  | ok store =>
    dsimp only
    generalize hq : (newPlugin cls given sink).hears _ = q
    have hqcls : q.cls = cls := by rw [← hq, Plugin.cls_hears]; rfl
    have hqname : q.name = cls.code := congrArg PluginClass.code hqcls
    have hfind : (app.router.plugins ++ [q]).find? (fun p => p.name == name) =
        (app.router.plugin? name).or (if q.name = name then some q else none) :=
      Router.find?_concat app.router.plugins q name
    have hdistinct : ((app.router.plugins ++ [q]).map Plugin.name).Nodup := by
      refine Router.nodup_concat h.distinct ?_
      rw [hqname]
      exact hnew
    by_cases hname : cls.code = name
    · subst hname
      have haccepts := Plugin.accepts_of_configure hc
      unfold Diary.attach
      rw [if_pos ⟨rfl, hd rfl, haccepts⟩]
      refine ⟨h.registry, h.pluggable, hdistinct, ?_, ?_⟩
      · rw [hnew, Option.none_or, if_pos hqname] at hfind
        exact (congrArg (Option.map Plugin.cls) hfind).trans (congrArg some hqcls)
      · rw [Scopes.replay_append, ← h.scopes, ← hscopes]
        exact Store.scopes_of_configure hc
    · unfold Diary.attach
      rw [if_neg fun ha => hname ha.1]
      refine ⟨h.registry, h.pluggable, hdistinct, ?_, ?_⟩
      · rw [if_neg fun he => hname (hqname.symm.trans he), Option.or_none] at hfind
        exact (congrArg (Option.map Plugin.cls) hfind).trans h.attached
      · exact (Store.scopes_of_configure_of_ne (Ne.symm hname) hc).trans
          ((hscopes name).trans h.scopes)

theorem Tells.attach (h : d.Tells registry name app) (n : Value) (given : Settings)
    (sink : Option Sink) : (d.note registry name (.call (.attach n given sink))).Tells registry name
      ((Application.attach n given sink).run app).state := by
  have hadmission : ∀ cls, admission n given app = .ok cls ↔
      registry.classNamed n = .ok cls ∧ CanAttach given ∧ app.router.plugin? cls.code = none := by
    intro cls
    rw [admission_eq_ok_iff, h.registry]
    exact ⟨fun ⟨_, hg, hc, hn, hr⟩ => ⟨hc, ⟨hg, hr⟩, hn⟩,
      fun ⟨hc, ⟨hg, hr⟩, hn⟩ => ⟨h.pluggable, hg, hc, hn, hr⟩⟩
  rw [run_attach]
  cases ha : admission n given app with
  | ok cls =>
    obtain ⟨hc, hcan, hnew⟩ := (hadmission cls).1 ha
    have hnote : d.note registry name (.call (.attach n given sink)) =
        d.attach name cls (settingsFor cls given sink) := by
      unfold note
      dsimp only
      rw [hc]
      exact if_pos hcan
    rw [hnote]
    exact h.enroll hnew given sink
  | error fault =>
    have hnote : d.note registry name (.call (.attach n given sink)) = d := by
      unfold note
      dsimp only
      cases hc : registry.classNamed n with
      | error fault' => rfl
      | ok cls =>
        dsimp only
        split
        · rename_i hcan
          refine if_neg ?_
          rintro ⟨rfl, hd, -⟩
          exact nomatch ha.symm.trans ((hadmission cls).2 ⟨hc, hcan, h.plugin?_eq_none hd⟩)
        · rfl
    rw [hnote]
    exact h

/-- Whatever is asked for, the diary goes on to tell what is there. -/
theorem Tells.note (h : d.Tells registry name app) (r : Request) :
    (d.note registry name r).Tells registry name (r.perform.run app).state := by
  cases r using Request.casesByEffect with
  | rewrite files =>
    rw [state_perform_rewrite]
    exact ⟨h.registry, h.pluggable, h.distinct, h.attached, h.scopes⟩
  | attach n given sink =>
    rw [state_perform_attach]
    exact h.attach n given sink
  | configure n given =>
    rw [state_perform_configure]
    exact h.configure n given
  | setEnabled action n on =>
    rw [state_perform_setEnabled]
    exact h.setEnabled action n on
  | plain r hp hw =>
    have hnote : d.note registry name r = d := by
      unfold Diary.note
      split <;> first | rfl | exact nomatch hp
    rw [hnote]
    exact h.of_stays (stays_perform hp hw app)

end Diary

/-! ### Sessions -/

namespace Application

variable {app : Application} {name : Text} {requests : List Request}

/-- What becomes of a plugin when a router is asked for some things. -/
def diary (app : Application) (name : Text) (requests : List Request) : Diary :=
  requests.foldl (Diary.note app.registry name) Diary.blank

theorem diary_concat (requests : List Request) (r : Request) :
    diary app name (requests ++ [r]) = (diary app name requests).note app.registry name r := by
  unfold diary
  rw [List.foldl_append]
  rfl

theorem asked_concat (requests : List Request) (r : Request) (app : Application) :
    asked (requests ++ [r]) app = (r.perform.run (asked requests app)).state := by
  induction requests generalizing app with
  | nil => rfl
  | cons r' requests ih => exact ih _

/-- The diary of each plugin of a new router tells what has become of it. -/
theorem tells_diary (hplugins : app.router.plugins = []) (hstore : app.router.store = [])
    (hpluggable : app.router.pluggable = true) (name : Text) (requests : List Request) :
    (diary app name requests).Tells app.registry name (asked requests app) := by
  induction requests using List.reverseRecOn with
  | nil =>
    refine ⟨rfl, hpluggable, ?_, ?_, ?_⟩
    · rw [asked_nil, hplugins]
      exact List.nodup_nil
    · rw [asked_nil, Router.plugin?, hplugins]
      rfl
    · rw [asked_nil, hstore]
      exact Store.scopes_nil name
  | append_singleton requests r ih =>
    rw [diary_concat, asked_concat]
    exact ih.note r

end Application

/-! ### What is noted -/

/-- Whether a request attaches, configures or switches the plugin. -/
def Request.concerns (registry : Registry) (name : Text) : Request → Bool
  | .call (.attach n _ _) =>
    match registry.classNamed n with
    | .ok cls => cls.code == name
    | .error _ => false
  | .call (.configure n _) => n == name
  | .call (.setEnabled _ n _) => n == name
  | _ => false

/-- A mark that a request can leave on the scopes of the plugin. -/
def Request.Leaves (name : Text) (m : Mark) : Request → Prop
  | .call (.attach _ given sink) => ∃ cls : PluginClass, m ∈ cls.marks (settingsFor cls given sink)
  | .call (.configure _ given) => ∃ cls : PluginClass, m ∈ cls.marks given
  | .call (.setEnabled action n on) => n = name ∧ m = .switched action on
  | _ => False

namespace Diary

variable {registry : Registry} {name : Text} {d : Diary} {r : Request}

/-- Only what concerns the plugin is noted. -/
theorem note_of_not_concerns (h : r.concerns registry name = false) :
    d.note registry name r = d := by
  unfold note
  split
  · rename_i n given sink
    cases hc : registry.classNamed n with
    | error fault => rfl
    | ok cls =>
      have hne : ¬ cls.code = name := by
        simpa [Request.concerns, hc] using h
      dsimp only
      split
      · exact if_neg fun ha => hne ha.1
      · rfl
  · exact if_neg fun ha => absurd ha.1 (by simpa [Request.concerns] using h)
  · exact if_neg (by simpa [Request.concerns] using h)
  · rfl

/-- A plugin that is attached stays attached, and to its marks come some that the request leaves. -/
theorem exists_marks_note (registry : Registry) (name : Text) (d : Diary) (r : Request) :
    (d.cls.isSome = true → (d.note registry name r).cls = d.cls) ∧
      ∃ more, (d.note registry name r).marks = d.marks ++ more ∧ ∀ m ∈ more, r.Leaves name m := by
  have hsame : (d.cls.isSome = true → d.cls = d.cls) ∧
      ∃ more, d.marks = d.marks ++ more ∧ ∀ m ∈ more, r.Leaves name m :=
    ⟨fun _ => rfl, [], (List.append_nil _).symm, fun m hm => absurd hm List.not_mem_nil⟩
  have hadd : ∀ marks : PluginClass → List Mark, (∀ cls, ∀ m ∈ marks cls, r.Leaves name m) →
      (d.cls.isSome = true → (d.add marks).cls = d.cls) ∧
        ∃ more, (d.add marks).marks = d.marks ++ more ∧ ∀ m ∈ more, r.Leaves name m := by
    intro marks hm
    cases hd : d.cls with
    | none =>
      rw [add_of_none hd, hd]
      exact hd ▸ hsame
    | some cls =>
      rw [add_of_some hd]
      exact ⟨fun _ => hd, marks cls, rfl, hm cls⟩
  unfold note
  split
  · rename_i n given sink
    split
    · rename_i cls _
      split
      · unfold attach
        split
        · rename_i ha
          refine ⟨fun hs => ?_, cls.marks _, rfl, fun m hm => ⟨cls, hm⟩⟩
          rw [ha.2.1] at hs
          exact nomatch hs
        · exact hsame
      · exact hsame
    · exact hsame
  · split
    · exact hadd _ fun cls m hm => ⟨cls, hm⟩
    · exact hsame
  · split
    · rename_i hn
      exact hadd _ fun _ m hm => ⟨hn, List.mem_singleton.1 hm⟩
    · exact hsame
  · exact hsame

end Diary

namespace Application

variable {app : Application} {name : Text} {requests : List Request}

/-- The diary of a plugin is that of the requests that concern it. -/
theorem diary_filter (requests : List Request) :
    diary app name (requests.filter fun r => r.concerns app.registry name) =
      diary app name requests := by
  induction requests using List.reverseRecOn with
  | nil => rfl
  | append_singleton requests r ih =>
    rw [List.filter_append, diary_concat, ← ih]
    cases hr : r.concerns app.registry name with
    | true => rw [List.filter_cons_of_pos hr, List.filter_nil, diary_concat]
    | false =>
      rw [List.filter_cons_of_neg (by simp [hr]), List.filter_nil, List.append_nil,
        Diary.note_of_not_concerns hr]

/-- Every mark in a diary has been left by a request. -/
theorem exists_leaves_of_mem_diary {m : Mark} (hm : m ∈ (diary app name requests).marks) :
    ∃ r ∈ requests, r.Leaves name m := by
  induction requests using List.reverseRecOn with
  | nil => exact absurd hm List.not_mem_nil
  | append_singleton requests r ih =>
    rw [diary_concat] at hm
    obtain ⟨-, more, hmarks, hmore⟩ :=
      Diary.exists_marks_note app.registry name (diary app name requests) r
    rw [hmarks] at hm
    rcases List.mem_append.1 hm with hold | hnew
    · obtain ⟨r', hr', hl⟩ := ih hold
      exact ⟨r', List.mem_append_left _ hr', hl⟩
    · exact ⟨r, List.mem_append_right _ List.mem_cons_self, hmore m hnew⟩

end Application

end Routing
