import Routing.Proofs.Directive.Lines
import Routing.Proofs.Plugin.Attached
import Routing.Proofs.Table.Announcing
import Routing.Proofs.Table.Delivery

/-!
# What attached plugins hear

Plugins are told of an entry in the order of attachment, up to the first that refuses it:
`run_tellAll` says what becomes of them all.  Each plugin is thereby one of an `audience`, and the
table of a router is built under it: `attended_entries`.
-/

namespace Routing

variable {e : Entry}

namespace Plugin

/-- A plugin that has heard of an entry. -/
def told (e : Entry) (p : Plugin) : Plugin := { p with seen := p.seen ++ [e] }

@[simp] theorem cls_told (e : Entry) (p : Plugin) : (p.told e).cls = p.cls := rfl

@[simp] theorem name_told (e : Entry) (p : Plugin) : (p.told e).name = p.name := rfl

/-- Plugins after they have been told of an entry, up to the first that refuses it. -/
def allTold (refuses : PluginClass → Bool) (e : Entry) : List Plugin → List Plugin
  | [] => []
  | p :: ps => if refuses p.cls then p :: ps else p.told e :: allTold refuses e ps

variable {refuses : PluginClass → Bool} {ps : List Plugin}

theorem map_cls_allTold : (allTold refuses e ps).map cls = ps.map cls := by
  induction ps with
  | nil => rfl
  | cons p ps ih =>
    unfold allTold
    split
    · rfl
    · simp [ih]

/-- The entries that the plugin of a name has heard of. -/
def heardIn (name : Text) (ps : List Plugin) : List Entry :=
  ((ps.find? fun p => p.name == name).map seen).getD []

/-- A plugin hears of an entry if it comes before all that refuse it. -/
theorem heardIn_allTold {name : Text} {p : Plugin}
    (hp : (ps.find? fun p => p.name == name) = some p) :
    heardIn name (allTold refuses e ps) = heardIn name ps ++
      if ((ps.map cls).takeWhile fun cls => !refuses cls).any fun cls => cls.code == name then
        [e] else [] := by
  induction ps with
  | nil => simp at hp
  | cons q ps ih =>
    by_cases hr : refuses q.cls
    · simp [allTold, hr]
    · by_cases hn : q.name = name
      · have hq : q = p := by simpa [hn] using hp
        have hc : q.cls.code = name := hn
        subst hq
        have ht : (q.told e).seen = q.seen ++ [e] := rfl
        simp [allTold, hr, heardIn, hn, hc, ht]
      · have hc : ¬ q.cls.code = name := hn
        have hp' : (ps.find? fun p => p.name == name) = some p := by simpa [hn] using hp
        have ih := ih hp'
        unfold heardIn at ih ⊢
        simp [allTold, hr, hn, hc, ih]

end Plugin

namespace Application

variable {app : Application}

/-- What a plugin of a class says of an entry if it refuses it. -/
def refusal? (app : Application) (e : Entry) (cls : PluginClass) : Option Text :=
  cls.hook.refusal? (app.router.store.scopes cls.code).baseSettings e

/-- Whether a plugin of a class would refuse an entry. -/
def refuses (app : Application) (e : Entry) (cls : PluginClass) : Bool :=
  (app.refusal? e cls).isSome

/-! ### Telling -/

/-- How telling ends if there are plugins of these classes to be told. -/
def telling (app : Application) (e : Entry) (classes : List PluginClass) : Except Fault Unit :=
  match classes.findSome? (app.refusal? e) with
  | some message => .error (.entryRejected message)
  | none => .ok ()

theorem run_tell_of_refuses {p : Plugin} {message : Text}
    (hp : app.router.plugin? p.name = some p) (hf : app.refusal? e p.cls = some message) :
    (tell p.name e).run app = ⟨[], app, .error (.entryRejected message)⟩ := by
  have hn : p.notify (app.router.store.scopes p.name).baseSettings e =
      .error (.entryRejected message) := by
    unfold Plugin.notify
    rw [show p.cls.hook.refusal? (app.router.store.scopes p.name).baseSettings e = some message
      from hf]
  rw [tell_of_some hp, hn]

theorem run_tell_of_accepts {p : Plugin} (hp : app.router.plugin? p.name = some p)
    (hf : app.refusal? e p.cls = none) : (tell p.name e).run app =
      ⟨[], { app with router := app.router.setPlugin (p.told e) }, .ok ()⟩ := by
  have hn : p.notify (app.router.store.scopes p.name).baseSettings e = .ok (p.told e) := by
    unfold Plugin.notify
    rw [show p.cls.hook.refusal? (app.router.store.scopes p.name).baseSettings e = none from hf]
    rfl
  rw [tell_of_some hp, hn]

theorem run_forEach_tell (done rest : List Plugin) (hr : app.router.plugins = done ++ rest)
    (hn : (app.router.plugins.map Plugin.name).Nodup) :
    (Step.forEach (fun p : Plugin => tell p.name e) rest).run app =
      ⟨[], app.withPlugins (done ++ Plugin.allTold (app.refuses e) e rest),
        app.telling e (rest.map Plugin.cls)⟩ := by
  -- The plugins that have been told are the first ones, and no name of theirs comes again.
  induction rest generalizing app done with
  | nil =>
    have hs : app.withPlugins (done ++ []) = app := by
      unfold withPlugins
      rw [← hr]
    exact congrArg (fun s => Outcome.mk [] s (.ok ())) hs.symm
  | cons p rest ih =>
    obtain ⟨hdone, hrest⟩ := Router.ne_of_nodup_append_cons (hr ▸ hn)
    have hp : app.router.plugin? p.name = some p := Router.plugin?_append_cons hr hdone
    unfold Step.forEach
    cases hf : app.refusal? e p.cls with
    | some message =>
      have ht := run_tell_of_refuses hp hf
      have hs : app.withPlugins (done ++ p :: rest) = app := by
        unfold withPlugins
        rw [← hr]
      have hr : app.refuses e p.cls = true := congrArg Option.isSome hf
      have htold : Plugin.allTold (app.refuses e) e (p :: rest) = p :: rest := if_pos hr
      have hend : app.telling e ((p :: rest).map Plugin.cls) = .error (.entryRejected message) := by
        simp [telling, hf]
      rw [Step.run_bind, ht, Outcome.andThen_error, htold, hend, hs]
    | none =>
      have ht := run_tell_of_accepts hp hf
      rw [Router.setPlugin_append_cons hr hdone hrest (Plugin.name_told e p)] at ht
      have hr' : (app.withPlugins (done ++ p.told e :: rest)).router.plugins =
        (done ++ [p.told e]) ++ rest := (List.append_assoc _ [p.told e] rest).symm
      have hn' : ((app.withPlugins (done ++ p.told e :: rest)).router.plugins.map
          Plugin.name).Nodup := by
        rw [hr] at hn
        simpa [withPlugins] using hn
      have ih := ih _ hr' hn'
      rw [List.append_assoc] at ih
      have hno : ¬ app.refuses e p.cls = true := by simp [refuses, hf]
      have htold : Plugin.allTold (app.refuses e) e (p :: rest) =
        p.told e :: Plugin.allTold (app.refuses e) e rest := if_neg hno
      have hend : app.telling e ((p :: rest).map Plugin.cls) =
          app.telling e (rest.map Plugin.cls) := by
        simp [telling, hf]
      rw [Step.run_bind, ht, Outcome.andThen_ok, htold, hend, List.nil_append]
      exact ih

/-- Plugins with different names are told of an entry in their order. -/
theorem run_tellAll (hn : (app.router.plugins.map Plugin.name).Nodup) : (tellAll e).run app =
    ⟨[], app.withPlugins (Plugin.allTold (app.refuses e) e app.router.plugins),
      app.telling e (app.router.plugins.map Plugin.cls)⟩ := by
  unfold tellAll
  simp only [Step.run_bind, Step.run_read, Outcome.andThen_ok, List.nil_append]
  exact run_forEach_tell [] app.router.plugins rfl hn

/-! ### One plugin among them -/

/-- The entries that a plugin has heard of. -/
def heard (name : Text) (app : Application) : List Entry := Plugin.heardIn name app.router.plugins

/-- The attached plugins have different names, and one of them has this name. -/
def Attends (name : Text) (app : Application) : Prop :=
  (app.router.plugins.map Plugin.name).Nodup ∧ ∃ p, app.router.plugin? name = some p

/-- The attached plugins, as the one of this name is concerned. -/
def audience (name : Text) (app : Application) : Table.Audience where
  refusal? e := (app.router.plugins.map Plugin.cls).findSome? (app.refusal? e)
  hearsRefused e := ((app.router.plugins.map Plugin.cls).takeWhile fun cls => !app.refuses e cls).any
    fun cls => cls.code == name

/-- The application with plugins in place of those attached, class by class. -/
def Relists (ps : List Plugin) (app : Application) : Prop :=
  ps.map Plugin.cls = app.router.plugins.map Plugin.cls

theorem audience_withPlugins {ps : List Plugin} (h : Relists ps app) (name : Text) :
    audience name (app.withPlugins ps) = audience name app := by
  unfold audience
  have hc : (app.withPlugins ps).router.plugins.map Plugin.cls =
    app.router.plugins.map Plugin.cls := h
  have hr : (app.withPlugins ps).refuses = app.refuses := rfl
  have hm : (app.withPlugins ps).refusal? = app.refusal? := rfl
  rw [hc, hr, hm]

theorem attends_withPlugins {ps : List Plugin} {name : Text} (h : Relists ps app)
    (ha : app.Attends name) : (app.withPlugins ps).Attends name := by
  obtain ⟨hn, p, hp⟩ := ha
  have hnames : ps.map Plugin.name = app.router.plugins.map Plugin.name := by
    have hc := congrArg (List.map PluginClass.code) h
    rwa [List.map_map, List.map_map] at hc
  have hfind : (ps.map Plugin.cls).find? (fun cls => cls.code == name) = some p.cls := by
    rw [h, List.find?_map]
    exact congrArg (Option.map Plugin.cls) hp
  rw [List.find?_map, Option.map_eq_some_iff] at hfind
  obtain ⟨q, hq, -⟩ := hfind
  exact ⟨hnames ▸ hn, q, hq⟩

theorem told_singleton_of_attends {name : Text} (ha : app.Attends name) (e : Entry) :
    (audience name app).told [e] =
      if ((app.router.plugins.map Plugin.cls).takeWhile fun cls => !app.refuses e cls).any
        fun cls => cls.code == name then [e] else [] := by
  obtain ⟨-, p, hp⟩ := ha
  unfold Table.Audience.told
  split
  · rfl
  · rename_i hr
    have hall : ∀ cls ∈ app.router.plugins.map Plugin.cls, (!app.refuses e cls) = true := by
      intro cls hc
      have hn : app.refusal? e cls = none := List.findSome?_eq_none_iff.1 hr cls hc
      simp [refuses, hn]
    have hm : p ∈ app.router.plugins := List.mem_of_find?_eq_some hp
    have hn : p.name = name := by simpa using List.find?_some hp
    have ht : (app.router.plugins.map Plugin.cls).takeWhile (fun cls => !app.refuses e cls) =
        app.router.plugins.map Plugin.cls := by
      simpa using @List.takeWhile_append_of_pos _ _ _ [] hall
    have hany : (app.router.plugins.map Plugin.cls).any (fun cls => cls.code == name) = true :=
      List.any_eq_true.2 ⟨p.cls, List.mem_map_of_mem hm, beq_iff_eq.2 hn⟩
    rw [ht, if_pos hany]
    rfl

/-- Nothing differs but the controllers that are loaded. -/
def Loads (app app' : Application) : Prop := ∃ cache, app' = cachePart.set cache app

theorem loads_refl (app : Application) : Loads app app := ⟨app.router.controllers, rfl⟩

theorem loads_trans (app app' app'' : Application) (h : Loads app app') (h' : Loads app' app'') :
    Loads app app'' := by
  obtain ⟨_, rfl⟩ := h
  obtain ⟨cache, rfl⟩ := h'
  exact ⟨cache, rfl⟩

/-- Reading the routes file changes nothing. -/
theorem reads_directives : Step.Reads directives := by
  refine Step.reads_read.bind fun app => (Step.reads_ofExcept _).bind fun path => ?_
  refine (Step.reads_ofExcept _).bind fun lines app' => ?_
  rw [Directive.state_ofLines]

/-- What an attempt does before anything is announced is loading controllers. -/
theorem loads_of_compile : Step.Moves Loads recipe.compile := by
  have hread : Step.Moves Loads directives := fun app => reads_directives app ▸ loads_refl app
  have hexpand : ∀ d, Step.Moves Loads (expandLine d) := fun d =>
    (Step.moves_read loads_refl).bind loads_trans fun app app' => ⟨_, rfl⟩
  exact hread.bind loads_trans fun ds => Step.moves_flatMapList loads_refl loads_trans hexpand ds

/-- Having the entries of the table is loading controllers, telling plugins and keeping a table. -/
theorem moves_entries {R : Application → Application → Prop} (hr : ∀ app, R app app)
    (ht : ∀ a b c, R a b → R b c → R a c) (hload : ∀ app cache, R app (cachePart.set cache app))
    (htell : ∀ e, Step.Moves R (tellAll e))
    (hkeep : ∀ app es, R app (tablePart.set (some es) app)) : Step.Moves R entries := by
  have hcompile : Step.Moves R recipe.compile := by
    intro app
    obtain ⟨cache, hs⟩ := loads_of_compile app
    rw [hs]
    exact hload app cache
  have hpublish : ∀ es, Step.Moves R (recipe.publish tablePart es) := by
    intro es
    refine (Step.moves_forEach hr ht htell es).bind ht fun _ => ?_
    have hset : Step.Moves R (Step.modify (tablePart.set (some es))) := fun app => hkeep app es
    exact hset.bind ht fun _ => (Step.moves_log hr _ _).bind ht fun _ => Step.moves_pure hr es
  intro app
  unfold entries
  cases hn : tablePart.get app with
  | some es =>
    rw [Table.run_access_of_built hn]
    exact hr app
  | none =>
    rw [Table.run_access_of_unbuilt hn]
    exact hcompile.bind ht hpublish app

/-- The table of a router is built under each attached plugin. -/
theorem attended_entries (name : Text) :
    Table.Attended tablePart recipe (Attends name) (heard name) (audience name) where
  compile {app} ha := by
    obtain ⟨cache, hs⟩ := loads_of_compile app
    rw [hs]
    exact ⟨ha, rfl, rfl, rfl⟩
  announce {app} e ha := by
    have hr : Relists (Plugin.allTold (app.refuses e) e app.router.plugins) app :=
      Plugin.map_cls_allTold
    have hrun : (recipe.announce e).run app = (tellAll e).run app := rfl
    rw [hrun, run_tellAll ha.1]
    refine ⟨attends_withPlugins hr ha, rfl, audience_withPlugins hr name, ?_, ?_⟩
    · rw [told_singleton_of_attends ha]
      obtain ⟨-, p, hp⟩ := ha
      exact Plugin.heardIn_allTold hp
    · rw [Table.Audience.verdict_singleton]
      unfold telling audience
      dsimp only
      split <;> rename_i hm <;> rw [hm]
  keep t ha := ⟨ha, rfl, rfl⟩

end Application

end Routing
