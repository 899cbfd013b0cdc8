import Routing.Proofs.Expansion.Again
import Routing.Proofs.Plugin.Passing
import Routing.Proofs.Table.Alike
import Routing.Proofs.Table.Compilation

/-!
# Attempts that are made again

An attempt at a table that has failed can be made again, and then it fails again in the same way: the
controllers that it has loaded are the only thing that it leaves, and they make no difference
(`ends_compile_again`).  So there is only one table that a router can come to with the files that it
has.  `Descends` says that an application has come from another by nothing that could change it, and
having the entries keeps that (`Descends.entries`).
-/

namespace Routing.Application

/-- Finding out the entries a second time ends as the first time did, and loads nothing. -/
theorem ends_compile_again (app : Application) : ∃ cache r,
    Step.Ends recipe.compile app (app.withControllers cache) r ∧
      Step.Ends recipe.compile (app.withControllers cache) (app.withControllers cache) r := by
  have hd : Step.Ends directives app app (directives.run app).result :=
    ⟨_, Outcome.ext rfl (reads_directives app).symm rfl⟩
  cases hr : (directives.run app).result with
  | error fault =>
    rw [hr] at hd
    have hc : Step.Ends recipe.compile app app (.error fault) := hd.bind_of_fault _
    exact ⟨app.router.controllers, .error fault, hc, hc⟩
  | ok ds =>
    rw [hr] at hd
    obtain ⟨cache, r, -, hfirst, hagain⟩ :=
      app.router.expander.ends_mapList_again app.files ds app.router.controllers
    have hd' : Step.Ends directives (app.withControllers cache) (app.withControllers cache)
        (.ok ds) := by
      have hsame := agrees_directives (E := fun _ => False)
        (R := fun a a' => a = app ∧ a' = app.withControllers cache)
        (by rintro _ _ ⟨rfl, rfl⟩; rfl) (by rintro _ _ ⟨rfl, rfl⟩; rfl)
      rcases hsame app _ ⟨rfl, rfl⟩ with ⟨_, _, hf⟩ | ⟨-, he⟩
      · exact hf.elim
      · rw [hr] at he
        exact ⟨_, Outcome.ext rfl (reads_directives _).symm he.eq.symm⟩
    have hrow := ends_mapList_expandLine app hfirst
    have hrow' := ends_mapList_expandLine app hagain
    cases r with
    | ok bss =>
      exact ⟨cache, .ok bss.flatten, hd.bind (hrow.bind (Step.ends_pure _ _)),
        hd'.bind (hrow'.bind (Step.ends_pure _ _))⟩
    | error fault =>
      exact ⟨cache, .error fault, hd.bind (hrow.bind_of_fault _), hd'.bind (hrow'.bind_of_fault _)⟩

/-! ### One table -/

/-- Two applications have the same to find out entries from. -/
structure SameSource (app app' : Application) : Prop where
  files : app'.files = app.files
  options : app'.router.options = app.router.options
  root : app'.router.root = app.router.root
  controllers : app'.router.controllers = app.router.controllers
  table : app'.router.table = app.router.table

theorem buildsAlike_sameSource : BuildsAlike SameSource where
  files h := h.files
  routesLocation h := by
    unfold Router.routesLocation
    rw [h.root, h.options]
  expander h := by
    unfold Router.expander
    rw [h.root, h.options]
  controllers h := h.controllers
  table h := h.table
  setControllers _ h := ⟨h.files, h.options, h.root, rfl, h.table⟩
  setTable _ h := ⟨h.files, h.options, h.root, h.controllers, rfl⟩

theorem SameSource.compile {app app' : Application} (h : SameSource app app') :
    SameSource (recipe.compile.run app).state (recipe.compile.run app').state ∧
      (recipe.compile.run app').result = (recipe.compile.run app).result := by
  rcases agrees_compile (E := fun _ => False) buildsAlike_sameSource app app' h with
    ⟨_, _, hf⟩ | ⟨hs, he⟩
  · exact hf.elim
  · exact ⟨hs, he.eq.symm⟩

/-- An application has come from another that had no table: if it has one, it is what an attempt of
the other comes to; if not, it has the controllers of the other, or those that an attempt leaves, and
its hosts. -/
structure Descends (base app : Application) : Prop where
  files : app.files = base.files
  options : app.router.options = base.router.options
  root : app.router.root = base.router.root
  built (es : List Entry) :
    app.router.table = some es → (recipe.compile.run base).result = .ok es
  unbuilt : app.router.table = none → app.router.controllers = base.router.controllers ∨
    app.router.controllers = (recipe.compile.run base).state.router.controllers
  hosts : app.router.table = none → app.hosts = base.hosts

variable {base app app' : Application}

theorem descends_refl (hn : base.router.table = none) : Descends base base :=
  ⟨rfl, rfl, rfl, fun _ he => (nomatch hn.symm.trans he), fun _ => .inl rfl, fun _ => rfl⟩

/-- As long as there is no table, an attempt comes to the same. -/
theorem Descends.compile (h : Descends base app) (hb : base.router.table = none)
    (hn : app.router.table = none) :
    (recipe.compile.run app).result = (recipe.compile.run base).result ∧
      (recipe.compile.run app).state.router.controllers =
        (recipe.compile.run base).state.router.controllers := by
  rcases h.unbuilt hn with hc | hc
  · have hsame : SameSource base app := ⟨h.files, h.options, h.root, hc, hn.trans hb.symm⟩
    exact ⟨hsame.compile.2, hsame.compile.1.controllers⟩
  · obtain ⟨cache, r, hfirst, hagain⟩ := ends_compile_again base
    rw [hfirst.state] at hc ⊢
    have hsame : SameSource (base.withControllers cache) app :=
      ⟨h.files, h.options, h.root, hc, hn.trans hb.symm⟩
    have hcompile := hsame.compile
    rw [hagain.state, hagain.result] at hcompile
    exact ⟨hcompile.2.trans hfirst.result.symm, hcompile.1.controllers⟩

/-- Announcing entries and keeping them does not change what they were found out from. -/
theorem Descends.publish {es : List Entry} (h : Descends base app)
    (hn : app.router.table = none) (he : (recipe.compile.run base).result = .ok es) :
    Descends base ((recipe.publish tablePart es).run app).state := by
  have htold : KeepsSinks app ((Step.forEach tellAll es).run app).state :=
    Step.moves_forEach keepsSinks_refl keepsSinks_trans keepsSinks_of_tellAll es app
  obtain ⟨router, hs, plugins, rfl, -⟩ := htold
  have hs : ((Step.forEach recipe.announce es).run app).state =
    { app with router := { app.router with plugins } } := hs
  unfold Table.Recipe.publish
  cases hr : ((Step.forEach recipe.announce es).run app).result with
  | error fault =>
    rw [Step.run_bind_of_fault hr, hs]
    exact ⟨h.files, h.options, h.root, fun es' he' => (nomatch hn.symm.trans he'),
      fun _ => h.unbuilt hn, fun _ => h.hosts hn⟩
  | ok u =>
    rw [Step.run_bind_of_result hr, hs]
    refine ⟨h.files, h.options, h.root, fun es' he' => ?_, fun hn' => (nomatch hn'),
      fun hn' => nomatch hn'⟩
    obtain rfl := Option.some.inj he'
    exact he

/-- Having the entries changes nothing of what they are found out from. -/
theorem Descends.entries (h : Descends base app) (hb : base.router.table = none) :
    Descends base (entries.run app).state := by
  unfold Application.entries
  cases hn : tablePart.get app with
  | some es => rwa [Table.run_access_of_built hn]
  | none =>
    obtain ⟨hresult, hcontrollers⟩ := h.compile hb hn
    have hcompiled : Descends base (recipe.compile.run app).state := by
      obtain ⟨cache, hs⟩ := loads_of_compile app
      rw [hs] at hcontrollers ⊢
      exact ⟨h.files, h.options, h.root, h.built, fun _ => .inr hcontrollers, h.hosts⟩
    have hunbuilt : (recipe.compile.run app).state.router.table = none := by
      obtain ⟨cache, hs⟩ := loads_of_compile app
      rw [hs]
      exact hn
    rw [Table.run_access_of_unbuilt hn]
    cases hr : (recipe.compile.run app).result with
    | error fault =>
      rw [Step.run_bind_of_fault hr]
      exact hcompiled
    | ok es =>
      rw [Step.run_bind_of_result hr]
      exact hcompiled.publish hunbuilt (hresult.symm.trans hr)

/-- Whoever has the entries has built the table. -/
theorem table_of_entries {es : List Entry} (h : (entries.run app).result = .ok es) :
    (entries.run app).state.router.table = some es := by
  unfold Application.entries at h ⊢
  cases hn : tablePart.get app with
  | some es' =>
    rw [Table.run_access_of_built hn] at h ⊢
    obtain rfl := Except.ok.inj h
    exact hn
  | none =>
    rw [Table.run_access_of_unbuilt hn] at h ⊢
    cases hr : (recipe.compile.run app).result with
    | error fault =>
      rw [Step.run_bind_of_fault hr] at h
      exact nomatch h
    | ok es' =>
      rw [Step.run_bind_of_result hr] at h ⊢
      unfold Table.Recipe.publish at h ⊢
      cases ht : ((Step.forEach recipe.announce es').run (recipe.compile.run app).state).result with
      | error fault =>
        rw [Step.run_bind_of_fault ht] at h
        exact nomatch h
      | ok u =>
        rw [Step.run_bind_of_result ht] at h ⊢
        obtain rfl := Except.ok.inj h
        rfl

end Routing.Application
