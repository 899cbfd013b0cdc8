import Routing.Application
import Routing.Proofs.Directive.Lines
import Routing.Proofs.Step.Agrees
import Routing.Proofs.Table.Delivery

/-!
# Tables of applications that look alike

What a table is built from is the files, the options, the controllers loaded so far and the plugins
to be told.  A relation `BuildsAlike` between two applications if it has all of these but the plugins
the same and is kept by what building writes; if telling of an entry agrees under such a relation,
so does having the entries of the table: `agrees_entries`, and `agrees_walk` for a search.
-/

namespace Routing

theorem Directive.agrees_ofLines {σ τ : Type} {R : σ → τ → Prop} {E : Fault → Prop}
    (lines : List Text) : Step.Agrees R E Eq (ofLines lines) (ofLines lines) := by
  intro s t hr
  rcases complete_or_exists_short lines with hc | ⟨before, line, after, rfl, hs, hb⟩
  · rw [run_ofLines_of_complete hc, run_ofLines_of_complete hc]
    exact .inr ⟨hr, .ok rfl⟩
  · rw [run_ofLines_of_short hs hb, run_ofLines_of_short hs hb]
    exact .inr ⟨hr, .error _⟩

namespace Application

/-- Related applications have the same to build a table from, plugins apart, and stay related while
it is built. -/
structure BuildsAlike (R : Application → Application → Prop) : Prop where
  files {app app' : Application} : R app app' → app'.files = app.files
  routesLocation {app app' : Application} :
    R app app' → app'.router.routesLocation = app.router.routesLocation
  expander {app app' : Application} : R app app' → app'.router.expander = app.router.expander
  controllers {app app' : Application} :
    R app app' → app'.router.controllers = app.router.controllers
  table {app app' : Application} : R app app' → app'.router.table = app.router.table
  setControllers {app app' : Application} (cache : ControllerCache) :
    R app app' → R (cachePart.set cache app) (cachePart.set cache app')
  setTable {app app' : Application} (t : Table) :
    R app app' → R (tablePart.set t app) (tablePart.set t app')

variable {R : Application → Application → Prop} {E : Fault → Prop}

/-- For reading its routes file, only the files of an application matter and where it is. -/
theorem agrees_directives (hf : ∀ app app', R app app' → app'.files = app.files)
    (hl : ∀ app app', R app app' → app'.router.routesLocation = app.router.routesLocation) :
    Step.Agrees R E Eq directives directives := by
  refine Step.agrees_read_bind fun app app' hr => ?_
  rw [hf _ _ hr, hl _ _ hr]
  refine (Step.agrees_ofExcept (sameEnd_refl _)).bind ?_
  rintro path _ rfl
  refine (Step.agrees_ofExcept (sameEnd_refl _)).bind ?_
  rintro lines _ rfl
  exact Directive.agrees_ofLines lines

theorem agrees_expandLine (h : BuildsAlike R) (d : Directive) :
    Step.Agrees R E (List.Forall₂ Eq) (expandLine d) (expandLine d) := by
  refine Step.agrees_read_bind fun app app' hr => ?_
  rw [h.files hr, h.expander hr, List.forall₂_eq_eq_eq]
  exact Step.agrees_on _ (fun _ _ hr => h.controllers hr) fun _ _ cache hr =>
    h.setControllers cache hr

/-- Finding out the entries agrees. -/
theorem agrees_compile (h : BuildsAlike R) : Step.Agrees R E Eq recipe.compile recipe.compile := by
  refine (agrees_directives (fun _ _ => h.files) fun _ _ => h.routesLocation).bind ?_
  rintro ds _ rfl
  have hrow := Step.agrees_flatMapList (E := E) (agrees_expandLine h) ds
  rwa [List.forall₂_eq_eq_eq] at hrow

/-- Having the entries agrees if telling of an entry does. -/
theorem agrees_entries (h : BuildsAlike R)
    (ht : ∀ entry, Step.Agrees R E Eq (tellAll entry) (tellAll entry)) :
    Step.Agrees R E Eq entries entries := by
  have hattempt : Step.Agrees R E Eq recipe.entries recipe.entries := by
    refine (agrees_directives (fun _ _ => h.files) fun _ _ => h.routesLocation).bind ?_
    rintro ds _ rfl
    refine (Step.agrees_flatMapList (agrees_expandLine h) ds).bind ?_
    rw [List.forall₂_eq_eq_eq]
    rintro es _ rfl
    refine (Step.agrees_forEach (List.forall₂_same.2 fun entry _ => ht entry)).bind fun _ _ _ => ?_
    exact Step.agrees_pure rfl
  refine Step.agrees_read_bind fun app app' hr => ?_
  have hg : tablePart.get app' = tablePart.get app := h.table hr
  rw [hg]
  cases tablePart.get app with
  | some es => exact Step.agrees_pure rfl
  | none =>
    refine hattempt.bind ?_
    rintro es _ rfl
    refine (Step.agrees_modify fun _ _ hr => h.setTable (some es) hr).bind fun _ _ _ => ?_
    exact (Step.agrees_log _ _ _ _).bind fun _ _ _ => Step.agrees_pure rfl

/-- The same for a search, which passes on some faults as others. -/
theorem agrees_walk (h : BuildsAlike R)
    (ht : ∀ entry, Step.Agrees R E Eq (tellAll entry) (tellAll entry))
    (hE : ∀ fault, E fault → E fault.leavingSearch) : Step.Agrees R E Eq walk walk :=
  (agrees_entries h ht).mapFault hE

end Application

end Routing
