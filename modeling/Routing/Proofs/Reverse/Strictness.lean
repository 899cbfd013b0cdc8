import Routing.Proofs.Binding.Strictness
import Routing.Proofs.Reverse.Search
import Routing.Proofs.Step.Ends
import Routing.Proofs.Table.Alike

/-!
# What strictness changes

Strict binding gives what binding that is not strict gives, or refuses a value that would have been
passed over; the same goes for the URL of an action, whether or not the table has been built, since
strictness has no part in building it.  Main statement: `strict_only_refuses`.
-/

namespace Routing

theorem Reverse.search_strict_cases (params : List Value) (last : Fault) (es : List Endpoint) :
    search true params last es = search false params last es ∨
      ∃ key lost, search true params last es = .error (.unplaceableValue key lost) := by
  induction es generalizing last with
  | nil => exact .inl rfl
  | cons e es ih =>
    obtain ⟨b, hb⟩ := Binding.ofList_lenient e.pattern params
    rcases Binding.ofList_strict_cases e.pattern params with hs | ⟨key, lost, hs⟩
    · rw [hb] at hs
      cases b with
      | complete url =>
        exact .inl (by rw [search_cons_of_complete hs, search_cons_of_complete hb])
      | short placeholder url =>
        rw [search_cons_of_short hs, search_cons_of_short hb]
        exact ih _
    · exact .inr ⟨key, lost, search_cons_of_error hs last es⟩

namespace Application

/-- The application with another value for the option that says whether binding is strict. -/
def withStrictness (v : Value) (app : Application) : Application :=
  { app with router := { app.router with
      options := { app.router.options with strictValues := v } } }

/-- A strict router and the same with another value for strictness. -/
def IsStrictBeside (v : Value) (app app' : Application) : Prop :=
  app.router.options.isStrict = true ∧ app' = app.withStrictness v

theorem buildsAlike_isStrictBeside (v : Value) : BuildsAlike (IsStrictBeside v) where
  files := by rintro app _ ⟨-, rfl⟩; rfl
  routesLocation := by rintro app _ ⟨-, rfl⟩; rfl
  expander := by rintro app _ ⟨-, rfl⟩; rfl
  controllers := by rintro app _ ⟨-, rfl⟩; rfl
  table := by rintro app _ ⟨-, rfl⟩; rfl
  setControllers := by rintro app _ cache ⟨hs, rfl⟩; exact ⟨hs, rfl⟩
  setTable := by rintro app _ t ⟨hs, rfl⟩; exact ⟨hs, rfl⟩

/-- No fault is left out of account. -/
abbrev NoFault (_ : Fault) : Prop := False

theorem agrees_tellAll_isStrictBeside (v : Value) (entry : Entry) :
    Step.Agrees (IsStrictBeside v) NoFault Eq (tellAll entry) (tellAll entry) := by
  refine Step.agrees_read_bind ?_
  rintro app _ ⟨-, rfl⟩
  refine Step.agrees_forEach (List.forall₂_same.2 fun p _ => Step.agrees_read_bind ?_)
  rintro app _ ⟨-, rfl⟩
  dsimp only [withStrictness]
  have hp : ∀ name, Router.plugin? { app.router with
      options := { app.router.options with strictValues := v } } name = app.router.plugin? name :=
    fun _ => rfl
  rw [hp]
  cases app.router.plugin? p.name with
  | none => exact Step.agrees_pure rfl
  | some q =>
    refine (Step.agrees_ofExcept (sameEnd_refl _)).bind ?_
    rintro q' _ rfl
    refine Step.agrees_modify ?_
    rintro app _ ⟨hs, rfl⟩
    exact ⟨hs, rfl⟩

/-- The URL of an action on a strict router is that on one that is not strict, unless a value is
refused. -/
theorem urlOf_strict_cases {app : Application} {v : Value}
    (hs : app.router.options.isStrict = true) (hv : v.isTrue = false) (action : Text)
    (params : List Value) :
    ((urlOf action params).run app).result =
        ((urlOf action params).run (app.withStrictness v)).result ∨
      ∃ key lost, ((urlOf action params).run app).result = .error (.unplaceableValue key lost) := by
  have hw := agrees_walk (buildsAlike_isStrictBeside v) (agrees_tellAll_isStrictBeside v)
    (fun _ h => h) app (app.withStrictness v) ⟨hs, rfl⟩
  rcases hw with ⟨_, _, h⟩ | ⟨⟨hs', he⟩, hr⟩
  · exact h.elim
  · cases hx : (walk.run app).result with
    | error fault =>
      rw [hx] at hr
      unfold urlOf
      rw [Step.run_bind_of_fault hx, Step.run_bind_of_fault hr.eq_error]
      exact .inl rfl
    | ok es =>
      rw [hx] at hr
      have hy : (walk.run (app.withStrictness v)).result = .ok es := hr.eq.symm
      have hv' : (walk.run (app.withStrictness v)).state.router.options.isStrict = false := by
        rw [he]
        exact hv
      unfold urlOf
      rw [Step.run_bind_of_result hx, Step.run_bind_of_result hy]
      simp only [Step.run_bind, Step.run_read, Outcome.andThen_ok, hs', hv']
      rw [(Step.ends_ofExcept _ _).result, (Step.ends_ofExcept _ _).result]
      exact Reverse.search_strict_cases params _ _

end Application

namespace Binding

/-- Strict binding adds nothing but refusals.  Whatever it gives, binding that is not strict gives;
it refuses exactly when an argument, come to with the URL that binding that is not strict has made
so far, would lose something: an object a field, another value itself while a placeholder is left.
What it refuses is the first loss.  And so the URL of an action on a strict router is the same as on
one that is not strict, unless a value is refused. -/
theorem strict_only_refuses (pattern : Text) (args : Value) :
    (∀ b, ofArgs true pattern args = .ok b → ofArgs false pattern args = .ok b) ∧
    ((∃ fault, ofArgs true pattern args = .error fault) ↔ ∃ before v after url,
      arguments args = before ++ v :: after ∧ consumeAll false pattern before = .ok url ∧
        ((∃ fields, v.fields? = some fields ∧ ∃ p ∈ fields, p.2.isPlain = false) ∨
          v.fields? = none ∧ v ≠ .null ∧ v.isPlain = false ∧ Pattern.names url ≠ [])) ∧
    (∀ fault, ofArgs true pattern args = .error fault ↔ ∃ before v after url key lost,
      arguments args = before ++ v :: after ∧ consumeAll false pattern before = .ok url ∧
        LosesNothing pattern before ∧ FirstLoss url v key lost ∧
          fault = .unplaceableValue key lost) ∧
    ∀ (app : Application) (v : Value) (action : Text) (params : List Value),
      app.router.options.isStrict = true → v.isTrue = false →
        ((Application.urlOf action params).run app).result =
            ((Application.urlOf action params).run (app.withStrictness v)).result ∨
          ∃ key lost, ((Application.urlOf action params).run app).result =
            .error (.unplaceableValue key lost) := by
  refine ⟨fun b hb => ?_, ?_, fun fault => ofList_strict_eq_error_iff,
    fun app v action params hs hv => Application.urlOf_strict_cases hs hv action params⟩
  · rcases ofList_strict_cases pattern (arguments args) with hs | ⟨key, lost, hs⟩
    · exact hs.symm.trans hb
    · exact nomatch hs.symm.trans hb
  · simp only [← exists_firstLoss_iff]
    exact exists_ofList_strict_eq_error_iff

/-- A strict router whose table has one page. -/
def strictPage : Application :=
  Application.withStrictness (.bool true)
    { Application.withRoutes [] [] with
      router.table := some [.endpoint ⟨.get, "/:a", "c", "m"⟩] }

/-- A double-ended queue says itself how it is written and is substituted; a list is refused. -/
theorem strict_only_refuses_queue :
    let queue : Value := .made ⟨"deque", "deque([1])", "deque([1])", true, false⟩
    ofArgs true "/:a" queue = .ok (.complete "/deque([1])") ∧
    ofArgs false "/:a" queue = .ok (.complete "/deque([1])") ∧
    (∃ fault, ofArgs true "/:a" (.collection .list [.collection .list []]) = .error fault) ∧
    (((Application.urlOf "c.m" [queue]).run strictPage).result =
        ((Application.urlOf "c.m" [queue]).run (strictPage.withStrictness (.bool false))).result ∨
      ∃ key lost, ((Application.urlOf "c.m" [queue]).run strictPage).result =
        .error (.unplaceableValue key lost)) := by
  intro queue
  have hs : ofArgs true "/:a" queue = .ok (.complete "/deque([1])") := by decide +kernel
  obtain ⟨hkept, -, -, hurl⟩ := strict_only_refuses "/:a" queue
  obtain ⟨-, hrefused, -, -⟩ :=
    strict_only_refuses "/:a" (.collection .list [.collection .list []])
  refine ⟨hs, hkept _ hs, hrefused.2 ?_, hurl strictPage (.bool false) "c.m" [queue] rfl rfl⟩
  exact ⟨[], .collection .list [], [], "/:a", rfl, rfl, .inr ⟨rfl, nofun, rfl, by decide +kernel⟩⟩

end Binding

end Routing
