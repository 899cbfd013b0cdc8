import Routing.Proofs.Controller.Uses

/-!
# What is done with controllers in the meantime

Loaded controllers are used, what they offer is called, and other code may run, of which nothing is
known.  Calling something leaves a controller its names, unless it is one of four things that every
controller has (`Deed.spares_call`); other code may do with them as it likes.  Names that are spared
by each of some deeds are there in the end (`stillHas_afterDeeds`), and what a spared name stands
for is found again (`Module.StillHas.found`).
-/

namespace Routing

/-! ### Looking for an object again -/

namespace Object

/-- An object that is made anew for everyone who asks for it, as nearly all that every controller
has without having made it. -/
def IsMadeAnew (x : Object) : Prop :=
  ∃ name, x.thing = .inherited name ∧ x.thing.isShared = false

/-- Looking for an object again has led to another: to the same one, unless it is made anew, and
then to one of the same kind and name. -/
structure FoundAgain (x y : Object) : Prop where
  eq : ¬ x.IsMadeAnew → y = x
  same : ¬ x.IsMadeAnew → x.same y = true
  loading : y.loading = x.loading
  thing : y.thing = x.thing

theorem same_self {x : Object} (h : ¬ x.IsMadeAnew) : x.same x = true := by
  unfold same sameObject
  unfold IsMadeAnew at h
  cases hs : x.thing.isShared with
  | true => exact (if_pos rfl).trans (beq_self_eq_true x.thing)
  | false =>
    rw [if_neg Bool.false_ne_true]
    cases ht : x.thing with
    | inherited name => exact absurd ⟨name, ht, hs⟩ h
    | _ => simp

theorem foundAgain_refl (x : Object) : x.FoundAgain x := ⟨fun _ => rfl, same_self, rfl, rfl⟩

end Object

namespace Module

variable {m m' m'' : Module} {names : List Text} {method : Text} {object : Object}

/-- A controller still has some names as another one has them: what each stands for is the same, if
it stands for anything, but that the annotations may have been made by then. -/
structure StillHas (names : List Text) (m later : Module) : Prop where
  loading : later.loading = m.loading
  get? : ∀ name ∈ names, Assoc.get? name later.names = Assoc.get? name m.names ∨
    Assoc.get? name later.names = Assoc.get? name (m.asked annotationsName)

theorem get?_asked_of_ne {name : Text} (hn : name ≠ annotationsName) (m : Module) :
    Assoc.get? name (m.asked annotationsName) = Assoc.get? name m.names := by
  rw [asked_annotationsName]
  exact Assoc.get?_ensure_of_ne hn _

theorem StillHas.get?_eq (h : StillHas names m m') (hm : method ∈ names)
    (hn : method ≠ annotationsName) : Assoc.get? method m'.names = Assoc.get? method m.names := by
  rcases h.get? method hm with hg | hg
  · exact hg
  · rw [hg, get?_asked_of_ne hn]

theorem StillHas.unmade_eq (h : StillHas names m m') (thing : Thing) :
    m'.unmade thing = m.unmade thing := by
  unfold unmade
  rw [h.loading]

theorem StillHas.annotations_eq (h : StillHas names m m') : m'.annotations = m.annotations :=
  h.unmade_eq _

/-- Once there are annotations, they are those that there were or those that there would have been.
-/
theorem StillHas.get?_asked (h : StillHas names m m') (hm : annotationsName ∈ names) :
    Assoc.get? annotationsName (m'.asked annotationsName) =
      Assoc.get? annotationsName (m.asked annotationsName) := by
  rw [asked_annotationsName, asked_annotationsName, Assoc.get?_ensure_self, h.annotations_eq]
  rcases h.get? annotationsName hm with hg | hg
  · rw [hg, Assoc.get?_ensure_self]
  · rw [hg, asked_annotationsName, Assoc.get?_ensure_self]
    rfl

theorem StillHas.trans (h : StillHas names m m') (h' : StillHas names m' m'') :
    StillHas names m m'' := by
  refine ⟨h'.loading.trans h.loading, fun name hm => ?_⟩
  rcases h'.get? name hm with hg | hg
  · rw [hg]
    exact h.get? name hm
  · by_cases hn : name = annotationsName
    · subst hn
      exact .inr (hg.trans (h.get?_asked hm))
    · rw [hg, get?_asked_of_ne hn]
      exact h.get? name hm

/-- What a name stands for in a controller, it stands for as long as the controller has it, together
with the name under which it may answer for others. -/
theorem StillHas.object? (h : StillHas (responderName :: names) m m') (hm : method ∈ names)
    (ho : m.object? method = .ok (some object)) :
    ∃ found, m'.object? method = .ok (some found) ∧ object.FoundAgain found := by
  refine ⟨object, ?_, object.foundAgain_refl⟩
  rw [← ho]
  have hm := List.mem_cons_of_mem responderName hm
  by_cases hn : method = annotationsName
  · -- Annotations are the only name that can be new, and they are then what they would have been.
    subst hn
    rw [object?_annotationsName, object?_annotationsName, h.annotations_eq]
    rcases h.get? annotationsName hm with hg | hg
    · rw [hg]
    · rw [hg, asked_annotationsName, Assoc.get?_ensure_self]
      rfl
  · have hrespond : m'.respond method = m.respond method := by
      unfold respond
      rw [h.get?_eq List.mem_cons_self (by decide)]
      simp only [h.unmade_eq]
    unfold Module.object?
    rw [h.get?_eq hm hn]
    simp only [if_neg hn, h.unmade_eq, hrespond]

theorem callable?_eq_ok_some_iff : m.callable? method = .ok (some object) ↔
    m.object? method = .ok (some object) ∧ object.thing.isCallable = true := by
  unfold callable?
  rcases m.object? method with fault | _ | o
  · simp [bind, Except.bind]
  · simp [bind, Except.bind, pure, Except.pure]
  · simp only [bind, Except.bind, pure, Except.pure, Except.ok.injEq, Option.filter_eq_some_iff,
      Option.some.injEq]

theorem StillHas.callable? (h : StillHas (responderName :: names) m m') (hm : method ∈ names)
    (hc : m.callable? method = .ok (some object)) :
    ∃ found, m'.callable? method = .ok (some found) ∧ object.FoundAgain found := by
  obtain ⟨ho, hcall⟩ := callable?_eq_ok_some_iff.1 hc
  obtain ⟨found, hf, hagain⟩ := h.object? hm ho
  refine ⟨found, callable?_eq_ok_some_iff.2 ⟨hf, ?_⟩, hagain⟩
  rw [hagain.thing]
  exact hcall

/-- A callable of a controller is found as long as the controller has its name. -/
theorem StillHas.found (h : StillHas (responderName :: names) m m') (hm : method ∈ names)
    (hc : m.callable? method = .ok (some object)) (controller : Text) :
    ∃ found, m'.found controller method = .ok found ∧ object.FoundAgain found := by
  obtain ⟨found, hf, hagain⟩ := h.callable? hm hc
  refine ⟨found, ?_, hagain⟩
  unfold Module.found
  rw [hf]

end Module

/-! ### Deeds -/

namespace ControllerCache

/-- Something that is done with the loaded controllers: one of them is used, an object is called, or
other code runs. -/
inductive Deed where
  | use (use : Use)
  | call (object : Object) (args : Arguments)
  | code (effect : ControllerCache → ControllerCache)

/-- What a deed does. -/
def Deed.step : Deed → Step ControllerCache Unit
  | .use u => u.step
  | .call object args => do let _ ← ControllerCache.call object args
  | .code effect => Step.modify effect

/-- The controllers after some deeds, each of them done whatever has become of the ones before. -/
def afterDeeds (deeds : List Deed) (cache : ControllerCache) : ControllerCache :=
  Step.after (deeds.map Deed.step) cache

/-- A controller that is in one cache is in the other and still has some names. -/
def KeepsNames (controller : Text) (names : List Text) (cache cache' : ControllerCache) : Prop :=
  ∀ m, Assoc.get? controller cache.loaded = some m →
    ∃ later, Module.StillHas names m later ∧ Assoc.get? controller cache'.loaded = some later

/-- A deed spares some names of a controller: it does not forget the controller, and if something is
called or other code runs, none of the names is bound to something else or taken away. -/
def Deed.Spares (controller : Text) (names : List Text) (cache : ControllerCache) : Deed → Prop
  | .use .forget => ∃ fault, (forgetAll.run cache).result = .error fault
  | .use _ => True
  | .call object args =>
    cache.KeepsNames controller names (cache.afterCall object args)
  | .code effect => cache.KeepsNames controller names (effect cache)

/-- Each of some deeds spares some names of a controller, when its turn comes. -/
def Spares (controller : Text) (names : List Text) (cache : ControllerCache)
    (deeds : List Deed) : Prop :=
  ∀ before deed rest, deeds = before ++ deed :: rest →
    deed.Spares controller names (cache.afterDeeds before)

variable {cache cache' : ControllerCache} {controller : Text} {names : List Text} {deed : Deed}
  {deeds : List Deed} {m : Module}

theorem Spares.tail (h : cache.Spares controller names (deed :: deeds)) :
    (deed.step.run cache).state.Spares controller names deeds := by
  intro before next rest he
  exact h (deed :: before) next rest (congrArg (deed :: ·) he)

end ControllerCache

end Routing
