import Mathlib.Logic.Relation
import Routing.Proofs.Controller.Faults

/-!
# Kinds of faults

The kinds of faults that a controller's own code can raise stand one below another, with one kind
above all.  `Kind.down` collects what stands below a kind in one pass over the table of kinds, and
it has found everything if nothing in the table leads out of what it has found (`isA_iff_mem_down`).

A controller cannot be loaded at all if the kind of its fault stands below one of three, and
otherwise its fault is passed on as it is: `passOn_cases`.
-/

namespace Routing

namespace Kind

/-- Kinds with those right below them, from above to below.  Another name of a kind counts as a kind
right below it. -/
def table : List (String × List String) :=
  [("BaseException", ["Exception", "GeneratorExit", "KeyboardInterrupt", "SystemExit"]),
    ("Exception", ["ArithmeticError", "AssertionError", "AttributeError", "BufferError", "EOFError",
      "ImportError", "LookupError", "MemoryError", "NameError", "OSError", "ReferenceError",
      "RuntimeError", "StopAsyncIteration", "StopIteration", "SyntaxError", "SystemError",
      "TypeError", "ValueError", "Warning"]),
    ("ArithmeticError", ["FloatingPointError", "OverflowError", "ZeroDivisionError"]),
    ("ImportError", ["ModuleNotFoundError"]),
    ("LookupError", ["IndexError", "KeyError"]),
    ("NameError", ["UnboundLocalError"]),
    ("OSError", ["IOError", "EnvironmentError", "BlockingIOError", "ChildProcessError",
      "ConnectionError", "FileExistsError", "FileNotFoundError", "InterruptedError",
      "IsADirectoryError", "NotADirectoryError", "PermissionError", "ProcessLookupError",
      "TimeoutError"]),
    ("ConnectionError", ["BrokenPipeError", "ConnectionAbortedError", "ConnectionRefusedError",
      "ConnectionResetError"]),
    ("RuntimeError", ["NotImplementedError", "RecursionError"]),
    ("SyntaxError", ["IndentationError"]),
    ("IndentationError", ["TabError"]),
    ("ValueError", ["UnicodeError"]),
    ("Warning", ["BytesWarning", "DeprecationWarning", "EncodingWarning", "FutureWarning",
      "ImportWarning", "PendingDeprecationWarning", "ResourceWarning", "RuntimeWarning",
      "SyntaxWarning", "UnicodeWarning", "UserWarning"])]

/-- One kind stands right below another. -/
def IsRightBelow (kind other : String) : Prop := ∃ kinds, (other, kinds) ∈ table ∧ kind ∈ kinds

/-- A kind is another one or stands below it. -/
abbrev IsA : String → String → Prop := Relation.ReflTransGen IsRightBelow

/-- Known kinds, and those that a part of the table has below them. -/
def spread (known : List String) (part : List (String × List String)) : List String :=
  part.foldl (fun known p => if p.1 ∈ known then known ++ p.2 else known) known

/-- A kind and all that one pass over the table finds below it. -/
def down (root : String) : List String := spread [root] table

variable {kind root : String}

theorem isA_of_mem_spread {known : List String} {part : List (String × List String)}
    (hp : ∀ p ∈ part, p ∈ table) (hk : ∀ k ∈ known, IsA k root) :
    ∀ k ∈ spread known part, IsA k root := by
  induction part generalizing known with
  | nil => exact hk
  | cons p part ih =>
    obtain ⟨hm, hp⟩ := List.forall_mem_cons.1 hp
    refine ih hp ?_
    dsimp only
    split
    · rename_i hin
      intro k hmem
      rcases List.mem_append.1 hmem with hmem | hmem
      · exact hk k hmem
      · exact .head ⟨p.2, hm, hmem⟩ (hk p.1 hin)
    · exact hk

theorem mem_spread {known : List String} (part : List (String × List String)) (h : kind ∈ known) :
    kind ∈ spread known part := by
  induction part generalizing known with
  | nil => exact h
  | cons p part ih =>
    refine ih ?_
    dsimp only
    split
    · exact List.mem_append_left _ h
    · exact h

/-- Nothing in the table leads out of what the pass has found below a kind. -/
def IsClosed (root : String) : Prop := ∀ p ∈ table, p.1 ∈ down root → ∀ k ∈ p.2, k ∈ down root

instance : Decidable (IsClosed root) := inferInstanceAs (Decidable (∀ p ∈ table, _))

theorem isA_of_mem_down (h : kind ∈ down root) : IsA kind root :=
  isA_of_mem_spread (fun _ => id) (fun _ hk => List.mem_singleton.1 hk ▸ .refl) kind h

/-- The pass finds the kinds below a kind, if nothing leads out of what it finds. -/
theorem isA_iff_mem_down (hc : IsClosed root) : IsA kind root ↔ kind ∈ down root := by
  refine ⟨fun h => ?_, isA_of_mem_down⟩
  induction h using Relation.ReflTransGen.head_induction_on with
  | refl => exact mem_spread table (List.mem_singleton.2 rfl)
  | head hb _ ih =>
    obtain ⟨kinds, hm, hk⟩ := hb
    exact hc _ hm ih _ hk

theorem isClosed_importError : IsClosed "ImportError" := by decide +kernel

theorem isClosed_osError : IsClosed "OSError" := by decide +kernel

theorem isClosed_syntaxError : IsClosed "SyntaxError" := by decide +kernel

/-- The kinds whose faults mean that a controller cannot be loaded at all. -/
def IsUnloadable (kind : String) : Prop :=
  IsA kind "ImportError" ∨ IsA kind "OSError" ∨ IsA kind "SyntaxError"

theorem isUnloadable_iff_mem :
    IsUnloadable kind ↔ kind ∈ down "ImportError" ++ down "OSError" ++ down "SyntaxError" := by
  unfold IsUnloadable
  rw [isA_iff_mem_down isClosed_importError, isA_iff_mem_down isClosed_osError,
    isA_iff_mem_down isClosed_syntaxError, List.mem_append, List.mem_append, or_assoc]

end Kind

open Kind

namespace Raised

/-- Some names are those of the kinds below a kind, if they are what the pass finds. -/
theorem mem_iff_isA {names : List Text} {root : String} (hc : IsClosed root)
    (hn : ∀ kind, kind ∈ names.map String.ofList ↔ kind ∈ down root) {name : Text} :
    name ∈ names ↔ IsA (String.ofList name) root := by
  rw [isA_iff_mem_down hc, ← hn]
  refine ⟨List.mem_map_of_mem, fun h => ?_⟩
  obtain ⟨other, hm, he⟩ := List.mem_map.1 h
  rwa [← String.ofList_inj.1 he]

theorem mem_loadingKinds_iff {name : Text} :
    name ∈ loadingKinds ↔ IsA (String.ofList name) "ImportError" := by
  have h : (down "ImportError").Perm (loadingKinds.map String.ofList) := by
    simp only [loadingKinds, List.map, String.ofList_toList]
    decide +kernel
  exact mem_iff_isA isClosed_importError fun _ => h.symm.mem_iff

theorem mem_systemKinds_iff {name : Text} :
    name ∈ systemKinds ↔ IsA (String.ofList name) "OSError" := by
  have h : (down "OSError").Perm (systemKinds.map String.ofList) := by
    simp only [systemKinds, List.map, String.ofList_toList]
    decide +kernel
  exact mem_iff_isA isClosed_osError fun _ => h.symm.mem_iff

theorem mem_sourceKinds_iff {name : Text} :
    name ∈ sourceKinds ↔ IsA (String.ofList name) "SyntaxError" := by
  have h : (down "SyntaxError").Perm (sourceKinds.map String.ofList) := by
    simp only [sourceKinds, List.map, String.ofList_toList]
    decide +kernel
  exact mem_iff_isA isClosed_syntaxError fun _ => h.symm.mem_iff

/-- What a controller raised means that it cannot be loaded, if its kind stands below one of three.
-/
theorem isSome_cause?_iff {raised : Raised} :
    raised.cause?.isSome = true ↔ IsUnloadable (String.ofList raised.kind) := by
  unfold cause? IsUnloadable
  rw [← mem_loadingKinds_iff, ← mem_systemKinds_iff, ← mem_sourceKinds_iff]
  repeat' split
  all_goals simp_all

end Raised

/-! ### What a loading makes of a controller's own faults -/

/-- The kind of a fault of a controller's own code. -/
def Fault.kind? : Fault → Option String
  | .controllerRaised raised => some (String.ofList raised.kind)
  | .handlerRaised _ => some "ValueError"
  | .sourceHoldsNul => some "ValueError"
  | .badArguments => some "TypeError"
  | .undefinedName => some "NameError"
  | _ => none

namespace ControllerCache

/-- A fault of a controller's own code means that there is no such controller, if its kind is one of
those that say so, and is passed on as it is otherwise. -/
theorem passOn_cases {fault : Fault} (h : fault.IsOfBody) (name : Text) (p : Path) :
    ∃ kind, fault.kind? = some kind ∧
      (IsUnloadable kind → ∃ cause,
        passOn name p fault = .missingController name p.text (some cause)) ∧
      (¬ IsUnloadable kind → passOn name p fault = fault) := by
  have value : ¬ IsUnloadable "ValueError" := mt isUnloadable_iff_mem.1 (by decide +kernel)
  have type : ¬ IsUnloadable "TypeError" := mt isUnloadable_iff_mem.1 (by decide +kernel)
  have undefined : ¬ IsUnloadable "NameError" := mt isUnloadable_iff_mem.1 (by decide +kernel)
  cases h with
  | controllerRaised raised =>
    refine ⟨_, rfl, fun hu => ?_, fun hu => ?_⟩
    · obtain ⟨cause, hc⟩ := Option.isSome_iff_exists.1 (Raised.isSome_cause?_iff.2 hu)
      exact ⟨cause, by simp only [passOn, hc]⟩
    · have hc : raised.cause? = none := by
        rw [← Option.not_isSome_iff_eq_none, Raised.isSome_cause?_iff]
        exact hu
      simp only [passOn, hc]
  | handlerRaised message => exact ⟨_, rfl, fun hu => absurd hu value, fun _ => rfl⟩
  | badArguments => exact ⟨_, rfl, fun hu => absurd hu type, fun _ => rfl⟩
  | undefinedName => exact ⟨_, rfl, fun hu => absurd hu undefined, fun _ => rfl⟩
  | sourceHoldsNul => exact ⟨_, rfl, fun hu => absurd hu value, fun _ => rfl⟩

end ControllerCache

end Routing
