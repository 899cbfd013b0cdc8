import Routing.Text
import Routing.Text.Word

/-!
# Patterns

A pattern is any text; a placeholder in it is a colon and the word characters after it, at least
one.  A colon with none after it stands for itself.  Main fact: `first?_eq_none_iff` (a pattern is
complete when it has no names).
-/

namespace Routing.Pattern

/-- A placeholder in its place. -/
structure Hole where
  before : Text
  name : Text
  after : Text
  deriving DecidableEq

/-- The first placeholder of a pattern. -/
def first? : Text → Option Hole
  | [] => none
  | c :: cs =>
    if c = ':' ∧ cs.takeWhile Text.isWord ≠ [] then
      some ⟨[], cs.takeWhile Text.isWord, cs.dropWhile Text.isWord⟩
    else (first? cs).map fun hole => { hole with before := c :: hole.before }

/-- The names of the placeholders of a pattern, from left to right. -/
def names : Text → List Text
  | [] => []
  | c :: cs =>
    if c = ':' ∧ cs.takeWhile Text.isWord ≠ [] then cs.takeWhile Text.isWord :: names cs
    else names cs

/-- A name as it stands in a pattern. -/
def placeholder (name : Text) : Text := ':' :: name

/-- Whether a text begins with a word character. -/
def startsWithWord : Text → Bool
  | [] => false
  | c :: _ => Text.isWord c

/-- Puts a text in place of the first `:name` that no word character follows. -/
def fill (name value : Text) : Text → Text
  | [] => []
  | c :: cs =>
    match Text.dropPrefix? (placeholder name) (c :: cs) with
    | some rest => if startsWithWord rest then c :: fill name value cs else value ++ rest
    | none => c :: fill name value cs

/-- Puts a text in place of the first placeholder, if there is one. -/
def fillFirst (value : Text) (pattern : Text) : Text :=
  match first? pattern with
  | none => pattern
  | some hole => hole.before ++ value ++ hole.after

theorem startsWithWord_dropWhile (s : Text) :
    startsWithWord (s.dropWhile Text.isWord) = false := by
  induction s with
  | nil => rfl
  | cons c cs ih =>
    by_cases h : Text.isWord c = true
    · simpa [h] using ih
    · simp [h, startsWithWord]

theorem isWord_of_mem_takeWhile {s : Text} {c : Char} (h : c ∈ s.takeWhile Text.isWord) :
    Text.isWord c = true :=
  List.all_eq_true.1 List.all_takeWhile c h

theorem first?_eq_none_iff {pattern : Text} : first? pattern = none ↔ names pattern = [] := by
  induction pattern with
  | nil => simp [first?, names]
  | cons c cs ih =>
    unfold first? names
    split <;> simp [ih]

theorem name_of_first?_eq_head {pattern : Text} :
    (first? pattern).map Hole.name = (names pattern).head? := by
  induction pattern with
  | nil => rfl
  | cons c cs ih =>
    unfold first? names
    split
    · rfl
    · rw [← ih]; cases first? cs <;> rfl

end Routing.Pattern
