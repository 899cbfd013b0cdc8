import Routing.Step
import Routing.Text.Blank

/-!
# Directives

A directive is one route as it is written in a routes file: a verb, a path and a target on a line of
their own, between runs of blanks.  Empty
lines, and lines with `#` in the first column, say nothing; one carriage return at the end of a line
belongs to the line end.  `physicalLines` is the text as lines, `numbered` gives each line that says
something its place, and `readFields` takes its fields.
-/

namespace Routing

/-- A route as it was written, with the number of its line. -/
structure Directive where
  number : Nat
  verb : Text
  path : Text
  target : Text
  deriving DecidableEq

namespace Directive

/-- Whether a line says nothing: it is empty or a comment. -/
def saysNothing : Text → Bool
  | [] => true
  | c :: _ => c == '#'

/-- A line less one carriage return at its end. -/
def dropReturn (line : Text) : Text :=
  if line.getLast? = some '\r' then line.dropLast else line

/-- The lines of a text, without their ends. -/
def physicalLines (text : Text) : List Text := (Text.splitAt '\n' text).map dropReturn

/-- Each line with its number, from `first` on. -/
def numberFrom : (first : Nat) → List Text → List (Nat × Text)
  | _, [] => []
  | n, line :: lines => (n, line) :: numberFrom (n + 1) lines

/-- The lines that say something, each with its number among all of them. -/
def numbered (lines : List Text) : List (Nat × Text) :=
  (numberFrom 1 lines).filter fun p => !saysNothing p.2

/-- The lines of a text that say something. -/
def kept (text : Text) : List Text := (numbered (physicalLines text)).map Prod.snd

/-- The maximal blank-free runs of a line. -/
def fields (line : Text) : List Text := (Text.splitWhen Text.isBlank line).filter (!·.isEmpty)

/-- How a message refers to a line: by its number, or by the line where it has none or zero. -/
def placeOf (line : Text) : Option Int → Text
  | none => line
  | some n => if n = 0 then line else Text.ofInt n

/-- The verb, path and target of a line.  Fields after the third are reported and left out. -/
def readFields {σ : Type} (line : Text) (number : Option Int) : Step σ (Text × Text × Text) :=
  match fields line with
  | [verb, path, target] => pure (verb, path, target)
  | verb :: path :: target :: extra => do
    Step.log .warning ("Ignoring extra fields ".toList ++ Text.quotedList extra ++
      " in route line ".toList ++ placeOf line number)
    pure (verb, path, target)
  | _ => Step.fail (.malformedLine line "expected '<VERB> <path> <controller>.<method>'" number)

/-- The directive on a numbered line. -/
def ofLine {σ : Type} (p : Nat × Text) : Step σ Directive := do
  let (verb, path, target) ← readFields p.2 (some p.1)
  pure ⟨p.1, verb, path, target⟩

/-- The directives on some lines, which are numbered among all the lines given. -/
def ofLines {σ : Type} (lines : List Text) : Step σ (List Directive) :=
  Step.mapList ofLine (numbered lines)

/-- The directives of a whole text. -/
def ofText {σ : Type} (text : Text) : Step σ (List Directive) := ofLines (physicalLines text)

theorem map_snd_numberFrom (n : Nat) (lines : List Text) :
    (numberFrom n lines).map Prod.snd = lines := by
  induction lines generalizing n with
  | nil => rfl
  | cons l ls ih => simp [numberFrom, ih]

/-- The kept lines are the physical lines that say something, in order. -/
theorem kept_eq_filter (text : Text) :
    kept text = (physicalLines text).filter fun line => !saysNothing line := by
  conv => rhs; rw [← map_snd_numberFrom 1 (physicalLines text), List.filter_map]
  rfl

end Directive

end Routing
