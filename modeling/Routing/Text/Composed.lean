import Routing.Text.Composed.Forms
import Routing.Text.Composed.Marks
import Routing.Text.Composed.Pairs
import Routing.Text.Name

/-!
# The one spelling of a name

A name can be spelled in several ways that count as one: with characters that are only forms of
others, with a mark in place of the character it makes with the one before, with marks in another
order.  `unified` takes a name apart as far as it goes, puts the marks into their order, and then
each together with the character it belongs to wherever the two make one.  Main fact:
`unified_of_ascii`.
-/

namespace Routing.Text

/-! ### Syllable blocks -/

def firstBlock : Nat := 0xac00

def firstLead : Nat := 0x1100

def firstVowel : Nat := 0x1161

/-- One before the first tail: a block without a tail has the tail of number zero. -/
def noTail : Nat := 0x11a7

def leads : Nat := 19

def vowels : Nat := 21

def tails : Nat := 28

def isBlock (code : Nat) : Bool :=
  decide (firstBlock ≤ code ∧ code < firstBlock + leads * vowels * tails)

/-- The letters of a block. -/
def blockLetters (code : Nat) : List Nat :=
  let place := code - firstBlock
  let tail := place % tails
  [firstLead + place / tails / vowels, firstVowel + place / tails % vowels] ++
    if tail = 0 then [] else [noTail + tail]

/-- The block that a lead makes with a vowel, and a block without a tail with one. -/
def block? (code next : Nat) : Option Nat :=
  if firstLead ≤ code ∧ code < firstLead + leads ∧ firstVowel ≤ next ∧ next < firstVowel + vowels then
    some (firstBlock + ((code - firstLead) * vowels + (next - firstVowel)) * tails)
  else if isBlock code ∧ (code - firstBlock) % tails = 0 ∧ noTail < next ∧ next < noTail + tails then
    some (code + (next - noTail))
  else none

/-! ### Taking apart and putting together -/

/-- The characters that a character is made of, one step down. -/
def parts (code : Nat) : List Nat :=
  if isBlock code then blockLetters code
  else
    match unpair? code with
    | some (first, mark) => [first, mark]
    | none => (form? code).getD [code]

/-- The characters that characters are made of; none has parts more than four steps down. -/
def apart (codes : List Nat) : List Nat :=
  (((codes.flatMap parts).flatMap parts).flatMap parts).flatMap parts

/-- Puts a character after others, which stand in reverse; a mark goes before marks of higher
classes. -/
def putMark (code : Nat) : List Nat → List Nat
  | [] => [code]
  | last :: before =>
    if 0 < markClass code ∧ markClass code < markClass last then last :: putMark code before
    else code :: last :: before

/-- The characters with the marks in order. -/
def inOrder (codes : List Nat) : List Nat :=
  (codes.foldl (fun done code => putMark code done) []).reverse

/-- What a character makes with the next. -/
def joined? (code next : Nat) : Option Nat := (pair? code next).orElse fun _ => block? code next

/-- Puts what follows a character together with it.  `held` are the marks after it that could not
be, the last of them of the class `last`; they are in the way of marks of no higher class. -/
def together (code : Nat) (held : List Nat) (last : Nat) : List Nat → List Nat
  | [] => code :: held
  | next :: rest =>
    match if held = [] ∨ last < markClass next then joined? code next else none with
    | some whole => together whole held last rest
    | none =>
      if markClass next = 0 then code :: held ++ together next [] 0 rest
      else together code (held ++ [next]) (markClass next) rest

/-- Characters with every mark together with its own. -/
def composed : List Nat → List Nat
  | [] => []
  | code :: rest => together code [] 0 rest

/-- The spelling that a name has in common with all others that count as the same. -/
def unified (name : Text) : Text :=
  if name.all fun c => c.toNat < 0x80 then name
  else (composed (inOrder (apart (name.map Char.toNat)))).map Char.ofNat

/-- A name in ASCII is spelled as it is. -/
theorem unified_of_ascii {name : Text} (h : ∀ c ∈ name, c.toNat < 0x80) : unified name = name := by
  rw [unified, if_pos (List.all_eq_true.2 fun c hc => decide_eq_true (h c hc))]

end Routing.Text
