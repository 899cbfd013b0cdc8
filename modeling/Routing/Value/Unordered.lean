import Routing.Value.Fields

/-!
# The elements of a set

A set keeps the first of several elements that are one key.  Its elements stand at places, of which
it has a power of two.  A number, or a row or a fixed set made of numbers, has a word of 64 bits,
the same for all that are one key with it.  It belongs at the place that its word names, and goes to
the first free place of a walk from there.  The walk tries the nine places that follow, where there
are so many, and then leaps; the leaps depend on the word until it is used up and go through all
places in the end.  A set that is three fifths full gets more places, and its elements move over in
their order.  A set with an element that has no word has its elements in the order in which they
were given.
-/

namespace Routing

namespace Scalar

/-- The words of numbers are taken modulo this prime. -/
def wordModulus : Nat := Nat.pow 2 61 - 1

/-- The word of an infinite number. -/
def infiniteWord : Nat := 314159

/-- The word of a number as an integer with its sign; minus one has that of minus two. -/
def signedWord? (s : Scalar) : Option Int :=
  match s.number? with
  | some (m, p) =>
    let size := m.natAbs * Nat.pow 2 (p % 61).toNat % wordModulus
    let word : Int := if m < 0 then -size else size
    some (if word = -1 then -2 else word)
  | none =>
    match s with
    | .float x =>
      if x.isNaN then none else some (if x.isNegative then -infiniteWord else infiniteWord)
    | _ => none

/-- The word of a number. -/
def word? (s : Scalar) : Option UInt64 := s.signedWord?.map UInt64.ofInt

end Scalar

namespace Value

/-- The word that no element has. -/
def unusedWord : UInt64 := 0xffffffffffffffff

/-- One more word, mixed into the word of a row. -/
def mixInRow (sum word : UInt64) : UInt64 :=
  let sum := sum + word * 14029467366897019727
  ((sum <<< 31) ||| (sum >>> 33)) * 11400714785074694791

/-- The word of a row, from the words of its elements in order. -/
def rowWord (words : List UInt64) : UInt64 :=
  let start : UInt64 := 2870177450012600261
  let word := words.foldl mixInRow start + (words.length.toUInt64 ^^^ (start ^^^ 3527539))
  if word = unusedWord then 1546275796 else word

/-- One more word, mixed into the word of a set; the order of mixing makes no difference. -/
def mixInSet (sum word : UInt64) : UInt64 :=
  let mask : UInt64 := 89869747
  sum ^^^ ((word ^^^ mask ^^^ (word <<< 16)) * 3644798167)

/-- The word of a fixed set, from the words of its elements. -/
def setWord (words : List UInt64) : UInt64 :=
  let sum := words.foldl mixInSet 0 ^^^ ((words.length + 1).toUInt64 * 1927868237)
  let word := (sum ^^^ (sum >>> 11) ^^^ (sum >>> 25)) * 69069 + 907133923
  if word = unusedWord then 590923713 else word

mutual

/-- The word of a value that is made of numbers. -/
def word? : Value → Option UInt64
  | .scalar s => s.word?
  | .collection .tuple elements => (words? elements).map rowWord
  | .collection .fixedSet elements => (words? elements).map setWord
  | _ => none

/-- The words of values, if they all have one. -/
def words? : List Value → Option (List UInt64)
  | [] => some []
  | v :: vs => do return (← word? v) :: (← words? vs)

end

/-- The elements less those that are one key with an earlier one. -/
def distinct (elements : List Value) : List Value :=
  elements.foldl (fun done v => if done.any (·.sameKey v) then done else done ++ [v]) []

/-- Elements with their words at their places. -/
abbrev Places := List (Option (UInt64 × Value))

/-- The places that are tried together from one place on. -/
def stretch : Nat := 9

/-- The first free place on the walk of a word; `spread` is what is left of it. -/
def freePlace? (places : Places) : (steps : Nat) → (place spread : Nat) → Option Nat
  | 0, _, _ => none
  | steps + 1, place, spread =>
    let tried := if place + stretch < places.length then stretch + 1 else 1
    match ((places.drop place).take tried).findIdx? Option.isNone with
    | some further => some (place + further)
    | none =>
      let spread := spread / 32
      freePlace? places steps ((place * 5 + 1 + spread) % places.length) spread

/-- Puts an element at the first free place of its walk. -/
def settle (places : Places) (p : UInt64 × Value) : Places :=
  let word := p.1.toNat
  match freePlace? places (places.length + 16) (word % places.length) word with
  | some place => places.set place (some p)
  | none => places

/-- The number of places of a set that has outgrown what it had with so many elements. -/
def roomFor (count : Nat) : Nat := 8 * Nat.pow 2 count.log2

/-- Puts an element into a set, which gets more places when it is three fifths full. -/
def place (places : Places) (p : UInt64 × Value) : Places :=
  let places := settle places p
  let settled := places.filterMap id
  if settled.length * 5 < (places.length - 1) * 3 then places
  else settled.foldl settle (List.replicate (roomFor settled.length) none)

/-- Distinct elements in the order in which a set has them. -/
def arranged (elements : List Value) : List Value :=
  match words? elements with
  | none => elements
  | some words =>
    (((words.zip elements).foldl place (List.replicate 8 none)).filterMap id).map Prod.snd

/-- The collection that given elements make. -/
def ofElements (kind : CollectionKind) (elements : List Value) : Value :=
  match kind with
  | .list | .tuple => .collection kind elements
  | .set | .fixedSet => .collection kind (arranged (distinct elements))

/-- No element of a set is one key with an earlier one. -/
theorem pairwise_distinct (elements : List Value) :
    (distinct elements).Pairwise fun v w => v.sameKey w = false := by
  unfold distinct
  suffices ∀ done : List Value, done.Pairwise (fun v w => v.sameKey w = false) →
      (elements.foldl (fun done v => if done.any (·.sameKey v) then done else done ++ [v])
        done).Pairwise fun v w => v.sameKey w = false from this [] .nil
  induction elements with
  | nil => exact fun done h => h
  | cons v vs ih =>
    intro done h
    refine ih _ ?_
    by_cases hv : done.any (·.sameKey v) = true
    · simpa only [hv, if_true] using h
    · simp only [hv]
      rw [Bool.not_eq_true, List.any_eq_false] at hv
      refine List.pairwise_append.2 ⟨h, List.pairwise_singleton .., fun w hw u hu => ?_⟩
      rw [List.mem_singleton.1 hu]
      simpa using hv w hw

example : arranged [.int 9, .int 1, .int 0] = [.int 0, .int 9, .int 1] := by decide

end Value

end Routing
