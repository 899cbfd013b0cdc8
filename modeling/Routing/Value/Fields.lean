import Routing.Value

/-!
# Fields by key

An object's fields in the order in which their keys were first given.  Two keys are the same when
they are equal as numbers or else equal altogether: `1`, `1.0` and `True` are one key.
-/

namespace Routing

/-- The finite number `mantissa · 2 ^ exponent` that a truth value, an integer or a double is. -/
def Scalar.number? : Scalar → Option (Int × Int)
  | .bool b => some (if b then 1 else 0, 0)
  | .int n => some (n, 0)
  | .float x => if x.isSpecial then none else some (x.signedMantissa, x.exponent)
  | _ => none

/-- Whether two plain values are one key. -/
def Scalar.sameKey (s t : Scalar) : Bool :=
  match s.number?, t.number? with
  | some (m, p), some (n, q) => m * Int.pow 2 (p - q).toNat == n * Int.pow 2 (q - p).toNat
  | none, none =>
    match s, t with
    | .float x, .float y => x == y && !x.isNaN
    | s, t => s == t
  | _, _ => false

namespace Value

mutual

/-- Whether two values are one key.  The order of its elements does not tell one set from another.
-/
def sameKey : Value → Value → Bool
  | .scalar s, .scalar t => s.sameKey t
  | .collection k vs, .collection l ws =>
    k == l &&
      if k.isOrdered then sameKeys vs ws else vs.length == ws.length && occurIn vs ws
  | v, w => decide (v = w)

/-- Whether the values of two lists are one key, place by place. -/
def sameKeys : List Value → List Value → Bool
  | [], [] => true
  | v :: vs, w :: ws => sameKey v w && sameKeys vs ws
  | _, _ => false

/-- Whether each value of the first list is one key with some value of the second. -/
def occurIn : List Value → List Value → Bool
  | [], _ => true
  | v :: vs, ws => ws.any (sameKey v) && occurIn vs ws

end

/-- A text is one key with itself and with nothing else. -/
@[simp] theorem sameKey_text (v : Value) (s : Text) :
    v.sameKey (.text s) = decide (v = .text s) := by
  cases v with
  | scalar t =>
    cases t with
    | text t => simp [sameKey, Scalar.sameKey, Scalar.number?, Bool.beq_eq_decide_eq]
    | float x => by_cases h : x.isSpecial <;> simp [sameKey, Scalar.sameKey, Scalar.number?, h]
    | _ => simp [sameKey, Scalar.sameKey, Scalar.number?]
  | _ => simp [sameKey]

/-- Nor does it matter on which side it stands. -/
theorem text_sameKey (s : Text) (v : Value) :
    (Value.text s).sameKey v = decide (v = .text s) := by
  cases v with
  | scalar t =>
    cases t with
    | text t => simp [sameKey, Scalar.sameKey, Scalar.number?, Bool.beq_eq_decide_eq, eq_comm]
    | float x => by_cases h : x.isSpecial <;> simp [sameKey, Scalar.sameKey, Scalar.number?, h]
    | _ => simp [sameKey, Scalar.sameKey, Scalar.number?]
  | _ => simp [sameKey]

end Value

namespace Fields

/-- Sets a field: in its old place if the key is there, at the end if it is not. -/
def set (key v : Value) : Fields → Fields
  | [] => [(key, v)]
  | (k, w) :: rest => if k.sameKey key then (k, v) :: rest else (k, w) :: set key v rest

/-- The fields that pairs make when they are set one after the other. -/
def ofPairs (pairs : List (Value × Value)) : Fields :=
  pairs.foldl (fun fields p => set p.1 p.2 fields) []

/-- The value of the field whose key is the text `name`, and the fields less that one. -/
def take? (name : Text) : Fields → Option (Value × Fields)
  | [] => none
  | (k, v) :: rest =>
    if k = .text name then some (v, rest)
    else (take? name rest).map fun (w, others) => (w, (k, v) :: others)

/-- Taking a field removes it and no other, wherever it stands. -/
theorem take?_eq_some {name : Text} {fields others : Fields} {v : Value}
    (h : take? name fields = some (v, others)) :
    ∃ before after, fields = before ++ (.text name, v) :: after ∧ others = before ++ after := by
  induction fields generalizing v others with
  | nil => simp [take?] at h
  | cons p rest ih =>
    obtain ⟨k, w⟩ := p
    by_cases hk : k = .text name
    · simp only [take?, hk, if_true, Option.some.injEq, Prod.mk.injEq] at h
      obtain ⟨rfl, rfl⟩ := h
      exact ⟨[], rest, by simp [hk], rfl⟩
    · simp only [take?, hk, if_false, Option.map_eq_some_iff] at h
      obtain ⟨⟨u, others'⟩, hu, he⟩ := h
      obtain ⟨before, after, hb, ha⟩ := ih hu
      simp only [Prod.mk.injEq] at he
      refine ⟨(k, w) :: before, after, ?_, ?_⟩
      · simp [hb, ← he.1]
      · simp [← he.2, ha]

end Fields

end Routing
