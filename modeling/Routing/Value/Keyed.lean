import Routing.Value.Fields

/-!
# Tables with values for keys

A table in the order in which its keys were first written.  Keys that are one key share an entry,
which stands under the first of them.  Main facts: `get?_update_self` and `get?_update_of_ne`, for
keys that are texts.
-/

namespace Routing

/-- Pairs in the order of first writing; no two of their keys are one. -/
abbrev Keyed (α : Type) := List (Value × α)

namespace Keyed

variable {α : Type}

def get? (key : Value) : Keyed α → Option α
  | [] => none
  | (k, a) :: rest => if k.sameKey key then some a else get? key rest

/-- Changes what stands under a key, which is `start` if nothing does. -/
def update (key : Value) (start : α) (f : α → α) : Keyed α → Keyed α
  | [] => [(key, f start)]
  | (k, a) :: rest =>
    if k.sameKey key then (k, f a) :: rest else (k, a) :: update key start f rest

theorem get?_update_self (s : Text) (start : α) (f : α → α) (t : Keyed α) :
    get? (.text s) (update (.text s) start f t) = some (f ((get? (.text s) t).getD start)) := by
  induction t with
  | nil => simp [update, get?]
  | cons p rest ih =>
    obtain ⟨k, a⟩ := p
    by_cases h : k = .text s <;> simp [update, get?, h, ih]

theorem get?_update_of_ne {s r : Text} (h : s ≠ r) (start : α) (f : α → α) (t : Keyed α) :
    get? (.text s) (update (.text r) start f t) = get? (.text s) t := by
  induction t with
  | nil => simp [update, get?, Ne.symm h]
  | cons p rest ih =>
    obtain ⟨k, a⟩ := p
    by_cases hr : k = .text r
    · subst hr; simp [update, get?, Ne.symm h]
    · by_cases hs : k = .text s
      · subst hs; simp [update, get?, h]
      · simp [update, get?, hr, hs, ih]

end Keyed

end Routing
