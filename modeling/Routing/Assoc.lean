import Routing.Text

/-!
# Ordered tables

A table from texts to values in the order in which its keys were first set.  Setting a key that is
there keeps its place; a key that was erased and is set again goes to the end.  Main facts:
`get?_set_self`, `get?_set_of_ne` and `keys_set`.
-/

namespace Routing

/-- Pairs in the order of first setting; the functions below never make a key occur twice. -/
abbrev Assoc (α : Type) := List (Text × α)

namespace Assoc

variable {α β : Type}

def keys (t : Assoc α) : List Text := t.map Prod.fst

def get? (key : Text) : Assoc α → Option α
  | [] => none
  | (k, a) :: rest => if k = key then some a else get? key rest

def set (key : Text) (a : α) : Assoc α → Assoc α
  | [] => [(key, a)]
  | (k, b) :: rest => if k = key then (k, a) :: rest else (k, b) :: set key a rest

/-- Sets a key that is not there and leaves one that is. -/
def ensure (key : Text) (a : α) (t : Assoc α) : Assoc α :=
  match get? key t with
  | some _ => t
  | none => t ++ [(key, a)]

/-- Changes the value of a key that is there. -/
def adjust (key : Text) (f : α → α) : Assoc α → Assoc α
  | [] => []
  | (k, a) :: rest => if k = key then (k, f a) :: rest else (k, a) :: adjust key f rest

def erase (key : Text) : Assoc α → Assoc α
  | [] => []
  | (k, a) :: rest => if k = key then rest else (k, a) :: erase key rest

/-- Sets the pairs of `new` one after the other. -/
def merge (t new : Assoc α) : Assoc α := new.foldl (fun t p => set p.1 p.2 t) t

@[simp] theorem get?_set_self (key : Text) (a : α) (t : Assoc α) :
    get? key (set key a t) = some a := by
  induction t with
  | nil => simp [set, get?]
  | cons p rest ih =>
    obtain ⟨k, b⟩ := p
    by_cases h : k = key <;> simp [set, get?, h, ih]

theorem get?_set_of_ne {key other : Text} (h : other ≠ key) (a : α) (t : Assoc α) :
    get? other (set key a t) = get? other t := by
  induction t with
  | nil => simp [set, get?, Ne.symm h]
  | cons p rest ih =>
    obtain ⟨k, b⟩ := p
    by_cases hk : k = key
    · subst hk; simp [set, get?, Ne.symm h]
    · by_cases ho : k = other
      · subst ho; simp [set, get?, hk]
      · simp [set, get?, hk, ho, ih]

theorem get?_eq_none_iff {key : Text} {t : Assoc α} : get? key t = none ↔ key ∉ keys t := by
  induction t with
  | nil => simp [get?, keys]
  | cons p rest ih =>
    obtain ⟨k, b⟩ := p
    by_cases h : k = key
    · simp [get?, keys, h]
    · simp only [keys] at ih
      simp [get?, keys, h, ih, Ne.symm h]

/-- A key that is not there goes to the end. -/
theorem set_of_get?_eq_none {key : Text} {t : Assoc α} (h : get? key t = none) (a : α) :
    set key a t = t ++ [(key, a)] := by
  induction t with
  | nil => rfl
  | cons p rest ih =>
    obtain ⟨k, b⟩ := p
    unfold get? at h
    split at h
    · exact nomatch h
    · rename_i hk
      rw [set, if_neg hk, ih h, List.cons_append]

theorem keys_set (key : Text) (a : α) (t : Assoc α) :
    keys (set key a t) = if key ∈ keys t then keys t else keys t ++ [key] := by
  induction t with
  | nil => simp [set, keys]
  | cons p rest ih =>
    obtain ⟨k, b⟩ := p
    by_cases h : k = key
    · subst h; simp [set, keys]
    · simp only [keys] at ih
      by_cases hm : key ∈ rest.map Prod.fst <;> simp [set, keys, h, ih, Ne.symm h, hm]

end Assoc

end Routing
