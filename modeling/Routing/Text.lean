/-!
# Text — characters in a list, and cutting it up

Everything the library reads or writes is a list of characters, so that splitting, matching and
substituting are plain list operations.  Main facts: `joinWith_splitWhen` (a text is its pieces,
put together again) and `cutAt_eq` (what a cut loses is the separator alone).
-/

namespace Routing

/-- A text is the list of its characters. -/
abbrev Text := List Char

instance coeString : Coe String (List Char) := ⟨String.toList⟩

instance lawfulText : LawfulBEq Text := inferInstance

namespace Text

/-- The pieces of a text between the characters that satisfy `p`; one more than there are such
characters. -/
def splitWhen (p : Char → Bool) : Text → List Text
  | [] => [[]]
  | c :: cs =>
    if p c then [] :: splitWhen p cs
    else
      match splitWhen p cs with
      | [] => [[c]]
      | piece :: pieces => (c :: piece) :: pieces

/-- The pieces between occurrences of one separator. -/
def splitAt (sep : Char) : Text → List Text := splitWhen (· == sep)

/-- The pieces in order with `sep` between neighbours. -/
def joinWith (sep : Text) : List Text → Text
  | [] => []
  | [piece] => piece
  | piece :: pieces => piece ++ sep ++ joinWith sep pieces

/-- The text before the first `sep` and the text after it; with no `sep`, all of it and nothing. -/
def cutAt (sep : Char) (s : Text) : Text × Text :=
  (s.takeWhile (· != sep), (s.dropWhile (· != sep)).drop 1)

/-- The text less its leading and trailing characters that satisfy `p`. -/
def trim (p : Char → Bool) (s : Text) : Text :=
  ((s.dropWhile p).reverse.dropWhile p).reverse

/-- What is left of `s` after `start`, if it starts so. -/
def dropPrefix? : (start s : Text) → Option Text
  | [], s => some s
  | _ :: _, [] => none
  | p :: ps, c :: cs => if p = c then dropPrefix? ps cs else none

/-- `replaceAll` from a place where the next `skip` characters belong to an occurrence already
replaced. -/
def replaceFrom (old new : Text) : (skip : Nat) → Text → Text
  | _, [] => []
  | skip + 1, _ :: cs => replaceFrom old new skip cs
  | 0, c :: cs =>
    if old.isPrefixOf (c :: cs) then new ++ replaceFrom old new (old.length - 1) cs
    else c :: replaceFrom old new 0 cs

/-- Every occurrence of `old`, from the left and without overlap, becomes `new`; an empty `old`
occurs nowhere. -/
def replaceAll (old new s : Text) : Text :=
  if old = [] then s else replaceFrom old new 0 s

/-- The decimal digits of a natural number. -/
def ofNat (n : Nat) : Text := Nat.toDigits 10 n

/-- An integer in decimal, with a minus sign where it is negative. -/
def ofInt : Int → Text
  | .ofNat n => ofNat n
  | .negSucc n => '-' :: ofNat (n + 1)

/-- Code points, one after the other, decide the order of texts. -/
def precedes (s t : Text) : Bool := !List.lex t s fun c d => decide (c.toNat < d.toNat)

@[simp] theorem splitWhen_nil (p : Char → Bool) : splitWhen p [] = [[]] := rfl

theorem splitWhen_ne_nil (p : Char → Bool) (s : Text) : splitWhen p s ≠ [] := by
  induction s with
  | nil => simp
  | cons c cs ih =>
    unfold splitWhen
    split
    · simp
    · split <;> simp

/-- A text without separators is its only piece. -/
theorem splitWhen_of_forall {p : Char → Bool} {s : Text} (h : ∀ c ∈ s, p c = false) :
    splitWhen p s = [s] := by
  induction s with
  | nil => rfl
  | cons c cs ih =>
    have hc : p c = false := h c List.mem_cons_self
    have hcs := ih fun d hd => h d (List.mem_cons_of_mem c hd)
    simp [splitWhen, hc, hcs]

/-- A separator parts the pieces before it from those after it. -/
theorem splitWhen_append_cons {p : Char → Bool} {c : Char} (hc : p c = true) (s rest : Text) :
    splitWhen p (s ++ c :: rest) = splitWhen p s ++ splitWhen p rest := by
  induction s with
  | nil => simp [splitWhen, hc]
  | cons d ds ih =>
    by_cases hd : p d = true
    · simp [splitWhen, hd, ih]
    · obtain ⟨piece, pieces, hs⟩ := List.exists_cons_of_ne_nil (splitWhen_ne_nil p ds)
      rw [hs] at ih
      simp [splitWhen, hd, hs, ih]

theorem joinWith_cons (sep piece : Text) {pieces : List Text} (h : pieces ≠ []) :
    joinWith sep (piece :: pieces) = piece ++ sep ++ joinWith sep pieces := by
  cases pieces with
  | nil => exact absurd rfl h
  | cons p ps => rfl

/-- A text is its pieces with the separator put back between them. -/
theorem joinWith_splitWhen (sep : Char) (s : Text) :
    joinWith [sep] (splitAt sep s) = s := by
  unfold splitAt
  induction s with
  | nil => rfl
  | cons c cs ih =>
    unfold splitWhen
    by_cases h : c = sep
    · subst h
      simp [joinWith_cons, splitWhen_ne_nil, ih]
    · simp only [beq_iff_eq, h, if_false]
      cases hs : splitWhen (· == sep) cs with
      | nil => exact absurd hs (splitWhen_ne_nil _ _)
      | cons piece pieces =>
        rw [hs] at ih
        cases pieces with
        | nil => simpa [joinWith] using ih
        | cons p ps => simpa [joinWith] using ih

/-- No piece holds a character at which the text was split. -/
theorem not_of_mem_splitWhen {p : Char → Bool} {s piece : Text} (h : piece ∈ splitWhen p s) :
    ∀ c ∈ piece, p c = false := by
  induction s generalizing piece with
  | nil => simp_all
  | cons c cs ih =>
    unfold splitWhen at h
    by_cases hc : p c = true
    · simp only [hc, if_true, List.mem_cons] at h
      rcases h with rfl | h
      · simp
      · exact ih h
    · simp only [hc] at h
      cases hs : splitWhen p cs with
      | nil => exact absurd hs (splitWhen_ne_nil _ _)
      | cons q qs =>
        rw [hs] at h ih
        simp only [Bool.false_eq_true, if_false, List.mem_cons] at h
        rcases h with rfl | h
        · intro d hd
          rcases List.mem_cons.1 hd with rfl | hd
          · simpa using hc
          · exact ih (List.mem_cons_self ..) d hd
        · exact ih (List.mem_cons_of_mem _ h)

/-- A text with the separator in it is what comes before, the separator, and what comes after. -/
theorem cutAt_eq {sep : Char} {s : Text} (h : sep ∈ s) :
    s = (cutAt sep s).1 ++ sep :: (cutAt sep s).2 := by
  unfold cutAt
  induction s with
  | nil => simp at h
  | cons c cs ih =>
    by_cases hc : c = sep
    · subst hc; simp
    · have := ih ((List.mem_cons.1 h).resolve_left (Ne.symm hc))
      simpa [hc] using this

theorem cutAt_of_not_mem {sep : Char} {s : Text} (h : sep ∉ s) : cutAt sep s = (s, []) := by
  unfold cutAt
  induction s with
  | nil => rfl
  | cons c cs ih =>
    rw [List.mem_cons, not_or] at h
    have hc : (c != sep) = true := bne_iff_ne.2 (Ne.symm h.1)
    have := ih h.2
    simp_all

/-- A text is cut at its first separator. -/
theorem cutAt_append_cons {sep : Char} {s : Text} (h : sep ∉ s) (rest : Text) :
    cutAt sep (s ++ sep :: rest) = (s, rest) := by
  unfold cutAt
  induction s with
  | nil => simp
  | cons c cs ih =>
    rw [List.mem_cons, not_or] at h
    have hc : (c != sep) = true := bne_iff_ne.2 (Ne.symm h.1)
    have := ih h.2
    simp_all

theorem dropPrefix?_eq_some_iff {start s rest : Text} :
    dropPrefix? start s = some rest ↔ s = start ++ rest := by
  induction start generalizing s with
  | nil => simp [dropPrefix?, eq_comm]
  | cons p ps ih =>
    cases s with
    | nil => simp [dropPrefix?]
    | cons c cs =>
      by_cases h : p = c
      · subst h; simp [dropPrefix?, ih]
      · simp [dropPrefix?, h, Ne.symm h]

end Text

end Routing
