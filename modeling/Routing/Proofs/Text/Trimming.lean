import Mathlib.Data.List.DropRight
import Routing.Text

/-!
# Texts that are trimmed and put together

What can be trimmed away around a text makes no difference to what is left of it, and what has been
put together with a separator in between is taken apart again if there is none in any piece.
-/

namespace Routing.Text

variable {p : Char → Bool} {c : Char} {s t : Text}

theorem trim_of_forall (h : ∀ c ∈ s, p c = false) : trim p s = s := by
  have hkeep : ∀ {t : Text}, (∀ c ∈ t, p c = false) → t.dropWhile p = t := by
    intro t ht
    cases t with
    | nil => rfl
    | cons c t => rw [List.dropWhile_cons_of_neg (by simp [ht c List.mem_cons_self])]
  unfold trim
  rw [hkeep h, hkeep fun c hc => h c (List.mem_reverse.1 hc), List.reverse_reverse]

/-- Blanks in front are trimmed away. -/
theorem trim_append_left (h : ∀ c ∈ s, p c = true) (t : Text) : trim p (s ++ t) = trim p t := by
  unfold trim
  rw [List.dropWhile_append_of_pos h]

/-- So are blanks at the end. -/
theorem trim_append_right (h : ∀ c ∈ s, p c = true) (t : Text) : trim p (t ++ s) = trim p t := by
  unfold trim
  have hs : s.dropWhile p = [] := List.dropWhile_eq_nil_iff.2 h
  rw [List.dropWhile_append, hs]
  split
  · rename_i ht
    rw [List.isEmpty_iff.1 ht]
  · have hr : ∀ c ∈ s.reverse, p c = true := fun c hc => h c (List.mem_reverse.1 hc)
    rw [List.reverse_append, List.dropWhile_append_of_pos hr]

theorem trim_dropWhile (p : Char → Bool) (s : Text) : trim p (s.dropWhile p) = trim p s := by
  have hblank : ∀ c ∈ s.takeWhile p, p c = true := fun c => List.mem_takeWhile_imp
  have := trim_append_left hblank (s.dropWhile p)
  rwa [List.takeWhile_append_dropWhile, eq_comm] at this

theorem trim_rdropWhile (p : Char → Bool) (s : Text) : trim p (s.rdropWhile p) = trim p s := by
  have hblank : ∀ c ∈ s.rtakeWhile p, p c = true := fun c => List.mem_rtakeWhile_imp
  have := trim_append_right hblank (s.rdropWhile p)
  rwa [List.rdropWhile_append_rtakeWhile, eq_comm] at this

theorem dropWhile_append_cons (hc : p c = false) (s t : Text) :
    (s ++ c :: t).dropWhile p = s.dropWhile p ++ c :: t := by
  rw [List.dropWhile_append]
  split
  · rename_i hs
    rw [List.isEmpty_iff.1 hs, List.dropWhile_cons_of_neg (by simp [hc])]
    rfl
  · rfl

/-- Around a character that is no blank each side is trimmed by itself. -/
theorem trim_append_cons (hc : p c = false) (s t : Text) :
    trim p (s ++ c :: t) = s.dropWhile p ++ c :: t.rdropWhile p := by
  unfold trim List.rdropWhile
  have hr : (s.dropWhile p ++ c :: t).reverse = t.reverse ++ c :: (s.dropWhile p).reverse := by simp
  rw [dropWhile_append_cons hc, hr, dropWhile_append_cons hc]
  simp

/-- What has been joined is split again, if there is no separator in any piece. -/
theorem splitAt_joinWith {sep : Char} {pieces : List Text} (hne : pieces ≠ [])
    (h : ∀ piece ∈ pieces, sep ∉ piece) : splitAt sep (joinWith [sep] pieces) = pieces := by
  unfold splitAt
  induction pieces with
  | nil => exact absurd rfl hne
  | cons piece pieces ih =>
    obtain ⟨hpiece, hrest⟩ := List.forall_mem_cons.1 h
    have hone : splitWhen (· == sep) piece = [piece] := by
      refine splitWhen_of_forall fun c hc => ?_
      rw [beq_eq_false_iff_ne]
      rintro rfl
      exact hpiece hc
    by_cases hp : pieces = []
    · rw [hp]
      exact hone
    · rw [joinWith_cons _ _ hp, List.append_assoc, List.singleton_append,
        splitWhen_append_cons (by simp), hone, ih hp hrest]
      rfl

end Routing.Text
