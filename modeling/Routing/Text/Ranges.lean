/-!
# Ranges of code points

A character class of a standard is kept as the increasing list of its ranges, each by its first and
last code point.  A look-up stops at the first range that ends no earlier than the character.
-/

namespace Routing.Text

/-- Whether a code point lies in one of the ranges, which are disjoint and increasing. -/
def inRanges (code : Nat) : List (Nat × Nat) → Bool
  | [] => false
  | (first, last) :: rest => if code ≤ last then decide (first ≤ code) else inRanges code rest

/-- The look-up accepts nothing outside the ranges, in whatever order they stand. -/
theorem exists_of_inRanges {code : Nat} {ranges : List (Nat × Nat)}
    (h : inRanges code ranges = true) : ∃ r ∈ ranges, r.1 ≤ code ∧ code ≤ r.2 := by
  induction ranges with
  | nil => simp [inRanges] at h
  | cons r rest ih =>
    obtain ⟨first, last⟩ := r
    by_cases hl : code ≤ last
    · simp only [inRanges, hl, if_true, decide_eq_true_eq] at h
      exact ⟨_, List.mem_cons_self .., h, hl⟩
    · simp only [inRanges, hl, if_false] at h
      obtain ⟨q, hq, hc⟩ := ih h
      exact ⟨q, List.mem_cons_of_mem _ hq, hc⟩

end Routing.Text
