import Routing.Text

/-!
# Replacing all occurrences

The occurrences that are replaced are found in the text as it is given, so what is between them does
not depend on what is put in their place: the outcome is these parts, put together with the
replacement (`exists_parts`).  So the outcome tells the replacement if there is at least one
occurrence: `replaceAll_injective`.
-/

namespace Routing.Text

variable {old new new' s : Text} {first : Text} {rest : List Text}

theorem length_joinWith (sep first : Text) (rest : List Text) :
    (joinWith sep (first :: rest)).length =
      (first :: rest).flatten.length + rest.length * sep.length := by
  induction rest generalizing first with
  | nil => simp [joinWith]
  | cons second rest ih =>
    rw [joinWith_cons _ _ (List.cons_ne_nil second rest), List.length_append, List.length_append]
    simp only [ih, List.flatten_cons, List.length_append, List.length_cons, Nat.succ_mul]
    omega

/-- Two pieces or more, put together, tell what they have been put together with. -/
theorem joinWith_injective (h : rest ≠ [])
    (he : joinWith new (first :: rest) = joinWith new' (first :: rest)) : new = new' := by
  have hlength := congrArg List.length he
  rw [length_joinWith, length_joinWith, Nat.add_left_cancel_iff] at hlength
  have hsame : new.length = new'.length :=
    Nat.eq_of_mul_eq_mul_left (List.length_pos_iff.2 h) hlength
  rw [joinWith_cons _ _ h, joinWith_cons _ _ h, List.append_assoc, List.append_assoc] at he
  exact (List.append_inj (List.append_cancel_left he) hsame).1

/-- What is between the occurrences that are replaced, from a place on; there is only one such part
if there is no occurrence. -/
theorem exists_parts (ho : old ≠ []) (s : Text) (skip : Nat) :
    ∃ first rest, (∀ new, replaceFrom old new skip s = joinWith new (first :: rest)) ∧
      (skip = 0 → old <:+: s → rest ≠ []) := by
  induction s generalizing skip with
  | nil => exact ⟨[], [], fun new => by cases skip <;> rfl,
      fun _ h => absurd (List.infix_nil.1 h) ho⟩
  | cons c cs ih =>
    cases skip with
    | succ skip =>
      obtain ⟨first, rest, hparts, -⟩ := ih skip
      exact ⟨first, rest, hparts, fun h => nomatch h⟩
    | zero =>
      by_cases hp : old.isPrefixOf (c :: cs) = true
      · obtain ⟨first, rest, hparts, -⟩ := ih (old.length - 1)
        refine ⟨[], first :: rest, fun new => ?_, fun _ _ => List.cons_ne_nil _ _⟩
        rw [replaceFrom, if_pos hp, hparts, joinWith_cons _ _ (List.cons_ne_nil _ _)]
        rfl
      · obtain ⟨first, rest, hparts, hmore⟩ := ih 0
        refine ⟨c :: first, rest, fun new => ?_, fun _ h => ?_⟩
        · rw [replaceFrom, if_neg hp, hparts]
          cases rest <;> rfl
        · rcases List.infix_cons_iff.1 h with h | h
          · exact absurd (List.isPrefixOf_iff_prefix.2 h) hp
          · exact hmore rfl h

/-- If there is an occurrence, no two replacements lead to one text. -/
theorem replaceAll_injective (ho : old ≠ []) (hs : old <:+: s)
    (he : replaceAll old new s = replaceAll old new' s) : new = new' := by
  obtain ⟨first, rest, hparts, hmore⟩ := exists_parts ho s 0
  unfold replaceAll at he
  rw [if_neg ho, if_neg ho, hparts, hparts] at he
  exact joinWith_injective (hmore rfl hs) he

end Routing.Text
