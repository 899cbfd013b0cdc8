import Routing.Assoc

/-!
# More on ordered tables

What is found under a key after each way of changing a table, what a table holds after it, the
tables in which no key occurs twice, what is found after merging them, and the tables that hold a
value for each of some keys.
-/

namespace Routing.Assoc

variable {α : Type} {key other : Text} {a : α} {t new : Assoc α} {P : Text × α → Prop}
  {names : List Text}

theorem get?_append (t rest : Assoc α) :
    get? key (t ++ rest) = (get? key t).or (get? key rest) := by
  induction t with
  | nil => rfl
  | cons p t ih =>
    obtain ⟨k, a⟩ := p
    by_cases h : k = key <;> simp [get?, h, ih]

theorem get?_ensure_self (a : α) : get? key (ensure key a t) = some ((get? key t).getD a) := by
  unfold ensure
  cases h : get? key t with
  | some b => simp [h]
  | none => simp [get?_append, h, get?]

theorem get?_ensure_of_ne (h : other ≠ key) (a : α) :
    get? other (ensure key a t) = get? other t := by
  unfold ensure
  cases get? key t with
  | some b => rfl
  | none => simp [get?_append, get?, Ne.symm h]

theorem ensure_of_get?_eq_some (h : get? key t = some a) (b : α) : ensure key b t = t := by
  unfold ensure
  rw [h]

theorem get?_adjust_self (f : α → α) : get? key (adjust key f t) = (get? key t).map f := by
  induction t with
  | nil => rfl
  | cons p t ih =>
    obtain ⟨k, a⟩ := p
    by_cases h : k = key <;> simp [adjust, get?, h, ih]

theorem get?_adjust_of_ne (h : other ≠ key) (f : α → α) :
    get? other (adjust key f t) = get? other t := by
  induction t with
  | nil => rfl
  | cons p t ih =>
    obtain ⟨k, a⟩ := p
    by_cases hk : k = key
    · simp [adjust, get?, hk, Ne.symm h]
    · by_cases ho : k = other <;> simp [adjust, get?, hk, ho, h, ih]

theorem get?_erase_of_ne (h : other ≠ key) (t : Assoc α) :
    get? other (erase key t) = get? other t := by
  induction t with
  | nil => rfl
  | cons p t ih =>
    obtain ⟨k, a⟩ := p
    by_cases hk : k = key
    · simp [erase, get?, hk, Ne.symm h]
    · by_cases ho : k = other <;> simp [erase, get?, hk, ho, h, ih]

theorem mem_of_get? (h : get? key t = some a) : (key, a) ∈ t := by
  induction t with
  | nil => exact nomatch h
  | cons p t ih =>
    obtain ⟨k, b⟩ := p
    by_cases hk : k = key
    · rw [get?, if_pos hk] at h
      rw [← hk, ← Option.some.inj h]
      exact List.mem_cons_self
    · rw [get?, if_neg hk] at h
      exact List.mem_cons_of_mem _ (ih h)

/-- What was set before under the same key is gone. -/
theorem set_set (key : Text) (a b : α) (t : Assoc α) : set key a (set key b t) = set key a t := by
  induction t with
  | nil => simp [set]
  | cons p t ih =>
    obtain ⟨k, c⟩ := p
    by_cases h : k = key <;> simp [set, h, ih]

theorem set_ne_nil (key : Text) (a : α) (t : Assoc α) : set key a t ≠ [] := by
  cases t with
  | nil => exact List.cons_ne_nil _ _
  | cons p t =>
    unfold set
    split <;> exact List.cons_ne_nil _ _

theorem merge_ne_nil (h : t ≠ [] ∨ new ≠ []) : merge t new ≠ [] := by
  induction new generalizing t with
  | nil => exact h.resolve_right fun hn => hn rfl
  | cons p new ih => exact ih (.inl (set_ne_nil p.1 p.2 t))

theorem keys_adjust (key : Text) (f : α → α) (t : Assoc α) : (adjust key f t).keys = t.keys := by
  induction t with
  | nil => rfl
  | cons p t ih =>
    obtain ⟨k, a⟩ := p
    unfold adjust
    split
    · rfl
    · exact congrArg (k :: ·) ih

theorem keys_ensure (key : Text) (a : α) (t : Assoc α) :
    keys (ensure key a t) = if key ∈ keys t then keys t else keys t ++ [key] := by
  cases h : get? key t with
  | none =>
    have hk : key ∉ keys t := get?_eq_none_iff.1 h
    rw [if_neg hk]
    unfold ensure
    rw [h]
    exact List.map_append
  | some b =>
    have hk : key ∈ keys t := List.mem_map.2 ⟨_, mem_of_get? h, rfl⟩
    rw [if_pos hk, ensure_of_get?_eq_some h]

theorem erase_of_get?_eq_none (h : get? key t = none) : erase key t = t := by
  induction t with
  | nil => rfl
  | cons p t ih =>
    obtain ⟨k, a⟩ := p
    unfold get? at h
    split at h
    · exact absurd h (Option.some_ne_none _)
    · rename_i hk
      rw [erase, if_neg hk, ih h]

/-! ### What is so of all pairs -/

theorem forall_mem_set (h : ∀ p ∈ t, P p) (ha : P (key, a)) : ∀ p ∈ set key a t, P p := by
  induction t with
  | nil => exact List.forall_mem_singleton.2 ha
  | cons q t ih =>
    obtain ⟨k, b⟩ := q
    obtain ⟨hq, ht⟩ := List.forall_mem_cons.1 h
    unfold set
    split
    · rename_i hk
      exact List.forall_mem_cons.2 ⟨hk ▸ ha, ht⟩
    · exact List.forall_mem_cons.2 ⟨hq, ih ht⟩

theorem forall_mem_ensure (h : ∀ p ∈ t, P p) (ha : P (key, a)) : ∀ p ∈ ensure key a t, P p := by
  unfold ensure
  split
  · exact h
  · exact List.forall_mem_append.2 ⟨h, List.forall_mem_singleton.2 ha⟩

theorem forall_mem_merge (h : ∀ p ∈ t, P p) (hnew : ∀ p ∈ new, P p) : ∀ p ∈ merge t new, P p := by
  induction new generalizing t with
  | nil => exact h
  | cons q new ih =>
    obtain ⟨hq, hrest⟩ := List.forall_mem_cons.1 hnew
    exact ih (forall_mem_set h hq) hrest

/-! ### Keys that do not occur twice -/

theorem nodup_keys_set (h : t.keys.Nodup) (key : Text) (a : α) : (set key a t).keys.Nodup := by
  rw [keys_set]
  split
  · exact h
  · rename_i hk
    refine List.nodup_append.2 ⟨h, List.pairwise_singleton _ key, fun k hm other ho he => hk ?_⟩
    rw [← List.mem_singleton.1 ho, ← he]
    exact hm

theorem nodup_keys_ensure (h : t.keys.Nodup) (key : Text) (a : α) :
    (ensure key a t).keys.Nodup := by
  unfold ensure
  cases hg : get? key t with
  | some b => exact h
  | none =>
    rw [← set_of_get?_eq_none hg]
    exact nodup_keys_set h key a

theorem nodup_keys_merge (h : t.keys.Nodup) (new : Assoc α) : (merge t new).keys.Nodup := by
  induction new generalizing t with
  | nil => exact h
  | cons p new ih => exact ih (nodup_keys_set h p.1 p.2)

theorem mem_keys_merge : key ∈ (merge t new).keys ↔ key ∈ t.keys ∨ key ∈ new.keys := by
  induction new generalizing t with
  | nil => exact ⟨.inl, fun h => h.elim id fun h => absurd h List.not_mem_nil⟩
  | cons p new ih =>
    have hset : key ∈ (set p.1 p.2 t).keys ↔ key ∈ t.keys ∨ key = p.1 := by
      rw [keys_set]
      split
      · rename_i hp
        exact ⟨.inl, fun h => h.elim id fun h => h ▸ hp⟩
      · rw [List.mem_append, List.mem_singleton]
    have hcons : key ∈ keys (p :: new) ↔ key = p.1 ∨ key ∈ keys new := List.mem_cons
    rw [hcons, ← or_assoc, ← hset]
    exact ih

theorem erase_sublist (key : Text) (t : Assoc α) : (erase key t).Sublist t := by
  induction t with
  | nil => exact .slnil
  | cons p t ih =>
    unfold erase
    split
    · exact List.sublist_cons_self _ t
    · exact ih.cons_cons p

theorem nodup_keys_erase (h : t.keys.Nodup) (key : Text) : (erase key t).keys.Nodup :=
  h.sublist ((erase_sublist key t).map Prod.fst)

theorem get?_erase_self (h : t.keys.Nodup) : get? key (erase key t) = none := by
  induction t with
  | nil => rfl
  | cons p t ih =>
    obtain ⟨k, a⟩ := p
    obtain ⟨hk, ht⟩ := List.nodup_cons.1 h
    unfold erase
    split
    · rename_i he
      exact get?_eq_none_iff.2 (he ▸ hk)
    · rename_i he
      rw [get?, if_neg he, ih ht]

theorem mem_keys_erase (h : t.keys.Nodup) :
    other ∈ (erase key t).keys ↔ other ∈ t.keys ∧ other ≠ key := by
  by_cases ho : other = key
  · subst ho
    exact ⟨fun hm => absurd hm (get?_eq_none_iff.1 (get?_erase_self h)), fun hm => absurd rfl hm.2⟩
  · have hiff : other ∉ (erase key t).keys ↔ other ∉ t.keys := by
      rw [← get?_eq_none_iff, ← get?_eq_none_iff, get?_erase_of_ne ho]
    exact (Decidable.not_iff_not.1 hiff).trans ⟨fun hm => ⟨hm, ho⟩, And.left⟩

/-- What stands under a key is all that does, if no key occurs twice. -/
theorem get?_of_mem (hd : t.keys.Nodup) (h : (key, a) ∈ t) : get? key t = some a := by
  induction t with
  | nil => exact absurd h List.not_mem_nil
  | cons p t ih =>
    obtain ⟨k, b⟩ := p
    obtain ⟨hk, hd⟩ := List.nodup_cons.1 hd
    rcases List.mem_cons.1 h with he | hm
    · obtain ⟨rfl, rfl⟩ := Prod.mk.inj he
      exact if_pos rfl
    · have hne : k ≠ key := by
        rintro rfl
        exact hk (List.mem_map.2 ⟨_, hm, rfl⟩)
      rw [get?, if_neg hne]
      exact ih hd hm

/-! ### Merging -/

/-- To set what is there already changes nothing. -/
theorem set_of_get?_eq_some (h : get? key t = some a) : set key a t = t := by
  induction t with
  | nil => exact nomatch h
  | cons p t ih =>
    obtain ⟨k, b⟩ := p
    unfold get? at h
    split at h
    · rename_i hk
      rw [set, if_pos hk, Option.some.inj h]
    · rename_i hk
      rw [set, if_neg hk, ih h]

/-- What is merged in counts before what was there. -/
theorem get?_merge (h : new.keys.Nodup) (key : Text) (t : Assoc α) :
    get? key (merge t new) = (get? key new).or (get? key t) := by
  induction new generalizing t with
  | nil => rfl
  | cons p new ih =>
    obtain ⟨k, a⟩ := p
    obtain ⟨hk, hnew⟩ := List.nodup_cons.1 h
    have hstep : get? key (merge t ((k, a) :: new)) = (get? key new).or (get? key (set k a t)) :=
      ih hnew (set k a t)
    rw [hstep, get?]
    by_cases he : k = key
    · subst he
      rw [if_pos rfl, get?_eq_none_iff.2 hk, get?_set_self]
      rfl
    · rw [if_neg he, get?_set_of_ne (Ne.symm he)]

theorem merge_of_forall (h : ∀ p ∈ new, get? p.1 t = some p.2) : merge t new = t := by
  induction new with
  | nil => rfl
  | cons p new ih =>
    obtain ⟨hp, hnew⟩ := List.forall_mem_cons.1 h
    have hstep : merge t (p :: new) = merge (set p.1 p.2 t) new := rfl
    rw [hstep, set_of_get?_eq_some hp, ih hnew]

/-- What is merged into nothing is itself. -/
theorem merge_nil (h : new.keys.Nodup) : merge [] new = new := by
  -- The pairs set so far stay in front, and the keys still to come are none of theirs.
  have hfront : ∀ (front new : Assoc α), (front ++ new).keys.Nodup →
      merge front new = front ++ new := by
    intro front new
    induction new generalizing front with
    | nil => exact fun _ => (List.append_nil front).symm
    | cons p new ih =>
      intro hd
      have hd' : ((front ++ [p]) ++ new).keys.Nodup := by rwa [List.append_assoc]
      have hp : get? p.1 front = none := by
        rw [get?_eq_none_iff]
        intro hm
        unfold keys at hd hm
        rw [List.map_append, List.map_cons] at hd
        exact (List.nodup_append.1 hd).2.2 _ hm _ List.mem_cons_self rfl
      have hstep : merge front (p :: new) = merge (set p.1 p.2 front) new := rfl
      rw [hstep, set_of_get?_eq_none hp, ih _ hd', List.append_assoc]
      rfl
  exact hfront [] new h

/-- To merge the same a second time changes nothing. -/
theorem merge_merge_self (h : new.keys.Nodup) (t : Assoc α) :
    merge (merge t new) new = merge t new := by
  refine merge_of_forall fun p hp => ?_
  rw [get?_merge h, get?_of_mem h hp]
  rfl

/-! ### A value for each key -/

theorem keys_map (names : List Text) (g : Text → α) :
    keys (names.map fun k => (k, g k)) = names := by
  unfold keys
  rw [List.map_map]
  exact List.map_id names

theorem ensure_map (g : Text → α) {a : α} (h : key ∉ names → g key = a) :
    ensure key a (names.map fun k => (k, g k)) =
      (if key ∈ names then names else names ++ [key]).map fun k => (k, g k) := by
  have hnone : get? key (names.map fun k => (k, g k)) = none ↔ key ∉ names := by
    rw [get?_eq_none_iff, keys_map]
  cases hg : get? key (names.map fun k => (k, g k)) with
  | none =>
    have hk : key ∉ names := hnone.1 hg
    rw [if_neg hk, List.map_append, List.map_singleton, h hk]
    unfold ensure
    rw [hg]
  | some b =>
    have hk : key ∈ names :=
      Decidable.byContradiction fun hk => nomatch hg.symm.trans (hnone.2 hk)
    rw [if_pos hk, ensure_of_get?_eq_some hg]

theorem adjust_map (hd : names.Nodup) (f : α → α) (g : Text → α) :
    adjust key f (names.map fun k => (k, g k)) =
      names.map fun k => (k, if k = key then f (g k) else g k) := by
  induction names with
  | nil => rfl
  | cons k names ih =>
    obtain ⟨hk, hd⟩ := List.nodup_cons.1 hd
    rw [List.map_cons, List.map_cons, adjust]
    by_cases he : k = key
    · subst he
      rw [if_pos rfl, if_pos rfl]
      congr 1
      refine List.map_congr_left fun k' hk' => ?_
      have hne : k' ≠ k := fun he => hk (he ▸ hk')
      rw [if_neg hne]
    · rw [if_neg he, if_neg he, ih hd]

end Routing.Assoc
