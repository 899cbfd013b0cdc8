import Routing.Expansion

/-!
# What targets name

`IsDotted s controller method` says that a target is a controller and a method around its first dot,
and the three relations of a folder mark say what comes of comparing it with a target: some text of
it is at the start, none is, or something has to be compared that is no text.  One of the three is
always so, and `Target.ofText?` follows them.
-/

namespace Routing

/-! ### Folders -/

namespace FolderMark

/-- Some text of the mark is at the start of a target, and all before it are texts that are not. -/
def IsAtStart (mark : FolderMark) (s : Text) : Prop :=
  ∃ (others : List Text) (start : Text) (rest : List Value),
    mark.starts = others.map Value.text ++ .text start :: rest ∧ (∀ t ∈ others, ¬ t <+: s) ∧
      start <+: s

/-- The mark is texts, none of which is at the start of a target. -/
def IsAbsent (mark : FolderMark) (s : Text) : Prop :=
  ∃ others : List Text, mark.starts = others.map Value.text ∧ ∀ t ∈ others, ¬ t <+: s

/-- Something that is no text has to be compared with a target. -/
def IsUnusable (mark : FolderMark) (s : Text) : Prop :=
  ∃ (others : List Text) (v : Value) (rest : List Value),
    mark.starts = others.map Value.text ++ v :: rest ∧ (∀ t ∈ others, ¬ t <+: s) ∧ v.text? = none

variable {mark : FolderMark} {s : Text}

theorem isAtStart_append {others : List Text} (h : ∀ t ∈ others, ¬ t <+: s) (rest : List Value) :
    isAtStart s (others.map Value.text ++ rest) = isAtStart s rest := by
  induction others with
  | nil => rfl
  | cons t others ih =>
    have ht : ¬ t.isPrefixOf s = true := fun hp =>
      h t List.mem_cons_self (List.isPrefixOf_iff_prefix.1 hp)
    rw [List.map_cons, List.cons_append, isAtStart, if_neg ht]
    exact ih fun t' ht' => h t' (List.mem_cons_of_mem t ht')

theorem directory?_of_isAtStart (h : mark.IsAtStart s) :
    mark.directory? s = .ok (some (s.drop mark.width)) := by
  obtain ⟨others, start, rest, hm, ho, hs⟩ := h
  unfold directory?
  rw [hm, isAtStart_append ho, isAtStart, if_pos (List.isPrefixOf_iff_prefix.2 hs)]
  rfl

theorem directory?_of_isAbsent (h : mark.IsAbsent s) : mark.directory? s = .ok none := by
  obtain ⟨others, hm, ho⟩ := h
  unfold directory?
  rw [hm, ← List.append_nil (others.map Value.text), isAtStart_append ho]
  rfl

theorem directory?_of_isUnusable (h : mark.IsUnusable s) :
    mark.directory? s = .error .optionNotText := by
  obtain ⟨others, v, rest, hm, ho, hv⟩ := h
  have hn : isAtStart s (v :: rest) = .error .optionNotText := by
    unfold isAtStart
    split
    · rename_i heq
      simp at heq
    · rename_i heq
      obtain ⟨rfl, -⟩ := List.cons_eq_cons.1 heq
      simp [Value.text?] at hv
    · rfl
  unfold directory?
  rw [hm, isAtStart_append ho, hn]
  rfl

/-- What comes of comparing a mark with a target is one of three things. -/
theorem isAtStart_or_isAbsent_or_isUnusable (mark : FolderMark) (s : Text) :
    mark.IsAtStart s ∨ mark.IsAbsent s ∨ mark.IsUnusable s := by
  obtain ⟨starts, width⟩ := mark
  unfold IsAtStart IsAbsent IsUnusable
  dsimp only
  -- The texts compared so far are not at the start; the first other thing decides.
  induction starts with
  | nil => exact .inr (.inl ⟨[], rfl, fun t ht => absurd ht List.not_mem_nil⟩)
  | cons v starts ih =>
    cases hv : v.text? with
    | none => exact .inr (.inr ⟨[], v, starts, rfl, fun t ht => absurd ht List.not_mem_nil, hv⟩)
    | some t =>
      obtain rfl := Value.text?_eq_some_iff.1 hv
      by_cases ht : t <+: s
      · exact .inl ⟨[], t, starts, rfl, fun t ht => absurd ht List.not_mem_nil, ht⟩
      · rcases ih with ⟨others, start, rest, rfl, ho, hs⟩ | ⟨others, rfl, ho⟩ |
          ⟨others, v, rest, rfl, ho, hv⟩
        · exact .inl ⟨t :: others, start, rest, rfl, List.forall_mem_cons.2 ⟨ht, ho⟩, hs⟩
        · exact .inr (.inl ⟨t :: others, rfl, List.forall_mem_cons.2 ⟨ht, ho⟩⟩)
        · exact .inr (.inr ⟨t :: others, v, rest, rfl, List.forall_mem_cons.2 ⟨ht, ho⟩, hv⟩)

end FolderMark

/-! ### Controllers and methods -/

/-- A target is a controller and a method, neither empty, around its first dot. -/
def IsDotted (s controller method : Text) : Prop :=
  s = controller ++ '.' :: method ∧ '.' ∉ controller ∧ controller ≠ [] ∧ method ≠ []

namespace Target

variable {marks : Marks} {s controller method : Text}

theorem ofDotted?_of_isDotted (h : IsDotted s controller method) (wildcard : Text) :
    ofDotted? wildcard s =
      some (if method = wildcard then .wildcard controller else .endpoint controller method) := by
  obtain ⟨rfl, hd, hc, hm⟩ := h
  unfold ofDotted?
  rw [Text.cutAt_append_cons hd]
  dsimp only
  rw [if_neg (not_or.2 ⟨hc, hm⟩)]
  split <;> rfl

/-- A target that has an answer is dotted. -/
theorem exists_isDotted {wildcard : Text} {target : Target}
    (h : ofDotted? wildcard s = some target) :
    ∃ controller method, IsDotted s controller method := by
  unfold ofDotted? at h
  dsimp only at h
  split at h
  · exact nomatch h
  · rename_i hne
    rw [not_or] at hne
    have hdot : '.' ∈ s := by
      apply Classical.byContradiction
      intro hd
      exact hne.2 (by rw [Text.cutAt_of_not_mem hd])
    refine ⟨_, _, Text.cutAt_eq hdot, fun hm => ?_, hne.1, hne.2⟩
    have := List.all_eq_true.1 (List.all_takeWhile (p := (· != '.')) (l := s)) _ hm
    simp at this

theorem ofDotted?_of_not_isDotted (h : ∀ controller method, ¬ IsDotted s controller method)
    (wildcard : Text) : ofDotted? wildcard s = none := by
  rw [Option.eq_none_iff_forall_ne_some]
  intro target ht
  obtain ⟨controller, method, hd⟩ := exists_isDotted ht
  exact h controller method hd

theorem ofText?_of_isAtStart (h : marks.folderMark.IsAtStart s) :
    ofText? marks s = .ok (some (.folder (s.drop marks.folderMark.width))) := by
  unfold ofText?
  rw [FolderMark.directory?_of_isAtStart h]
  rfl

theorem ofText?_of_isAbsent (h : marks.folderMark.IsAbsent s) :
    ofText? marks s = .ok (ofDotted? marks.wildcard s) := by
  unfold ofText?
  rw [FolderMark.directory?_of_isAbsent h]
  rfl

theorem ofText?_of_isUnusable (h : marks.folderMark.IsUnusable s) :
    ofText? marks s = .error .optionNotText := by
  unfold ofText?
  rw [FolderMark.directory?_of_isUnusable h]
  rfl

end Target

end Routing
