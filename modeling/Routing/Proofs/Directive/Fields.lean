import Routing.Directive

/-!
# The fields of a line

`Spells line fs` says how a line with the fields `fs` may be written: each field is not empty and
holds no blank, there are blanks between neighbours, and there may be blanks around them.  Main
fact: `spells_iff` (the fields of a line are the only ones that it spells).  A line is short if it
says something with fewer than three fields.
-/

namespace Routing.Directive

/-- Blanks and nothing else, or nothing at all. -/
def IsGap (s : Text) : Prop := ∀ c ∈ s, Text.isBlank c = true

/-- What a field can be. -/
def IsField (s : Text) : Prop := s ≠ [] ∧ ∀ c ∈ s, Text.isBlank c = false

/-- A line written with some fields.  What follows a field starts with a blank, unless it is the end
of the line. -/
inductive Spells : Text → List Text → Prop where
  | gap {g : Text} : IsGap g → Spells g []
  | field {g f rest : Text} {fs : List Text} : IsGap g → IsField f →
      (∀ c ∈ rest.head?, Text.isBlank c = true) → Spells rest fs → Spells (g ++ f ++ rest) (f :: fs)

/-! ### The fields are what is spelled -/

/-- A blank parts the fields before it from those after it. -/
theorem fields_append_cons {c : Char} (hc : Text.isBlank c = true) (s rest : Text) :
    fields (s ++ c :: rest) = fields s ++ fields rest := by
  unfold fields
  rw [Text.splitWhen_append_cons hc, List.filter_append]

theorem fields_cons_of_blank {c : Char} (hc : Text.isBlank c = true) (rest : Text) :
    fields (c :: rest) = fields rest :=
  fields_append_cons hc [] rest

theorem fields_gap_append {g : Text} (hg : IsGap g) (s : Text) : fields (g ++ s) = fields s := by
  induction g with
  | nil => rfl
  | cons c cs ih =>
    have hc : Text.isBlank c = true := hg c List.mem_cons_self
    rw [List.cons_append, fields_cons_of_blank hc, ih fun d hd => hg d (List.mem_cons_of_mem c hd)]

theorem fields_of_isGap {g : Text} (hg : IsGap g) : fields g = [] := by
  rw [← List.append_nil g, fields_gap_append hg]
  rfl

theorem fields_of_isField {f : Text} (hf : IsField f) : fields f = [f] := by
  have hne : f.isEmpty = false := List.isEmpty_eq_false_iff.2 hf.1
  unfold fields
  rw [Text.splitWhen_of_forall hf.2]
  simp [hne]

theorem fields_field_append {f rest : Text} (hf : IsField f)
    (hr : ∀ c ∈ rest.head?, Text.isBlank c = true) : fields (f ++ rest) = f :: fields rest := by
  cases rest with
  | nil => rw [List.append_nil, fields_of_isField hf]; rfl
  | cons c cs =>
    have hc : Text.isBlank c = true := hr c rfl
    rw [fields_append_cons hc, fields_cons_of_blank hc, fields_of_isField hf]
    rfl

theorem fields_of_spells {line : Text} {fs : List Text} (h : Spells line fs) :
    fields line = fs := by
  induction h with
  | gap hg => exact fields_of_isGap hg
  | field hg hf hr _ ih =>
    rw [List.append_assoc, fields_gap_append hg, fields_field_append hf hr, ih]

theorem Spells.cons_of_blank {c : Char} (hc : Text.isBlank c = true) {line : Text}
    {fs : List Text} (h : Spells line fs) : Spells (c :: line) fs := by
  have extend {g : Text} (hg : IsGap g) : IsGap (c :: g) := by
    intro d hd
    rcases List.mem_cons.1 hd with rfl | hd
    · exact hc
    · exact hg d hd
  cases h with
  | gap hg => exact .gap (extend hg)
  | field hg hf hr hs => exact .field (extend hg) hf hr hs

/-- Every line spells some fields. -/
theorem exists_spells (line : Text) : ∃ fs, Spells line fs := by
  induction line with
  | nil => exact ⟨[], .gap fun c hc => absurd hc List.not_mem_nil⟩
  | cons c cs ih =>
    obtain ⟨fs, hs⟩ := ih
    by_cases hc : Text.isBlank c = true
    · exact ⟨fs, hs.cons_of_blank hc⟩
    · have hc : Text.isBlank c = false := by simpa using hc
      have none : IsGap [] := fun d hd => absurd hd List.not_mem_nil
      have single : IsField [c] := ⟨List.cons_ne_nil c [], by simpa using hc⟩
      cases hs with
      | gap hg =>
        refine ⟨[[c]], .field none single (fun d hd => ?_) (.gap hg)⟩
        exact hg d (List.mem_of_mem_head? hd)
      | @field g f rest fs hg hf hr hs =>
        cases g with
        | nil =>
          -- the character makes the first field longer
          refine ⟨(c :: f) :: fs, .field none ⟨List.cons_ne_nil c f, fun d hd => ?_⟩ hr hs⟩
          rcases List.mem_cons.1 hd with rfl | hd
          · exact hc
          · exact hf.2 d hd
        | cons d g =>
          refine ⟨[c] :: f :: fs, .field none single (fun e he => ?_) (.field hg hf hr hs)⟩
          obtain rfl : d = e := by simpa using he
          exact hg d List.mem_cons_self

/-- The fields of a line are the only ones that it spells. -/
theorem spells_iff {line : Text} {fs : List Text} : Spells line fs ↔ fields line = fs := by
  constructor
  · exact fields_of_spells
  · rintro rfl
    obtain ⟨fs, hs⟩ := exists_spells line
    rwa [fields_of_spells hs]

/-! ### Short lines -/

/-- Whether a line says something with fewer than three fields. -/
def IsShort (line : Text) : Prop :=
  saysNothing line = false ∧ ∃ fs, Spells line fs ∧ fs.length < 3

theorem isShort_iff {line : Text} :
    IsShort line ↔ saysNothing line = false ∧ (fields line).length < 3 := by
  unfold IsShort
  simp only [spells_iff, exists_eq_left']

instance (line : Text) : Decidable (IsShort line) := decidable_of_iff _ isShort_iff.symm

/-! ### The carriage return at the end of a line -/

theorem dropReturn_concat (s : Text) : dropReturn (s ++ ['\r']) = s := by
  unfold dropReturn
  rw [if_pos List.getLast?_concat, List.dropLast_concat]

theorem dropReturn_of_ne {s : Text} (h : s.getLast? ≠ some '\r') : dropReturn s = s := by
  unfold dropReturn
  rw [if_neg h]

/-- A carriage return is a blank, so it may as well be dropped before the fields are read. -/
theorem fields_dropReturn (line : Text) : fields (dropReturn line) = fields line := by
  by_cases h : line.getLast? = some '\r'
  · obtain ⟨s, rfl⟩ := List.getLast?_eq_some_iff.1 h
    rw [dropReturn_concat, fields_append_cons (by decide)]
    exact (List.append_nil _).symm
  · rw [dropReturn_of_ne h]

end Routing.Directive
