import Routing.Proofs.Directive.Fields
import Routing.Proofs.Step.Rows

/-!
# Reading lines

What it comes to when some lines are read, which are numbered among themselves.  If no line is
short, every line that says something gives its directive; otherwise reading ends at the first short
line.  Either way the state is left alone, and the lines before that end are reported if they have
more than three fields: `run_ofLines_of_complete` and `run_ofLines_of_short`.
-/

namespace Routing.Directive

variable {σ : Type}

/-- What is wrong with a short line. -/
def shortReason : Text := "expected '<VERB> <path> <controller>.<method>'"

/-- The fault of a short line of this number. -/
def shortFault (line : Text) (n : Nat) : Fault := .malformedLine line shortReason (some n)

/-- What is said when the line of this number has fields after the third. -/
def extraMessage (extra : List Text) (n : Nat) : Text :=
  "Ignoring extra fields ".toList ++ Text.quotedList extra ++ " in route line ".toList ++
    Text.ofNat n

/-- What is reported of a numbered line. -/
def reports (p : Nat × Text) : List Event :=
  match (fields p.2).drop 3 with
  | [] => []
  | extra => [.logged .warning (extraMessage extra p.1)]

/-- The directive on a numbered line, if it has fields enough. -/
def directive? (p : Nat × Text) : Option Directive :=
  match fields p.2 with
  | verb :: path :: target :: _ => some ⟨p.1, verb, path, target⟩
  | _ => none

/-! ### One line -/

theorem exists_fields {line : Text} (h : 3 ≤ (fields line).length) :
    ∃ verb path target extra, fields line = verb :: path :: target :: extra := by
  rcases hl : fields line with _ | ⟨verb, _ | ⟨path, _ | ⟨target, extra⟩⟩⟩
  · simp [hl] at h
  · simp [hl] at h
  · simp [hl] at h
  · exact ⟨verb, path, target, extra, rfl⟩

theorem placeOf_number {n : Nat} (hn : 0 < n) (line : Text) :
    placeOf line (some (n : Int)) = Text.ofNat n := by
  have hne : (n : Int) ≠ 0 := by omega
  show (if (n : Int) = 0 then line else Text.ofInt n) = Text.ofNat n
  rw [if_neg hne]
  rfl

theorem readFields_of_short {line : Text} (h : (fields line).length < 3) (number : Option Int) :
    (readFields line number : Step σ _) = Step.fail (.malformedLine line shortReason number) := by
  unfold readFields
  split
  · rename_i hf
    rw [hf] at h
    exact absurd h (by simp)
  · rename_i hf
    rw [hf] at h
    exact absurd h (by simp)
  · rfl

theorem run_ofLine_of_short {n : Nat} {line : Text} (h : (fields line).length < 3) (s : σ) :
    (ofLine (n, line)).run s = ⟨[], s, .error (shortFault line n)⟩ := by
  unfold ofLine
  rw [readFields_of_short h]
  rfl

theorem run_readFields_of_fields {line verb path target : Text} {extra : List Text}
    (h : fields line = verb :: path :: target :: extra) {n : Nat} (hn : 0 < n) (s : σ) :
    (readFields line (some (n : Int))).run s =
      ⟨reports (n, line), s, .ok (verb, path, target)⟩ := by
  unfold readFields reports
  cases extra with
  | nil => simp only [h, List.drop_succ_cons, List.drop_zero, Step.run_pure]
  | cons field extra =>
    simp only [h, List.drop_succ_cons, List.drop_zero, placeOf_number hn]
    rfl

theorem run_ofLine_of_fields {n : Nat} {line verb path target : Text} {extra : List Text}
    (hn : 0 < n) (h : fields line = verb :: path :: target :: extra) (s : σ) :
    (ofLine (n, line)).run s = ⟨reports (n, line), s, .ok ⟨n, verb, path, target⟩⟩ := by
  unfold ofLine
  rw [Step.run_bind, run_readFields_of_fields h hn, Outcome.andThen_ok]
  simp only [Step.run_pure, List.append_nil]

/-! ### A row of lines -/

/-- Lines that have fields enough are read one after the other. -/
theorem passes_ofLine {ps : List (Nat × Text)} (hn : ∀ p ∈ ps, 0 < p.1)
    (hf : ∀ p ∈ ps, 3 ≤ (fields p.2).length) (s : σ) :
    Step.Passes ofLine s ps (ps.flatMap reports) (ps.filterMap directive?) s := by
  induction ps with
  | nil => exact .nil s
  | cons p ps ih =>
    obtain ⟨n, line⟩ := p
    have hlen : 3 ≤ (fields line).length := hf (n, line) List.mem_cons_self
    obtain ⟨verb, path, target, extra, hl⟩ := exists_fields hlen
    have hd : directive? (n, line) = some ⟨n, verb, path, target⟩ := by simp [directive?, hl]
    rw [List.flatMap_cons, List.filterMap_cons_some hd]
    exact .cons (run_ofLine_of_fields (hn _ List.mem_cons_self) hl s)
      (ih (fun q hq => hn q (List.mem_cons_of_mem _ hq))
        (fun q hq => hf q (List.mem_cons_of_mem _ hq)))

/-! ### Numbers -/

theorem numberFrom_append (n : Nat) (before after : List Text) :
    numberFrom n (before ++ after) =
      numberFrom n before ++ numberFrom (n + before.length) after := by
  induction before generalizing n with
  | nil => rfl
  | cons line lines ih =>
    rw [List.cons_append, numberFrom, numberFrom, ih, List.length_cons, List.cons_append]
    rw [show n + 1 + lines.length = n + (lines.length + 1) by omega]

theorem le_of_mem_numberFrom {n : Nat} {lines : List Text} {p : Nat × Text}
    (h : p ∈ numberFrom n lines) : n ≤ p.1 := by
  induction lines generalizing n with
  | nil => exact absurd h List.not_mem_nil
  | cons line lines ih =>
    rcases List.mem_cons.1 h with rfl | h
    · exact Nat.le_refl n
    · have := ih h
      omega

theorem pos_of_mem_numbered {lines : List Text} {p : Nat × Text} (h : p ∈ numbered lines) :
    0 < p.1 :=
  le_of_mem_numberFrom (List.mem_filter.1 h).1

theorem mem_of_mem_numbered {lines : List Text} {p : Nat × Text} (h : p ∈ numbered lines) :
    p.2 ∈ lines ∧ saysNothing p.2 = false := by
  obtain ⟨hm, hs⟩ := List.mem_filter.1 h
  refine ⟨?_, by simpa using hs⟩
  rw [← map_snd_numberFrom 1 lines]
  exact List.mem_map_of_mem hm

/-- A line that says something has one number more than there are lines before it. -/
theorem exists_numbered_append_cons {line : Text} (h : saysNothing line = false)
    (before after : List Text) : ∃ rest, numbered (before ++ line :: after) =
      numbered before ++ (before.length + 1, line) :: rest := by
  unfold numbered
  rw [numberFrom_append, numberFrom, List.filter_append, List.filter_cons_of_pos (by simpa using h),
    Nat.add_comm 1]
  exact ⟨_, rfl⟩

/-! ### All lines -/

theorem fields_length_of_complete {lines : List Text} (h : ∀ line ∈ lines, ¬ IsShort line) :
    ∀ p ∈ numbered lines, 3 ≤ (fields p.2).length := by
  intro p hp
  obtain ⟨hm, hs⟩ := mem_of_mem_numbered hp
  have := h p.2 hm
  rw [isShort_iff] at this
  have : ¬ (fields p.2).length < 3 := fun hl => this ⟨hs, hl⟩
  omega

/-- If no line is short, every line that says something gives its directive. -/
theorem run_ofLines_of_complete {lines : List Text} (h : ∀ line ∈ lines, ¬ IsShort line) (s : σ) :
    (ofLines lines).run s =
      ⟨(numbered lines).flatMap reports, s, .ok ((numbered lines).filterMap directive?)⟩ :=
  Step.run_mapList_eq_ok_iff.2 <|
    passes_ofLine (fun _ => pos_of_mem_numbered) (fields_length_of_complete h) s

/-- Reading ends at the first short line, with its number. -/
theorem run_ofLines_of_short {before after : List Text} {line : Text} (h : IsShort line)
    (hb : ∀ l ∈ before, ¬ IsShort l) (s : σ) :
    (ofLines (before ++ line :: after)).run s =
      ⟨(numbered before).flatMap reports, s, .error (shortFault line (before.length + 1))⟩ := by
  obtain ⟨hs, hl⟩ := isShort_iff.1 h
  obtain ⟨rest, hr⟩ := exists_numbered_append_cons hs before after
  unfold ofLines
  rw [Step.run_mapList_eq_error_iff]
  refine ⟨_, _, rest, _, [], _, s, hr, passes_ofLine (fun _ => pos_of_mem_numbered)
    (fields_length_of_complete hb) s, run_ofLine_of_short hl s, (List.append_nil _).symm⟩

/-- A line that is not short, nor any line before it, comes before every short line. -/
theorem exists_of_append_eq {before after before' after' : List Text} {line line' : Text}
    (h : before ++ line :: after = before' ++ line' :: after') (hs : IsShort line)
    (hs' : ¬ IsShort line') (hb' : ∀ l ∈ before', ¬ IsShort l) :
    ∃ between, before = before' ++ line' :: between := by
  rcases List.append_eq_append_iff.1 h with ⟨c, rfl, hc⟩ | ⟨c, rfl, hc⟩
  · cases c with
    | nil =>
      obtain ⟨rfl, -⟩ := List.cons_eq_cons.1 hc
      exact absurd hs hs'
    | cons l c =>
      obtain ⟨rfl, -⟩ := List.cons_eq_cons.1 hc
      exact absurd hs (hb' line (by simp))
  · cases c with
    | nil =>
      obtain ⟨rfl, -⟩ := List.cons_eq_cons.1 hc
      exact absurd hs hs'
    | cons l c =>
      obtain ⟨rfl, -⟩ := List.cons_eq_cons.1 hc
      exact ⟨c, rfl⟩

/-- Either no line is short, or one of them is the first. -/
theorem complete_or_exists_short (lines : List Text) :
    (∀ line ∈ lines, ¬ IsShort line) ∨ ∃ before line after, lines = before ++ line :: after ∧
      IsShort line ∧ ∀ l ∈ before, ¬ IsShort l := by
  induction lines with
  | nil => exact .inl fun line hl => absurd hl List.not_mem_nil
  | cons line lines ih =>
    by_cases h : IsShort line
    · exact .inr ⟨[], line, lines, rfl, h, fun l hl => absurd hl List.not_mem_nil⟩
    · rcases ih with ih | ⟨before, l, after, rfl, hl, hb⟩
      · exact .inl (List.forall_mem_cons.2 ⟨h, ih⟩)
      · exact .inr ⟨line :: before, l, after, rfl, hl, List.forall_mem_cons.2 ⟨h, hb⟩⟩

theorem state_ofLines (lines : List Text) (s : σ) : ((ofLines lines).run s).state = s := by
  rcases complete_or_exists_short lines with h | ⟨before, line, after, rfl, h, hb⟩
  · rw [run_ofLines_of_complete h]
  · rw [run_ofLines_of_short h hb]

/-- Reading comes to directives if no line is short. -/
theorem ofLines_succeeds_iff (lines : List Text) (s : σ) :
    (∃ ds, ((ofLines lines).run s).result = .ok ds) ↔ ∀ line ∈ lines, ¬ IsShort line := by
  constructor
  · rintro ⟨ds, hds⟩
    rcases complete_or_exists_short lines with h | ⟨before, line, after, rfl, h, hb⟩
    · exact h
    · rw [run_ofLines_of_short h hb] at hds
      simp at hds
  · intro h
    exact ⟨_, congrArg Outcome.result (run_ofLines_of_complete h s)⟩

/-- Reading fails at the first short line. -/
theorem ofLines_fails_iff (lines : List Text) (s : σ) (fault : Fault) :
    ((ofLines lines).run s).result = .error fault ↔
      ∃ before line after, lines = before ++ line :: after ∧ IsShort line ∧
        (∀ l ∈ before, ¬ IsShort l) ∧ fault = shortFault line (before.length + 1) := by
  constructor
  · intro hf
    rcases complete_or_exists_short lines with h | ⟨before, line, after, rfl, h, hb⟩
    · rw [run_ofLines_of_complete h] at hf
      simp at hf
    · rw [run_ofLines_of_short h hb] at hf
      exact ⟨before, line, after, rfl, h, hb, (Except.error.inj hf).symm⟩
  · rintro ⟨before, line, after, rfl, h, hb, rfl⟩
    rw [run_ofLines_of_short h hb]

/-! ### What is reported -/

theorem mem_numberFrom_iff {m n : Nat} {lines : List Text} {line : Text} :
    (n, line) ∈ numberFrom m lines ↔
      ∃ before after, lines = before ++ line :: after ∧ n = m + before.length := by
  constructor
  · intro h
    induction lines generalizing m with
    | nil => exact absurd h List.not_mem_nil
    | cons l lines ih =>
      rcases List.mem_cons.1 h with h | h
      · obtain ⟨rfl, rfl⟩ := Prod.mk.inj h
        exact ⟨[], lines, rfl, rfl⟩
      · obtain ⟨before, after, rfl, rfl⟩ := ih h
        refine ⟨l :: before, after, rfl, ?_⟩
        rw [List.length_cons]
        omega
  · rintro ⟨before, after, rfl, rfl⟩
    rw [numberFrom_append]
    exact List.mem_append_right _ List.mem_cons_self

theorem mem_numbered_iff {n : Nat} {lines : List Text} {line : Text} :
    (n, line) ∈ numbered lines ↔ saysNothing line = false ∧
      ∃ before after, lines = before ++ line :: after ∧ n = before.length + 1 := by
  unfold numbered
  rw [List.mem_filter, mem_numberFrom_iff, and_comm, Bool.not_eq_true']
  simp only [Nat.add_comm 1]

theorem mem_reports_iff {p : Nat × Text} {event : Event} :
    event ∈ reports p ↔ 3 < (fields p.2).length ∧
      event = .logged .warning (extraMessage ((fields p.2).drop 3) p.1) := by
  have hlen : ((fields p.2).drop 3).length = (fields p.2).length - 3 := List.length_drop
  unfold reports
  cases hd : (fields p.2).drop 3 with
  | nil =>
    rw [hd, List.length_nil] at hlen
    have : ¬ 3 < (fields p.2).length := by omega
    simp [this]
  | cons field extra =>
    rw [hd, List.length_cons] at hlen
    have : 3 < (fields p.2).length := by omega
    simp [this]

theorem mem_flatMap_reports_iff {lines : List Text} {event : Event} :
    event ∈ (numbered lines).flatMap reports ↔
      ∃ before line after, lines = before ++ line :: after ∧ saysNothing line = false ∧
        3 < (fields line).length ∧
        event = .logged .warning (extraMessage ((fields line).drop 3) (before.length + 1)) := by
  rw [List.mem_flatMap]
  constructor
  · rintro ⟨⟨n, line⟩, hn, he⟩
    obtain ⟨hs, before, after, rfl, rfl⟩ := mem_numbered_iff.1 hn
    obtain ⟨hl, he⟩ := mem_reports_iff.1 he
    exact ⟨before, line, after, rfl, hs, hl, he⟩
  · rintro ⟨before, line, after, rfl, hs, hl, he⟩
    exact ⟨(before.length + 1, line), mem_numbered_iff.2 ⟨hs, before, after, rfl, rfl⟩,
      mem_reports_iff.2 ⟨hl, he⟩⟩

/-- Reading reports the lines with more than three fields, up to the first short line. -/
theorem mem_events_ofLines_iff {lines : List Text} {s : σ} {event : Event} :
    event ∈ ((ofLines lines).run s).events ↔
      ∃ before line after, lines = before ++ line :: after ∧ (∀ l ∈ before, ¬ IsShort l) ∧
        saysNothing line = false ∧ 3 < (fields line).length ∧
        event = .logged .warning (extraMessage ((fields line).drop 3) (before.length + 1)) := by
  rcases complete_or_exists_short lines with h | ⟨first, short, rest, rfl, h, hb⟩
  · rw [run_ofLines_of_complete h, mem_flatMap_reports_iff]
    constructor
    · rintro ⟨before, line, after, rfl, hs, hl, he⟩
      exact ⟨before, line, after, rfl, fun l hm => h l (List.mem_append_left _ hm), hs, hl, he⟩
    · rintro ⟨before, line, after, hd, -, hs, hl, he⟩
      exact ⟨before, line, after, hd, hs, hl, he⟩
  · rw [run_ofLines_of_short h hb, mem_flatMap_reports_iff]
    constructor
    · rintro ⟨before, line, after, rfl, hs, hl, he⟩
      refine ⟨before, line, after ++ short :: rest, by simp, fun l hm => ?_, hs, hl, he⟩
      exact hb l (List.mem_append_left _ hm)
    · rintro ⟨before, line, after, hd, hb', hs, hl, he⟩
      have hn : ¬ IsShort line := fun hn => by
        have := (isShort_iff.1 hn).2
        omega
      obtain ⟨between, rfl⟩ := exists_of_append_eq hd h hn hb'
      exact ⟨before, line, between, rfl, hs, hl, he⟩

end Routing.Directive
