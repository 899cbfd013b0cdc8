import Routing.Proofs.Table.Source

/-!
# Which number a line is given

A router numbers the lines of its routes file after the empty lines and the remarks are gone, while
a text that is read at once keeps the numbers that its lines have.  So the number in a fault or a
warning of a router is one more than there are lines before it that say something, and it is the
line's own number exactly if all lines before it do: `lines_numbered_among_kept`.
-/

namespace Routing.Application

open Directive

/-- The number that a router gives to a line with these lines before it. -/
def givenNumber (before : List Text) : Nat :=
  (before.filter fun line => !saysNothing line).length + 1

theorem givenNumber_eq_iff {before : List Text} :
    givenNumber before = before.length + 1 ↔ ∀ line ∈ before, saysNothing line = false := by
  unfold givenNumber
  rw [Nat.add_right_cancel_iff, List.length_filter_eq_length_iff]
  simp only [Bool.not_eq_true']

/-- The kept lines around one of them. -/
theorem kept_eq_append_cons_iff {text line : Text} {before after : List Text} :
    kept text = before ++ line :: after ↔
      ∃ before' after', physicalLines text = before' ++ line :: after' ∧ saysNothing line = false ∧
        (before'.filter fun l => !saysNothing l) = before ∧
        (after'.filter fun l => !saysNothing l) = after := by
  rw [kept_eq_filter, List.filter_eq_append_iff]
  constructor
  · rintro ⟨first, rest, hl, rfl, hr⟩
    obtain ⟨gap, after', rfl, hg, hs, rfl⟩ := List.filter_eq_cons_iff.1 hr
    have hg : (gap.filter fun l => !saysNothing l) = [] := List.filter_eq_nil_iff.2 hg
    refine ⟨first ++ gap, after', by rw [hl, List.append_assoc], by simpa using hs, ?_, rfl⟩
    rw [List.filter_append, hg, List.append_nil]
  · rintro ⟨before', after', hl, hs, rfl, rfl⟩
    refine ⟨before', line :: after', hl, rfl, ?_⟩
    rw [List.filter_cons_of_pos (by simpa using hs)]

/-- A line that says nothing is not short. -/
theorem forall_mem_filter_iff {before : List Text} :
    (∀ l ∈ before.filter fun l => !saysNothing l, ¬ IsShort l) ↔ ∀ l ∈ before, ¬ IsShort l := by
  constructor
  · intro h l hl hs
    exact h l (List.mem_filter.2 ⟨hl, by simpa using (isShort_iff.1 hs).1⟩) hs
  · exact fun h l hl => h l (List.mem_filter.1 hl).1

/-- A kept line that no short one comes before, with its number among the kept ones, is a line of
the file that no short one comes before, with the number that the router gives to it. -/
theorem exists_kept_iff (text : Text) (P : Text → Nat → Prop) :
    (∃ before line after, kept text = before ++ line :: after ∧ (∀ l ∈ before, ¬ IsShort l) ∧
        P line (before.length + 1)) ↔
      ∃ before line after, physicalLines text = before ++ line :: after ∧
        (∀ l ∈ before, ¬ IsShort l) ∧ saysNothing line = false ∧ P line (givenNumber before) := by
  constructor
  · rintro ⟨_, line, _, hk, hb, hp⟩
    obtain ⟨before, after, hl, hs, rfl, rfl⟩ := kept_eq_append_cons_iff.1 hk
    exact ⟨before, line, after, hl, forall_mem_filter_iff.1 hb, hs, hp⟩
  · rintro ⟨before, line, after, hl, hb, hs, hp⟩
    have hk := kept_eq_append_cons_iff.2 ⟨before, after, hl, hs, rfl, rfl⟩
    exact ⟨_, line, _, hk, forall_mem_filter_iff.2 hb, hp⟩

variable {app : Application} {text : Text}

/-- The fault of a router that names a line: it is about the first short line of the file. -/
theorem result_entries_iff_short (ht : app.routesText = .ok text) (hn : app.router.table = none)
    {fault : Fault} (hf : fault.lineNumber? ≠ none) :
    (entries.run app).result = .error fault ↔
      ∃ before line after, physicalLines text = before ++ line :: after ∧ IsShort line ∧
        (∀ l ∈ before, ¬ IsShort l) ∧ fault = shortFault line (givenNumber before) := by
  have hk := exists_kept_iff text fun line number =>
    IsShort line ∧ fault = shortFault line number
  rw [result_entries_eq_error_iff hn hf, run_directives ht, ofLines_fails_iff]
  constructor
  · rintro ⟨before, line, after, hl, hs, hb, he⟩
    obtain ⟨before, line, after, hl, hb, -, hs, he⟩ := hk.1 ⟨before, line, after, hl, hb, hs, he⟩
    exact ⟨before, line, after, hl, hs, hb, he⟩
  · rintro ⟨before, line, after, hl, hs, hb, he⟩
    obtain ⟨before, line, after, hl, hb, hs, he⟩ :=
      hk.2 ⟨before, line, after, hl, hb, (isShort_iff.1 hs).1, hs, he⟩
    exact ⟨before, line, after, hl, hs, hb, he⟩

/-- The warnings of a router are about the lines of the file with more than three fields, up to the
first short line. -/
theorem mem_events_entries_iff_extra (ht : app.routesText = .ok text)
    (hn : app.router.table = none) {message : Text} :
    .logged .warning message ∈ (entries.run app).events ↔
      ∃ before line after, physicalLines text = before ++ line :: after ∧
        (∀ l ∈ before, ¬ IsShort l) ∧ saysNothing line = false ∧ ∃ fs, Spells line fs ∧
          3 < fs.length ∧ message = extraMessage (fs.drop 3) (givenNumber before) := by
  rw [mem_events_entries_iff hn ⟨message, rfl⟩, run_directives ht, mem_events_ofLines_iff]
  simp only [Event.logged.injEq, true_and, spells_iff, exists_eq_left']
  have hk := exists_kept_iff text fun line number => saysNothing line = false ∧
    3 < (fields line).length ∧ message = extraMessage ((fields line).drop 3) number
  rw [hk]
  simp only [and_self_left]

/-- A router numbers its lines among those that say something.  The fault of its first short line
and the warnings before it have these numbers, while reading the text of the file at once gives the
line's own number; the two numbers are the same exactly if every line before it says something. -/
theorem lines_numbered_among_kept (ht : app.routesText = .ok text)
    (hn : app.router.table = none) :
    (∀ fault, fault.lineNumber? ≠ none →
      ((entries.run app).result = .error fault ↔
        ∃ before line after, physicalLines text = before ++ line :: after ∧ IsShort line ∧
          (∀ l ∈ before, ¬ IsShort l) ∧ fault = shortFault line (givenNumber before))) ∧
    (∀ fault, ((ofText text).run app).result = .error fault ↔
      ∃ before line after, physicalLines text = before ++ line :: after ∧ IsShort line ∧
        (∀ l ∈ before, ¬ IsShort l) ∧ fault = shortFault line (before.length + 1)) ∧
    (∀ message, .logged .warning message ∈ (entries.run app).events ↔
      ∃ before line after, physicalLines text = before ++ line :: after ∧
        (∀ l ∈ before, ¬ IsShort l) ∧ saysNothing line = false ∧ ∃ fs, Spells line fs ∧
          3 < fs.length ∧ message = extraMessage (fs.drop 3) (givenNumber before)) ∧
    ∀ before, givenNumber before = before.length + 1 ↔ ∀ l ∈ before, saysNothing l = false := by
  refine ⟨fun fault hf => result_entries_iff_short ht hn hf, fun fault => ?_,
    fun message => mem_events_entries_iff_extra ht hn, fun before => givenNumber_eq_iff⟩
  exact ofLines_fails_iff (physicalLines text) app fault

theorem lines_numbered_among_kept_empty_line :
    (withRoutes "\nGET /\n" []).routesText = .ok "\nGET /\n" ∧
    (entries.run (withRoutes "\nGET /\n" [])).result = .error (shortFault "GET /" 1) := by
  have ht : (withRoutes "\nGET /\n" []).routesText = .ok "\nGET /\n" := rfl
  obtain ⟨hr, -⟩ := lines_numbered_among_kept ht rfl
  have hs : IsShort "GET /" := by decide
  exact ⟨ht, (hr _ (by decide)).2 ⟨[[]], "GET /", [[]], rfl, hs, by decide, rfl⟩⟩

/-- The number in the fault of a router need not be the line's own: here the line is the second. -/
theorem not_forall_short_line_keeps_number :
    ¬ ∀ (app : Application) (text line : Text) (before after : List Text),
      app.routesText = .ok text → app.router.table = none →
        physicalLines text = before ++ line :: after → IsShort line →
          (∀ l ∈ before, ¬ IsShort l) →
            (entries.run app).result = .error (shortFault line (before.length + 1)) := by
  intro h
  have h := h (withRoutes "\nGET /\n" []) "\nGET /\n" "GET /" [[]] [[]] rfl rfl rfl
    (by decide) (by decide)
  have hr : (entries.run (withRoutes "\nGET /\n" [])).result = .error (shortFault "GET /" 1) := rfl
  rw [hr] at h
  exact absurd (Except.error.inj h) (by decide)

end Routing.Application
