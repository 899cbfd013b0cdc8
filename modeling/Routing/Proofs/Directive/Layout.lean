import Mathlib.Data.List.Forall2
import Routing.Proofs.Directive.Lines

/-!
# Layouts

A layout is a way of writing routes as a text: each on a line of its own, with any gaps around and
between its fields and any fields after the third, and between such lines any number of remarks and
empty lines.  A line ends with a line feed or with a carriage return and a line feed; the last one
need not end.  Main statement: `layout_reads_back` (every layout gives back its routes, each with
the number of its line, and a text is refused exactly at its first short line).
-/

namespace Routing.Directive

variable {σ : Type}

/-- How a line ends. -/
inductive LineEnd where
  | feed
  | returnFeed

/-- What stands between a line and the line feed at its end. -/
def LineEnd.text : LineEnd → Text
  | .feed => []
  | .returnFeed => ['\r']

/-- A route written on a line of its own. -/
structure RouteLine where
  verb : Text
  path : Text
  target : Text
  extra : List Text
  line : Text
  spells : Spells line (verb :: path :: target :: extra)
  oneLine : '\n' ∉ line
  noRemark : line.head? ≠ some '#'

/-- What may stand on a line of a layout. -/
inductive Row where
  | empty
  | remark (s : Text) (oneLine : '\n' ∉ s)
  | route (r : RouteLine)

namespace Row

def text : Row → Text
  | empty => []
  | remark s _ => '#' :: s
  | route r => r.line

/-- The directive on a row that is the `n`-th line. -/
def directive? (n : Nat) : Row → Option Directive
  | route r => some ⟨n, r.verb, r.path, r.target⟩
  | _ => none

end Row

/-- Rows with their ends, and a last row that lacks its end.  If the text ends with a line end, the
last row is empty. -/
structure Layout where
  rows : List (Row × LineEnd)
  last : Row

namespace Layout

def text (l : Layout) : Text :=
  l.rows.flatMap (fun p => p.1.text ++ p.2.text ++ ['\n']) ++ l.last.text

/-- All rows, from the first line to the last. -/
def allRows (l : Layout) : List Row := l.rows.map Prod.fst ++ [l.last]

/-- The routes of a layout, each with the number of its line. -/
def directives (l : Layout) : List Directive :=
  (l.allRows.zipIdx 1).filterMap fun p => p.1.directive? p.2

end Layout

/-! ### What is left of a row when its line is read -/

/-- What a line has to be for a row. -/
def Row.IsReadAs (line : Text) : Row → Prop
  | empty => saysNothing line = true
  | remark _ _ => saysNothing line = true
  | route r => saysNothing line = false ∧ fields line = r.verb :: r.path :: r.target :: r.extra

theorem Row.not_mem_text (r : Row) : '\n' ∉ r.text := by
  cases r with
  | empty => exact List.not_mem_nil
  | remark s h => simpa [text] using h
  | route r => exact r.oneLine

theorem LineEnd.not_mem_text (e : LineEnd) : '\n' ∉ e.text := by
  cases e <;> decide

theorem dropReturn_prefix (s : Text) : dropReturn s <+: s := by
  unfold dropReturn
  split
  · exact List.dropLast_prefix s
  · exact List.prefix_rfl

/-- The fields of a line do not depend on how it ends. -/
theorem fields_append_end (s : Text) (e : LineEnd) : fields (s ++ e.text) = fields s := by
  cases e with
  | feed => exact congrArg fields (List.append_nil s)
  | returnFeed =>
    rw [LineEnd.text, fields_append_cons (by decide)]
    exact List.append_nil _

theorem RouteLine.isReadAs (r : RouteLine) (e : LineEnd) :
    (Row.route r).IsReadAs (dropReturn (r.line ++ e.text)) := by
  have hf : fields (dropReturn (r.line ++ e.text)) = r.verb :: r.path :: r.target :: r.extra := by
    rw [fields_dropReturn, fields_append_end, spells_iff.1 r.spells]
  refine ⟨?_, hf⟩
  -- the line keeps its first character, since it has fields
  cases hd : dropReturn (r.line ++ e.text) with
  | nil => simp [hd, fields] at hf
  | cons c cs =>
    obtain ⟨rest, hr⟩ := dropReturn_prefix (r.line ++ e.text)
    rw [hd, List.cons_append] at hr
    cases hl : r.line with
    | nil =>
      have hs := spells_iff.1 r.spells
      rw [hl] at hs
      simp [fields] at hs
    | cons d ds =>
      have hn := r.noRemark
      rw [hl] at hr hn
      obtain ⟨rfl, -⟩ := List.cons_eq_cons.1 hr
      simpa [saysNothing] using hn

theorem Row.isReadAs (r : Row) (e : LineEnd) : r.IsReadAs (dropReturn (r.text ++ e.text)) := by
  cases r with
  | empty => cases e <;> rfl
  | remark s h =>
    show saysNothing (dropReturn ('#' :: s ++ e.text)) = true
    cases hd : dropReturn ('#' :: s ++ e.text) with
    | nil => rfl
    | cons c cs =>
      obtain ⟨rest, hr⟩ := dropReturn_prefix ('#' :: s ++ e.text)
      rw [hd, List.cons_append, List.cons_append] at hr
      obtain ⟨rfl, -⟩ := List.cons_eq_cons.1 hr
      rfl
  | route r => exact r.isReadAs e

/-! ### The lines of a layout -/

theorem physicalLines_append_cons {s : Text} (hs : '\n' ∉ s) (rest : Text) :
    physicalLines (s ++ '\n' :: rest) = dropReturn s :: physicalLines rest := by
  have hp : ∀ c ∈ s, (c == '\n') = false := fun c hc => by
    have : c ≠ '\n' := fun h => hs (h ▸ hc)
    simpa using this
  unfold physicalLines Text.splitAt
  rw [Text.splitWhen_append_cons (by decide), Text.splitWhen_of_forall hp]
  rfl

theorem physicalLines_of_not_mem {s : Text} (hs : '\n' ∉ s) : physicalLines s = [dropReturn s] := by
  have hp : ∀ c ∈ s, (c == '\n') = false := fun c hc => by
    have : c ≠ '\n' := fun h => hs (h ▸ hc)
    simpa using this
  unfold physicalLines Text.splitAt
  rw [Text.splitWhen_of_forall hp]
  rfl

/-- The lines of a layout are its rows, one for one. -/
theorem Layout.forall₂_isReadAs (l : Layout) :
    List.Forall₂ (fun r line => Row.IsReadAs line r) l.allRows (physicalLines l.text) := by
  obtain ⟨rows, last⟩ := l
  unfold allRows text
  induction rows with
  | nil =>
    rw [List.flatMap_nil, List.nil_append, physicalLines_of_not_mem last.not_mem_text]
    have h := last.isReadAs .feed
    rw [LineEnd.text, List.append_nil] at h
    exact .cons h .nil
  | cons p rows ih =>
    obtain ⟨r, e⟩ := p
    have hn : '\n' ∉ r.text ++ e.text := by
      rw [List.mem_append, not_or]
      exact ⟨r.not_mem_text, e.not_mem_text⟩
    rw [List.flatMap_cons, List.append_assoc, List.append_assoc, List.cons_append, List.nil_append,
      physicalLines_append_cons hn]
    exact .cons (r.isReadAs e) ih

/-- Rows that are read as some lines give these lines' directives. -/
theorem directives_of_forall₂ {rows : List Row} {lines : List Text}
    (h : List.Forall₂ (fun r line => Row.IsReadAs line r) rows lines) (n : Nat) :
    (((numberFrom n lines).filter fun p => !saysNothing p.2).filterMap directive?) =
      (rows.zipIdx n).filterMap fun p => p.1.directive? p.2 := by
  induction h generalizing n with
  | nil => rfl
  | @cons r line rows lines hr _ ih =>
    rw [numberFrom, List.zipIdx_cons]
    cases r with
    | empty =>
      have hs : saysNothing line = true := hr
      simp [hs, ih, Row.directive?]
    | remark s hn =>
      have hs : saysNothing line = true := hr
      simp [hs, ih, Row.directive?]
    | route r =>
      have hs : saysNothing line = false := hr.1
      have hd : directive? (n, line) = some ⟨n, r.verb, r.path, r.target⟩ := by
        simp [directive?, hr.2]
      simp [hs, hd, ih, Row.directive?]

theorem not_isShort_of_isReadAs {r : Row} {line : Text} (h : r.IsReadAs line) :
    ¬ IsShort line := by
  rw [isShort_iff]
  rintro ⟨hs, hl⟩
  cases r with
  | empty =>
    have : saysNothing line = true := h
    simp [this] at hs
  | remark s hn =>
    have : saysNothing line = true := h
    simp [this] at hs
  | route r =>
    rw [h.2] at hl
    simp only [List.length_cons] at hl
    omega

theorem not_isShort_of_forall₂ {rows : List Row} {lines : List Text}
    (h : List.Forall₂ (fun r line => Row.IsReadAs line r) rows lines) :
    ∀ line ∈ lines, ¬ IsShort line := by
  induction h with
  | nil => exact fun line hl => absurd hl List.not_mem_nil
  | cons hr _ ih => exact List.forall_mem_cons.2 ⟨not_isShort_of_isReadAs hr, ih⟩

/-! ### Whole texts -/

theorem result_of_layout (l : Layout) (s : σ) :
    ((ofText l.text).run s).result = .ok l.directives := by
  have h := l.forall₂_isReadAs
  unfold ofText
  rw [run_ofLines_of_complete (not_isShort_of_forall₂ h)]
  exact congrArg Except.ok (directives_of_forall₂ h 1)

/-- Every layout gives back its routes in order, each with the number of its line.  A text gives
directives exactly if each of its lines that says something has three fields or more, and otherwise
the fault has the text and the number of the first line that has not. -/
theorem layout_reads_back (s : σ) :
    (∀ l : Layout, ((ofText l.text).run s).result = .ok l.directives) ∧
    ∀ text : Text,
      ((∃ ds, ((ofText text).run s).result = .ok ds) ↔
        ∀ line ∈ physicalLines text, saysNothing line = false →
          ∃ fs, Spells line fs ∧ 3 ≤ fs.length) ∧
      ∀ fault, ((ofText text).run s).result = .error fault ↔
        ∃ before line after, physicalLines text = before ++ line :: after ∧ IsShort line ∧
          (∀ l ∈ before, ¬ IsShort l) ∧ fault = shortFault line (before.length + 1) := by
  refine ⟨fun l => result_of_layout l s, fun text => ⟨?_, ofLines_fails_iff _ s⟩⟩
  unfold ofText
  rw [ofLines_succeeds_iff]
  refine forall₂_congr fun line _ => ?_
  rw [isShort_iff, not_and, Nat.not_lt]
  simp only [spells_iff, exists_eq_left']

/-- A route with gaps of several kinds and a fourth field. -/
def gappedLine : RouteLine where
  verb := "GET"
  path := "/a"
  target := "a.b"
  extra := ["c"]
  line := " GET\t/a  a.b c\r"
  spells := spells_iff.2 (by decide)
  oneLine := by decide
  noRemark := by decide

/-- A route whose verb looks like a remark; its line has no end. -/
def markedLine : RouteLine where
  verb := "#x"
  path := "/b"
  target := "b.c"
  extra := []
  line := " #x /b b.c"
  spells := spells_iff.2 (by decide)
  oneLine := by decide
  noRemark := by decide

/-- A remark, an empty line and two routes. -/
def fourRows : Layout :=
  ⟨[(.remark " all" (by decide), .returnFeed), (.empty, .feed), (.route gappedLine, .returnFeed)],
    .route markedLine⟩

/-- Remarks and empty lines count, and a mark that is not in the first column makes no remark. -/
theorem layout_reads_back_four_rows :
    fourRows.text = "# all\r\n\n GET\t/a  a.b c\r\r\n #x /b b.c" ∧
    ((ofText fourRows.text).run ()).result =
      .ok [⟨3, "GET", "/a", "a.b"⟩, ⟨4, "#x", "/b", "b.c"⟩] :=
  ⟨rfl, (layout_reads_back ()).1 fourRows⟩

end Routing.Directive
