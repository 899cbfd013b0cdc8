import Routing.Proofs.Pattern.Pieces

/-!
# Where a name occurs in a pattern

There are two ways to come to the placeholders of a name.  One goes through the pattern and takes
down every colon with all the word characters that follow it (`scanned`).  The other looks for a
colon and the name, and sees to it that no word character follows (`Occurs`); this is what filling
does, and it stops at the first.  Both find the same places, since a scan takes as much as it can and
a colon is no word character: `occurs_iff_mem_scanned`.  Main statement:
`fill_replaces_first_scanned`.
-/

namespace Routing.Pattern

/-- A colon and the name stand in a text between `before` and `after`, and no word character follows
them. -/
structure Occurs (name before after s : Text) : Prop where
  eq : s = before ++ (placeholder name ++ after)
  whole : startsWithWord after = false

/-- The text up to the end of a placeholder. -/
def Hole.upTo (hole : Hole) : Text := hole.before ++ placeholder hole.name

/-- The placeholders among some pieces in their places, `done` being the text before these. -/
def placed : (done : Text) → List Piece → List Hole
  | _, [] => []
  | done, .char c :: ps => placed (done ++ [c]) ps
  | done, .hole name :: ps => ⟨done, name, spelled ps⟩ :: placed (done ++ placeholder name) ps

/-- The placeholders of a pattern in their places, from left to right. -/
def scanned (s : Text) : List Hole := placed [] (pieces s)

variable {key name before after s t : Text} {ps qs : List Piece} {hole : Hole}

/-! ### Places in a row of pieces -/

theorem names_placed (done : Text) (ps : List Piece) :
    (placed done ps).map Hole.name = holes ps := by
  induction ps generalizing done with
  | nil => rfl
  | cons p ps ih =>
    cases p with
    | char c => exact ih (done ++ [c])
    | hole name => exact congrArg (name :: ·) (ih (done ++ placeholder name))

/-- A placeholder stands after the text of the pieces before it and before that of the others. -/
theorem mem_placed_iff {done : Text} : hole ∈ placed done ps ↔
    ∃ ps₁ ps₂, ps = ps₁ ++ .hole hole.name :: ps₂ ∧ hole.before = done ++ spelled ps₁ ∧
      hole.after = spelled ps₂ := by
  induction ps generalizing done with
  | nil => simp [placed]
  | cons p ps ih =>
    cases p with
    | char c =>
      rw [placed, ih]
      constructor
      · rintro ⟨ps₁, ps₂, rfl, hb, ha⟩
        refine ⟨.char c :: ps₁, ps₂, rfl, ?_, ha⟩
        simp [hb]
      · rintro ⟨ps₁, ps₂, he, hb, ha⟩
        cases ps₁ with
        | nil => exact nomatch he
        | cons q ps₁ =>
          obtain ⟨rfl, rfl⟩ := List.cons.inj he
          refine ⟨ps₁, ps₂, rfl, ?_, ha⟩
          simp [hb]
    | hole name =>
      rw [placed, List.mem_cons, ih]
      constructor
      · rintro (rfl | ⟨ps₁, ps₂, rfl, hb, ha⟩)
        · exact ⟨[], ps, rfl, by simp, rfl⟩
        · refine ⟨.hole name :: ps₁, ps₂, rfl, ?_, ha⟩
          simp [hb]
      · rintro ⟨ps₁, ps₂, he, hb, ha⟩
        cases ps₁ with
        | nil =>
          obtain ⟨hn, rfl⟩ := List.cons.inj he
          obtain rfl := Piece.hole.inj hn
          left
          cases hole
          simp_all
        | cons q ps₁ =>
          obtain ⟨rfl, rfl⟩ := List.cons.inj he
          right
          refine ⟨ps₁, ps₂, rfl, ?_, ha⟩
          simp [hb]

/-- Before a placeholder among some pieces there are those of the pieces before it, each with its
end. -/
theorem exists_placed_append_cons (done : Text) (ps₁ : List Piece) (name : Text)
    (ps₂ : List Piece) : ∃ earlier, placed done (ps₁ ++ .hole name :: ps₂) =
      earlier ++ ⟨done ++ spelled ps₁, name, spelled ps₂⟩ ::
        placed (done ++ spelled ps₁ ++ placeholder name) ps₂ ∧
      earlier.map Hole.name = holes ps₁ ∧
      ∀ other ∈ earlier, other.upTo <+: done ++ spelled ps₁ := by
  induction ps₁ generalizing done with
  | nil => exact ⟨[], by simp [placed], rfl, by simp⟩
  | cons p ps₁ ih =>
    cases p with
    | char c =>
      obtain ⟨earlier, he, hn, hu⟩ := ih (done ++ [c])
      refine ⟨earlier, ?_, hn, ?_⟩
      · simpa [placed] using he
      · simpa using hu
    | hole other =>
      obtain ⟨earlier, he, hn, hu⟩ := ih (done ++ placeholder other)
      let first : Hole := ⟨done, other, spelled (ps₁ ++ .hole name :: ps₂)⟩
      refine ⟨first :: earlier, ?_, ?_, ?_⟩
      · simpa [placed, first] using he
      · exact congrArg (other :: ·) hn
      · have hfirst : first.upTo <+: done ++ (placeholder other ++ spelled ps₁) := by
          refine ⟨spelled ps₁, ?_⟩
          simp [Hole.upTo, first]
        intro hole hm
        rcases List.mem_cons.1 hm with rfl | hm
        · exact hfirst
        · simpa using hu hole hm

/-- What stands among some pieces begins after what is before them. -/
theorem isPrefix_before_of_mem_placed {done : Text} (h : hole ∈ placed done ps) :
    done <+: hole.before := by
  obtain ⟨ps₁, -, -, hb, -⟩ := mem_placed_iff.1 h
  rw [hb]
  exact List.prefix_append done (spelled ps₁)

/-! ### Two ways to find a place -/

theorem names_scanned (s : Text) : (scanned s).map Hole.name = names s := by
  rw [scanned, names_placed, holes_pieces]

theorem eq_of_mem_scanned (h : hole ∈ scanned s) : s = hole.upTo ++ hole.after := by
  obtain ⟨ps₁, ps₂, hs, hb, ha⟩ := mem_placed_iff.1 h
  have hsp : s = spelled (ps₁ ++ .hole hole.name :: ps₂) := by rw [← hs, spelled_pieces]
  rw [hsp, Hole.upTo, hb, ha]
  simp

/-- A name occurs exactly where the scan finds a placeholder that bears it. -/
theorem occurs_iff_mem_scanned (hk : IsName key) :
    Occurs key before after s ↔ ⟨before, key, after⟩ ∈ scanned s := by
  unfold scanned
  rw [mem_placed_iff]
  constructor
  · rintro ⟨rfl, hw⟩
    -- the pieces of the text are those of its parts, as the name goes as far as it can
    have hp : pieces (before ++ (placeholder key ++ after)) =
        pieces before ++ .hole key :: pieces after := by
      have hspelled : startsWithWord (spelled (pieces after)) = false := by
        rw [spelled_pieces]
        exact hw
      have happend := pieces_append_placeholder before hk hspelled (isReading_pieces after)
      rwa [spelled_pieces] at happend
    exact ⟨pieces before, pieces after, hp, by simp, by simp⟩
  · rintro ⟨ps₁, ps₂, hs, hb, ha⟩
    have hr := isReading_pieces s
    rw [hs] at hr
    have hsp : s = spelled (ps₁ ++ .hole key :: ps₂) := by rw [← hs, spelled_pieces]
    have hw : startsWithWord (spelled ps₂) = false := by
      cases hr.of_append_right with
      | hole _ hw _ => exact hw
    simp only [List.nil_append] at hb ha
    subst hb ha
    refine ⟨?_, hw⟩
    rw [hsp]
    simp

/-- A name that no placeholder bears is not met. -/
theorem fill_of_not_mem (hk : IsName key) (h : key ∉ names s) : fill key t s = s := by
  have hf : fill key t (s ++ []) = s ++ fill key t [] := fill_append_right hk h rfl
  simpa [fill] using hf

/-- Filling puts its text in place of the first placeholder of the name, whatever the text is, and of
no part of another one. -/
theorem exists_scanned_fill (h : key ∈ names s) : ∃ earlier hole later,
    scanned s = earlier ++ hole :: later ∧ hole.name = key ∧
      (∀ other ∈ earlier, other.name ≠ key ∧ other.upTo <+: hole.before) ∧
      (∀ other ∈ later, hole.upTo <+: other.before) ∧
      ∀ value, fill key value s = hole.before ++ (value ++ hole.after) := by
  have hm : key ∈ holes (pieces s) := by rwa [holes_pieces]
  obtain ⟨ps₁, ps₂, hs, hb, -⟩ := exists_fill_spelled (isReading_pieces s) hm []
  have hk : IsName key := isName_of_mem_names h
  have hsp : s = spelled ps₁ ++ (placeholder key ++ spelled ps₂) := by
    have := congrArg spelled hs
    simpa using this
  have hr := isReading_pieces s
  rw [hs] at hr
  have hw : startsWithWord (spelled ps₂) = false := by
    cases hr.of_append_right with
    | hole _ hw _ => exact hw
  obtain ⟨earlier, he, hn, hu⟩ := exists_placed_append_cons [] ps₁ key ps₂
  rw [List.nil_append] at he hu
  refine ⟨earlier, ⟨spelled ps₁, key, spelled ps₂⟩, placed (spelled ps₁ ++ placeholder key) ps₂,
    ?_, rfl, ?_, ?_, ?_⟩
  · rw [scanned, hs, he]
  · intro other ho
    have ho' : other.name ∈ holes ps₁ := by
      rw [← hn]
      exact List.mem_map.2 ⟨other, ho, rfl⟩
    refine ⟨?_, hu other ho⟩
    rintro rfl
    exact hb ho'
  · intro other ho
    exact isPrefix_before_of_mem_placed ho
  · intro value
    have hbefore : key ∉ names (spelled ps₁) := by rwa [names_spelled hr.of_append]
    rw [hsp, fill_append_of_not_mem hk hbefore hw]

/-- Filling a name and scanning for placeholders agree on where placeholders are.  The name occurs
exactly at the placeholders of the scan that bear it, so that filling finds something to replace
exactly if there is one; and then it puts its text, whatever that is, in place of the first of them.
All others stay as they are, whole, before or after it. -/
theorem fill_replaces_first_scanned (hk : IsName key) (url : Text) :
    (scanned url).map Hole.name = names url ∧
    (∀ hole ∈ scanned url, url = hole.upTo ++ hole.after) ∧
    (∀ before after, Occurs key before after url ↔ ⟨before, key, after⟩ ∈ scanned url) ∧
    ((∃ value, fill key value url ≠ url) ↔ key ∈ names url) ∧
    (key ∈ names url → ∃ earlier hole later, scanned url = earlier ++ hole :: later ∧
      hole.name = key ∧ (∀ other ∈ earlier, other.name ≠ key ∧ other.upTo <+: hole.before) ∧
      (∀ other ∈ later, hole.upTo <+: other.before) ∧
      ∀ value, fill key value url = hole.before ++ (value ++ hole.after)) := by
  refine ⟨names_scanned url, fun hole h => eq_of_mem_scanned h,
    fun before after => occurs_iff_mem_scanned hk, ?_, exists_scanned_fill⟩
  constructor
  · rintro ⟨value, hne⟩
    by_contra hm
    exact hne (fill_of_not_mem hk hm)
  · intro hm
    obtain ⟨earlier, hole, later, hs, hn, -, -, hf⟩ := exists_scanned_fill hm
    have hmem : hole ∈ scanned url := by simp [hs]
    have hurl := eq_of_mem_scanned hmem
    refine ⟨[], fun he => ?_⟩
    -- nothing in place of the placeholder leaves a shorter text
    have hlen := congrArg List.length (he.symm.trans (hf []))
    rw [hurl, Hole.upTo, hn] at hlen
    simp [placeholder] at hlen
    omega

/-- One name begins another, colons follow one another, and the text brings a placeholder of its
own. -/
theorem fill_replaces_first_scanned_prefixes :
    IsName "a" ∧
    scanned "/:ab:a::a" =
      [⟨"/", "ab", ":a::a"⟩, ⟨"/:ab", "a", "::a"⟩, ⟨"/:ab:a:", "a", []⟩] ∧
    Occurs "a" "/:ab:a:" [] "/:ab:a::a" ∧ ¬ Occurs "a" "/" "b:a::a" "/:ab:a::a" ∧
    ∃ hole ∈ scanned "/:ab:a::a", hole.name = "a".toList ∧
      fill "a" ":a" "/:ab:a::a" = hole.before ++ (":a" ++ hole.after) := by
  have hk : IsName "a" := ⟨by decide, List.all_eq_true.1 (by decide)⟩
  obtain ⟨-, -, hoccurs, -, hfill⟩ := fill_replaces_first_scanned hk "/:ab:a::a"
  obtain ⟨earlier, hole, later, hs, hn, -, -, hf⟩ := hfill (by decide)
  refine ⟨hk, by decide, (hoccurs _ _).2 (by decide), ?_, hole, ?_, hn, hf ":a"⟩
  · rw [hoccurs]
    decide
  · rw [hs]
    simp

end Routing.Pattern
