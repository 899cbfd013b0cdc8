import Routing.Pattern
import Mathlib.Data.List.Chain

/-!
# Patterns as pieces

A pattern is read as a row of pieces: characters that stand for themselves, and placeholders, which
go as far as they can.  A row of pieces is a *reading* if its text is read as that very row, which
may fail where neighbours run together: a colon and a letter, or a placeholder and a letter.  Every
text has one reading (`exists_isReading`, `pieces_spelled`), and along it the scans of a pattern can
be told piece by piece: `names_spelled`, `fillFirst_placeholder` and, for the first placeholder of a
given name, `fill_append_of_mem` and `fill_append_of_not_mem`.
-/

namespace Routing.Pattern

/-- What a pattern is made of. -/
inductive Piece where
  /-- A character that stands for itself. -/
  | char (c : Char)
  /-- A placeholder. -/
  | hole (name : Text)
  deriving DecidableEq

namespace Piece

/-- A piece as it stands in a pattern. -/
def text : Piece → Text
  | .char c => [c]
  | .hole name => placeholder name

def name? : Piece → Option Text
  | .char _ => none
  | .hole name => some name

def isHole : Piece → Bool
  | .char _ => false
  | .hole _ => true

end Piece

/-- A text as pieces that all stand for themselves. -/
def literal (s : Text) : List Piece := s.map Piece.char

/-- The text of some pieces. -/
def spelled (ps : List Piece) : Text := ps.flatMap Piece.text

/-- The names of the placeholders among some pieces. -/
def holes (ps : List Piece) : List Text := ps.filterMap Piece.name?

/-- The pieces of a pattern.  Those that come after a placeholder are among the pieces of what comes
after its colon, behind the characters of the name. -/
def pieces : Text → List Piece
  | [] => []
  | c :: cs =>
    if c = ':' ∧ cs.takeWhile Text.isWord ≠ [] then
      .hole (cs.takeWhile Text.isWord) :: (pieces cs).drop (cs.takeWhile Text.isWord).length
    else .char c :: pieces cs

/-- A name that a placeholder may bear. -/
structure IsName (name : Text) : Prop where
  ne_nil : name ≠ []
  isWord : ∀ c ∈ name, Text.isWord c = true

/-- The text of the pieces is read as these pieces. -/
inductive IsReading : List Piece → Prop where
  | nil : IsReading []
  | char {c : Char} {ps : List Piece} :
      (c = ':' → startsWithWord (spelled ps) = false) → IsReading ps → IsReading (.char c :: ps)
  | hole {name : Text} {ps : List Piece} :
      IsName name → startsWithWord (spelled ps) = false → IsReading ps →
        IsReading (.hole name :: ps)

/-! ### Texts and names of rows of pieces -/

section Rows

variable (c : Char) (name s : Text) (ps qs : List Piece)

@[simp] theorem spelled_nil : spelled [] = [] := rfl

@[simp] theorem spelled_char : spelled (.char c :: ps) = c :: spelled ps := rfl

@[simp] theorem spelled_hole : spelled (.hole name :: ps) = placeholder name ++ spelled ps := rfl

@[simp] theorem spelled_append : spelled (ps ++ qs) = spelled ps ++ spelled qs :=
  List.flatMap_append

@[simp] theorem spelled_literal : spelled (literal s) = s := by
  induction s with
  | nil => rfl
  | cons c cs ih => exact congrArg (c :: ·) ih

@[simp] theorem holes_nil : holes [] = [] := rfl

@[simp] theorem holes_char : holes (.char c :: ps) = holes ps := rfl

@[simp] theorem holes_hole : holes (.hole name :: ps) = name :: holes ps := rfl

@[simp] theorem holes_append : holes (ps ++ qs) = holes ps ++ holes qs := List.filterMap_append

@[simp] theorem holes_literal : holes (literal s) = [] := by
  induction s with
  | nil => rfl
  | cons c cs ih => exact ih

end Rows

/-! ### Where a name ends -/

variable {c : Char} {name key s t rest : Text} {ps qs : List Piece}

theorem takeWhile_eq_nil_of (h : startsWithWord s = false) : s.takeWhile Text.isWord = [] := by
  cases s with
  | nil => rfl
  | cons c cs => exact List.takeWhile_cons_of_neg (by simpa [startsWithWord] using h)

theorem startsWithWord_of_takeWhile (h : s.takeWhile Text.isWord = []) :
    startsWithWord s = false := by
  cases s with
  | nil => rfl
  | cons c cs =>
    by_cases hc : Text.isWord c = true
    · rw [List.takeWhile_cons_of_pos hc] at h
      exact absurd h (List.cons_ne_nil _ _)
    · simpa [startsWithWord] using hc

theorem startsWithWord_append (hs : startsWithWord s = false) (ht : startsWithWord t = false) :
    startsWithWord (s ++ t) = false := by
  cases s with
  | nil => exact ht
  | cons c cs => exact hs

theorem startsWithWord_of_append (h : startsWithWord (s ++ t) = false) :
    startsWithWord s = false := by
  cases s with
  | nil => rfl
  | cons c cs => exact h

theorem startsWithWord_placeholder (name rest : Text) :
    startsWithWord (placeholder name ++ rest) = false := Text.isWord_colon

theorem ne_colon_of_isWord (h : Text.isWord c = true) : c ≠ ':' := by
  rintro rfl
  exact absurd h (by simp [Text.isWord_colon])

theorem IsName.takeWhile_append (hn : IsName name) (hr : startsWithWord rest = false) :
    (name ++ rest).takeWhile Text.isWord = name := by
  rw [List.takeWhile_append_of_pos hn.isWord, takeWhile_eq_nil_of hr, List.append_nil]

theorem IsName.startsWithWord_append (hn : IsName name) (rest : Text) :
    startsWithWord (name ++ rest) = true := by
  obtain ⟨c, cs, rfl⟩ := List.exists_cons_of_ne_nil hn.ne_nil
  exact hn.isWord c List.mem_cons_self

theorem isName_takeWhile (h : s.takeWhile Text.isWord ≠ []) : IsName (s.takeWhile Text.isWord) :=
  ⟨h, fun _ hc => isWord_of_mem_takeWhile hc⟩

/-! ### The reading of a text -/

/-- A colon and no name is a character. -/
theorem not_placeholder (h : c = ':' → startsWithWord s = false) :
    ¬ (c = ':' ∧ s.takeWhile Text.isWord ≠ []) :=
  fun ⟨hc, hs⟩ => hs (takeWhile_eq_nil_of (h hc))

theorem pieces_words {w : Text} (hw : ∀ c ∈ w, Text.isWord c = true) (s : Text) :
    pieces (w ++ s) = literal w ++ pieces s := by
  induction w with
  | nil => rfl
  | cons c w ih =>
    have hc : c ≠ ':' := ne_colon_of_isWord (hw c List.mem_cons_self)
    rw [List.cons_append, pieces, if_neg fun h => hc h.1,
      ih fun d hd => hw d (List.mem_cons_of_mem c hd)]
    rfl

theorem pieces_char (h : c = ':' → startsWithWord s = false) :
    pieces (c :: s) = .char c :: pieces s := by
  rw [pieces, if_neg (not_placeholder h)]

theorem pieces_placeholder (hn : IsName name) (hr : startsWithWord rest = false) :
    pieces (placeholder name ++ rest) = .hole name :: pieces rest := by
  have ht := hn.takeWhile_append hr
  rw [placeholder, List.cons_append, pieces, ht, if_pos ⟨rfl, hn.ne_nil⟩,
    pieces_words hn.isWord rest]
  have hl : (literal name).length = name.length := List.length_map _
  rw [← hl, List.drop_left]

theorem pieces_spelled (h : IsReading ps) : pieces (spelled ps) = ps := by
  induction h with
  | nil => rfl
  | char hc _ ih => rw [spelled_char, pieces_char hc, ih]
  | hole hn hr _ ih => rw [spelled_hole, pieces_placeholder hn hr, ih]

theorem exists_isReading : ∀ s : Text, ∃ ps, IsReading ps ∧ spelled ps = s
  | [] => ⟨[], .nil, rfl⟩
  | c :: cs => by
    by_cases h : c = ':' ∧ cs.takeWhile Text.isWord ≠ []
    · obtain ⟨ps, hr, hs⟩ := exists_isReading (cs.dropWhile Text.isWord)
      refine ⟨.hole (cs.takeWhile Text.isWord) :: ps, .hole (isName_takeWhile h.2) ?_ hr, ?_⟩
      · rw [hs]
        exact startsWithWord_dropWhile cs
      · rw [spelled_hole, hs, placeholder, List.cons_append, List.takeWhile_append_dropWhile, h.1]
    · obtain ⟨ps, hr, hs⟩ := exists_isReading cs
      refine ⟨.char c :: ps, .char (fun hc => ?_) hr, by rw [spelled_char, hs]⟩
      rw [hs]
      exact startsWithWord_of_takeWhile (not_not.1 fun hw => h ⟨hc, hw⟩)
termination_by s => s.length
decreasing_by
  · exact Nat.lt_succ_of_le (List.dropWhile_sublist _).length_le
  · exact Nat.lt_succ_self _

theorem isReading_pieces (s : Text) : IsReading (pieces s) := by
  obtain ⟨ps, hr, rfl⟩ := exists_isReading s
  rw [pieces_spelled hr]
  exact hr

@[simp] theorem spelled_pieces (s : Text) : spelled (pieces s) = s := by
  obtain ⟨ps, hr, rfl⟩ := exists_isReading s
  rw [pieces_spelled hr]

/-- What is read up to some place does not depend on what comes after it. -/
theorem IsReading.of_append (h : IsReading (ps ++ qs)) : IsReading ps := by
  induction ps with
  | nil => exact .nil
  | cons p ps ih =>
    rw [List.cons_append] at h
    cases h with
    | char hc h =>
      rw [spelled_append] at hc
      exact .char (fun he => startsWithWord_of_append (hc he)) (ih h)
    | hole hn hs h =>
      rw [spelled_append] at hs
      exact .hole hn (startsWithWord_of_append hs) (ih h)

theorem IsReading.of_append_right (h : IsReading (ps ++ qs)) : IsReading qs := by
  induction ps with
  | nil => exact h
  | cons p ps ih =>
    rw [List.cons_append] at h
    cases h with
    | char _ h => exact ih h
    | hole _ _ h => exact ih h

/-- Readings can stand side by side unless the second begins in the middle of a word. -/
theorem IsReading.append (hp : IsReading ps) (hq : IsReading qs)
    (hs : startsWithWord (spelled qs) = false) : IsReading (ps ++ qs) := by
  induction hp with
  | nil => exact hq
  | char hc _ ih =>
    rw [List.cons_append]
    refine .char (fun he => ?_) ih
    rw [spelled_append]
    exact startsWithWord_append (hc he) hs
  | hole hn hr _ ih =>
    rw [List.cons_append]
    refine .hole hn ?_ ih
    rw [spelled_append]
    exact startsWithWord_append hr hs

/-- Text with no colon in it can stand before anything. -/
theorem IsReading.literal_append (h : IsReading ps) (hs : ':' ∉ s) :
    IsReading (literal s ++ ps) := by
  induction s with
  | nil => exact h
  | cons c cs ih =>
    rw [List.mem_cons, not_or] at hs
    exact .char (fun hc => absurd hc.symm hs.1) (ih hs.2)

/-- A character that no placeholder is made of stands for itself wherever it stands. -/
theorem IsReading.mem_spelled_iff (h : IsReading ps) (hw : Text.isWord c = false) (hc : c ≠ ':') :
    c ∈ spelled ps ↔ .char c ∈ ps := by
  induction h with
  | nil => simp
  | char _ _ ih => simp [ih]
  | @hole name ps hn _ _ ih =>
    have hm : c ∉ placeholder name := by
      rw [placeholder, List.mem_cons, not_or]
      exact ⟨hc, fun hm => by simp [hn.isWord c hm] at hw⟩
    simp [ih, hm]

/-! ### Scans along a reading -/

theorem names_words {w : Text} (hw : ∀ c ∈ w, Text.isWord c = true) (s : Text) :
    names (w ++ s) = names s := by
  induction w with
  | nil => rfl
  | cons c w ih =>
    have hc : c ≠ ':' := ne_colon_of_isWord (hw c List.mem_cons_self)
    rw [List.cons_append, names, if_neg fun h => hc h.1,
      ih fun d hd => hw d (List.mem_cons_of_mem c hd)]

theorem names_spelled (h : IsReading ps) : names (spelled ps) = holes ps := by
  induction h with
  | nil => rfl
  | char hc _ ih => rw [spelled_char, names, if_neg (not_placeholder hc), ih, holes_char]
  | hole hn hr _ ih =>
    have ht := hn.takeWhile_append hr
    rw [spelled_hole, placeholder, List.cons_append, names, ht, if_pos ⟨rfl, hn.ne_nil⟩,
      names_words hn.isWord, ih, holes_hole]

theorem holes_pieces (s : Text) : holes (pieces s) = names s := by
  rw [← names_spelled (isReading_pieces s), spelled_pieces]

theorem isName_of_mem_names (h : name ∈ names s) : IsName name := by
  obtain ⟨ps, hr, rfl⟩ := exists_isReading s
  rw [names_spelled hr] at h
  induction hr with
  | nil => exact absurd h List.not_mem_nil
  | char _ _ ih => exact ih h
  | hole hn _ _ ih =>
    rcases List.mem_cons.1 h with rfl | h
    · exact hn
    · exact ih h

theorem fillFirst_char (h : c = ':' → startsWithWord s = false) :
    fillFirst t (c :: s) = c :: fillFirst t s := by
  unfold fillFirst
  rw [first?, if_neg (not_placeholder h)]
  cases first? s <;> rfl

theorem fillFirst_placeholder (hn : IsName name) (hr : startsWithWord rest = false) :
    fillFirst t (placeholder name ++ rest) = t ++ rest := by
  have ht := hn.takeWhile_append hr
  have hd : (name ++ rest).dropWhile Text.isWord = rest := by
    have := @List.takeWhile_append_dropWhile _ Text.isWord (name ++ rest)
    rw [ht] at this
    exact List.append_cancel_left this
  unfold fillFirst
  rw [placeholder, List.cons_append, first?, ht, if_pos ⟨rfl, hn.ne_nil⟩, hd]
  rfl

theorem fill_char (hk : IsName key) (h : c = ':' → startsWithWord s = false) :
    fill key t (c :: s) = c :: fill key t s := by
  rw [fill]
  split
  · rename_i r hr
    obtain ⟨hc, hs⟩ : c = ':' ∧ s = key ++ r := List.cons.inj (Text.dropPrefix?_eq_some_iff.1 hr)
    have hw := h hc
    rw [hs, hk.startsWithWord_append r] at hw
    exact nomatch hw
  · rfl

theorem fill_words (hk : IsName key) {w : Text} (hw : ∀ c ∈ w, Text.isWord c = true) (s : Text) :
    fill key t (w ++ s) = w ++ fill key t s := by
  induction w with
  | nil => rfl
  | cons c w ih =>
    have hc : c ≠ ':' := ne_colon_of_isWord (hw c List.mem_cons_self)
    rw [List.cons_append, fill_char hk fun h => absurd h hc,
      ih fun d hd => hw d (List.mem_cons_of_mem c hd), List.cons_append]

theorem fill_placeholder_self (key : Text) (hr : startsWithWord rest = false) :
    fill key t (placeholder key ++ rest) = t ++ rest := by
  have hd : Text.dropPrefix? (placeholder key) (':' :: (key ++ rest)) = some rest :=
    Text.dropPrefix?_eq_some_iff.2 rfl
  rw [placeholder, List.cons_append, fill, hd]
  simp only [hr, Bool.false_eq_true, if_false]

/-- A placeholder is only met as a whole. -/
theorem fill_placeholder_of_ne (hk : IsName key) (hn : IsName name) (h : name ≠ key)
    (hr : startsWithWord rest = false) :
    fill key t (placeholder name ++ rest) = placeholder name ++ fill key t rest := by
  have hw : ':' :: fill key t (name ++ rest) = placeholder name ++ fill key t rest := by
    rw [fill_words hk hn.isWord, placeholder, List.cons_append]
  rw [placeholder, List.cons_append, fill]
  split
  · rename_i r hd
    have he : name ++ rest = key ++ r := (List.cons.inj (Text.dropPrefix?_eq_some_iff.1 hd)).2
    split
    · exact hw
    · rename_i hs
      have ht := hn.takeWhile_append hr
      rw [he, hk.takeWhile_append (by simpa using hs)] at ht
      exact absurd ht.symm h
  · exact hw

/-- A name that stands in a text is met there, whatever comes after the text. -/
theorem fill_append_of_mem (h : key ∈ names s) (hr : startsWithWord rest = false) :
    fill key t (s ++ rest) = fill key t s ++ rest := by
  have hk := isName_of_mem_names h
  obtain ⟨ps, hp, rfl⟩ := exists_isReading s
  rw [names_spelled hp] at h
  induction hp with
  | nil => exact absurd h List.not_mem_nil
  | char hc _ ih =>
    rw [spelled_char, List.cons_append, fill_char hk fun he => startsWithWord_append (hc he) hr,
      fill_char hk hc, ih h, List.cons_append]
  | @hole name ps hn hs _ ih =>
    have hs' := startsWithWord_append hs hr
    rw [spelled_hole, List.append_assoc]
    by_cases he : name = key
    · subst he
      rw [fill_placeholder_self name hs', fill_placeholder_self name hs, List.append_assoc]
    · rw [fill_placeholder_of_ne hk hn he hs', fill_placeholder_of_ne hk hn he hs,
        ih ((List.mem_cons.1 h).resolve_left fun e => he e.symm), List.append_assoc]

/-- A text in which no placeholder bears the name is passed over. -/
theorem fill_append_right (hk : IsName key) (h : key ∉ names s) (hr : startsWithWord rest = false) :
    fill key t (s ++ rest) = s ++ fill key t rest := by
  obtain ⟨ps, hp, rfl⟩ := exists_isReading s
  rw [names_spelled hp] at h
  induction hp with
  | nil => rfl
  | char hc _ ih =>
    rw [spelled_char, List.cons_append, fill_char hk fun he => startsWithWord_append (hc he) hr,
      ih h, List.cons_append]
  | @hole name ps hn hs _ ih =>
    rw [holes_hole, List.mem_cons, not_or] at h
    rw [spelled_hole, List.append_assoc,
      fill_placeholder_of_ne hk hn (fun e => h.1 e.symm) (startsWithWord_append hs hr), ih h.2,
      List.append_assoc]

/-- A name that stands nowhere in a text is met in the placeholder that comes after it. -/
theorem fill_append_of_not_mem (hk : IsName key) (h : key ∉ names s)
    (hr : startsWithWord rest = false) :
    fill key t (s ++ (placeholder key ++ rest)) = s ++ (t ++ rest) := by
  rw [fill_append_right hk h (startsWithWord_placeholder key rest), fill_placeholder_self key hr]

/-- A text without placeholders is passed over whatever is looked for. -/
theorem fillFirst_append_right (h : names s = []) (hr : startsWithWord rest = false) :
    fillFirst t (s ++ rest) = s ++ fillFirst t rest := by
  obtain ⟨ps, hp, rfl⟩ := exists_isReading s
  rw [names_spelled hp] at h
  induction hp with
  | nil => rfl
  | char hc _ ih =>
    rw [spelled_char, List.cons_append, fillFirst_char fun he => startsWithWord_append (hc he) hr,
      ih h, List.cons_append]
  | hole => exact nomatch h

theorem mem_holes_iff : name ∈ holes ps ↔ .hole name ∈ ps := by
  unfold holes
  rw [List.mem_filterMap]
  constructor
  · rintro ⟨p, hp, hn⟩
    cases p with
    | char c => exact nomatch hn
    | hole other =>
      obtain rfl := Option.some.inj hn
      exact hp
  · exact fun h => ⟨.hole name, h, rfl⟩

/-- Filling a name replaces the first placeholder that bears it, and nothing else. -/
theorem exists_fill_spelled (h : IsReading ps) (hm : name ∈ holes ps) (t : Text) :
    ∃ before after, ps = before ++ .hole name :: after ∧ name ∉ holes before ∧
      fill name t (spelled ps) = spelled before ++ (t ++ spelled after) := by
  obtain ⟨before, after, rfl, hb⟩ := List.eq_append_cons_of_mem (mem_holes_iff.1 hm)
  rw [← mem_holes_iff] at hb
  have hk : IsName name := by
    rw [← names_spelled h] at hm
    exact isName_of_mem_names hm
  have hbefore : name ∉ names (spelled before) := by rwa [names_spelled h.of_append]
  have hafter : startsWithWord (spelled after) = false := by
    cases h.of_append_right with
    | hole _ hs _ => exact hs
  refine ⟨before, after, rfl, hb, ?_⟩
  rw [spelled_append, spelled_hole, fill_append_of_not_mem hk hbefore hafter]

/-- Texts can be read one after the other unless the second begins in the middle of a word. -/
theorem pieces_append (s : Text) (h : startsWithWord t = false) :
    pieces (s ++ t) = pieces s ++ pieces t := by
  have hr : IsReading (pieces s ++ pieces t) :=
    (isReading_pieces s).append (isReading_pieces t) (by rwa [spelled_pieces])
  have hp := pieces_spelled hr
  rwa [spelled_append, spelled_pieces, spelled_pieces] at hp

/-- The placeholder that is come to is one of the URL, whatever has become of what is before it. -/
theorem pieces_append_placeholder (done : Text) (hn : IsName name)
    (hs : startsWithWord (spelled ps) = false) (hr : IsReading ps) :
    pieces (done ++ (placeholder name ++ spelled ps)) = pieces done ++ .hole name :: ps := by
  rw [pieces_append done (startsWithWord_placeholder name _), pieces_placeholder hn hs,
    pieces_spelled hr]

end Routing.Pattern
