import Routing.Proofs.Pattern.Pieces
import Mathlib.Logic.Function.Basic

/-!
# Filling the placeholders of a row of pieces

Text goes into the placeholders of a pattern by place, one text for one placeholder (`byPlace`), or
by name.  By name, a text may go into the first placeholder of its name (`once`) or into all of them
(`throughout`); both leave alone what is put in.  Filling that reads on in the text it has made is
`inTurn`; it comes to the same as `once` if no text strays (`inTurn_of_not_strays`), and a text
strays if what has been put in is misread as a placeholder of a name still to come
(`strays_iff_misread`).  Main facts: `isReading_byPlace` and `isReading_once`, which say when what
is put in cannot be misread at all, and `once_once`, by which names can be filled in two goes.
-/

namespace Routing.Pattern

/-- Which text a name stands for, if it stands for any. -/
abbrev Texts := Text → Option Text

/-- No placeholder comes right after a colon. -/
def FollowNoColon (ps : List Piece) : Prop :=
  ps.IsChain fun p q => q.isHole = true → p ≠ .char ':'

/-- No placeholder comes right after another one. -/
def FollowNoHole (ps : List Piece) : Prop :=
  ps.IsChain fun p q => q.isHole = true → p.isHole = false

instance (ps : List Piece) : Decidable (FollowNoColon ps) :=
  inferInstanceAs (Decidable (ps.IsChain _))

instance (ps : List Piece) : Decidable (FollowNoHole ps) :=
  inferInstanceAs (Decidable (ps.IsChain _))

/-- Puts texts into the placeholders from left to right; those that no text is left for stay. -/
def byPlace : List Text → List Piece → List Piece
  | _, [] => []
  | texts, .char c :: ps => .char c :: byPlace texts ps
  | [], .hole name :: ps => .hole name :: byPlace [] ps
  | t :: texts, .hole _ :: ps => literal t ++ byPlace texts ps

/-- What stands in the place of a placeholder. -/
def slot (texts : Texts) (name : Text) : List Piece :=
  match texts name with
  | some t => literal t
  | none => [.hole name]

/-- Puts the text of each name into the first placeholder that bears it. -/
def once : Texts → List Piece → List Piece
  | _, [] => []
  | texts, .char c :: ps => .char c :: once texts ps
  | texts, .hole name :: ps => slot texts name ++ once (Function.update texts name none) ps

/-- Puts the text of each name into every placeholder that bears it. -/
def throughout (texts : Texts) (ps : List Piece) : List Piece :=
  ps.flatMap fun
    | .char c => [.char c]
    | .hole name => slot texts name

/-- What becomes of a pattern when a placeholder is come to, `done` being what has become of it so
far.  The text of the name goes into the first placeholder of that name in it, though it may not
have been in the pattern; only if there is none, it goes into the placeholder come to. -/
def comeTo (texts : Texts) (name done : Text) : Text :=
  match texts name with
  | none => done ++ placeholder name
  | some t => if name ∈ names done then fill name t done ++ placeholder name else done ++ t

/-- Comes to the placeholders from left to right. -/
def inTurn : (texts : Texts) → (done : Text) → List Piece → Text
  | _, done, [] => done
  | texts, done, .char c :: ps => inTurn texts (done ++ [c]) ps
  | texts, done, .hole name :: ps =>
    inTurn (Function.update texts name none) (comeTo texts name done) ps

/-- On this way, the text of some name goes elsewhere than into the placeholder come to. -/
def Strays : (texts : Texts) → (done : Text) → List Piece → Prop
  | _, _, [] => False
  | texts, done, .char c :: ps => Strays texts (done ++ [c]) ps
  | texts, done, .hole name :: ps =>
    (texts name ≠ none ∧ name ∈ names done) ∨
      Strays (Function.update texts name none) (comeTo texts name done) ps

/-- Somewhere a placeholder is the first of a name that has a text, but what comes before it, after
`done` and filled as if at once, has a placeholder of this name too. -/
def Misread (texts : Texts) (done : Text) (ps : List Piece) : Prop :=
  ∃ before name after, ps = before ++ .hole name :: after ∧ name ∉ holes before ∧
    texts name ≠ none ∧ name ∈ names (done ++ spelled (once texts before))

variable {c : Char} {name key t : Text} {ps qs : List Piece} {texts : Texts}

/-! ### By place -/

section ByPlace

variable {ts us : List Text}

@[simp] theorem byPlace_nil (ps : List Piece) : byPlace [] ps = ps := by
  induction ps with
  | nil => rfl
  | cons p ps ih =>
    cases p with
    | char c => rw [byPlace, ih]
    | hole name => rw [byPlace, ih]

theorem byPlace_literal (ts : List Text) (s : Text) (ps : List Piece) :
    byPlace ts (literal s ++ ps) = literal s ++ byPlace ts ps := by
  induction s with
  | nil => rfl
  | cons c cs ih => exact congrArg (.char c :: ·) ih

/-- Placeholders can be filled in several goes. -/
theorem byPlace_byPlace (ts us : List Text) (ps : List Piece) :
    byPlace us (byPlace ts ps) = byPlace (ts ++ us) ps := by
  induction ps generalizing ts with
  | nil => rfl
  | cons p ps ih =>
    cases p with
    | char c => exact congrArg (.char c :: ·) (ih ts)
    | hole name =>
      cases ts with
      | nil => rw [byPlace_nil, List.nil_append]
      | cons t ts => rw [byPlace, byPlace_literal, ih ts, List.cons_append, byPlace]

theorem holes_byPlace (ts : List Text) (ps : List Piece) :
    holes (byPlace ts ps) = (holes ps).drop ts.length := by
  induction ps generalizing ts with
  | nil => exact List.drop_nil.symm
  | cons p ps ih =>
    cases p with
    | char c => exact ih ts
    | hole name =>
      cases ts with
      | nil => rw [byPlace_nil, List.length_nil, List.drop_zero]
      | cons t ts =>
        rw [byPlace, holes_append, holes_literal, ih ts, List.nil_append, holes_hole,
          List.length_cons, List.drop_succ_cons]

/-- The first placeholder of the text is the first of the pieces. -/
theorem fillFirst_spelled (h : IsReading ps) (t : Text) :
    fillFirst t (spelled ps) = spelled (byPlace [t] ps) := by
  induction h with
  | nil => rfl
  | char hc _ ih => rw [spelled_char, fillFirst_char hc, ih, byPlace, spelled_char]
  | hole hn hs _ _ =>
    rw [spelled_hole, fillFirst_placeholder hn hs, byPlace, byPlace_nil, spelled_append,
      spelled_literal]

end ByPlace

/-! ### By name -/

theorem slot_of_some (h : texts name = some t) : slot texts name = literal t := by
  rw [slot, h]

theorem slot_of_none (h : texts name = none) : slot texts name = [.hole name] := by
  rw [slot, h]

theorem update_of_none (h : texts name = none) : Function.update texts name none = texts := by
  rw [← h]
  exact Function.update_eq_self name texts

/-- What is already text stays. -/
theorem once_literal (texts : Texts) (s : Text) (ps : List Piece) :
    once texts (literal s ++ ps) = literal s ++ once texts ps := by
  induction s with
  | nil => rfl
  | cons c cs ih => exact congrArg (.char c :: ·) ih

theorem once_append_literal (texts : Texts) (ps : List Piece) (s : Text) :
    once texts (ps ++ literal s) = once texts ps ++ literal s := by
  induction ps generalizing texts with
  | nil =>
    have := once_literal texts s []
    rwa [List.append_nil, once, List.append_nil] at this
  | cons p ps ih =>
    cases p with
    | char c => exact congrArg (.char c :: ·) (ih texts)
    | hole name => rw [List.cons_append, once, once, ih, List.append_assoc]

/-- What becomes of a part of a pattern does not depend on what comes after it. -/
theorem exists_once_append (texts : Texts) (ps qs : List Piece) :
    ∃ rest, once texts (ps ++ qs) = once texts ps ++ rest := by
  induction ps generalizing texts with
  | nil => exact ⟨once texts qs, rfl⟩
  | cons p ps ih =>
    cases p with
    | char c =>
      obtain ⟨rest, h⟩ := ih texts
      exact ⟨rest, by rw [List.cons_append, once, once, h, List.cons_append]⟩
    | hole name =>
      obtain ⟨rest, h⟩ := ih (Function.update texts name none)
      exact ⟨rest, by rw [List.cons_append, once, once, h, List.append_assoc]⟩

theorem holes_slot_of_some (h : texts name = some t) : holes (slot texts name) = [] := by
  rw [slot_of_some h, holes_literal]

theorem holes_slot_of_none (h : texts name = none) : holes (slot texts name) = [name] := by
  rw [slot_of_none h]
  rfl

/-- A name that has a text loses one placeholder; any other keeps all it has. -/
theorem count_holes_once (texts : Texts) (ps : List Piece) (name : Text) :
    (holes (once texts ps)).count name =
      (holes ps).count name - if (texts name).isSome then 1 else 0 := by
  induction ps generalizing texts with
  | nil => simp [once]
  | cons p ps ih =>
    cases p with
    | char c => exact ih texts
    | hole key =>
      rw [once, holes_append, List.count_append, ih, holes_hole, List.count_cons]
      by_cases hk : key = name
      · subst hk
        rw [Function.update_self]
        cases ht : texts key with
        | none => simp [holes_slot_of_none ht, Nat.add_comm]
        | some t => simp [holes_slot_of_some ht]
      · rw [Function.update_of_ne (Ne.symm hk)]
        cases ht : texts key with
        | none => simp [holes_slot_of_none ht, hk]
        | some t => simp [holes_slot_of_some ht, hk]

theorem mem_holes_of_mem_once (h : name ∈ holes (once texts ps)) : name ∈ holes ps := by
  rw [← List.count_pos_iff, count_holes_once] at h
  exact List.count_pos_iff.1 (Nat.lt_of_lt_of_le h (Nat.sub_le _ _))

theorem mem_holes_once_iff (h : texts name = none) :
    name ∈ holes (once texts ps) ↔ name ∈ holes ps := by
  rw [← List.count_pos_iff, ← List.count_pos_iff, count_holes_once, h]
  rfl

theorem char_not_mem_slot (h : ∀ t, texts name = some t → c ∉ t) :
    .char c ∉ slot texts name := by
  cases ht : texts name with
  | none => simp [slot_of_none ht]
  | some t => simpa [slot_of_some ht, literal] using h t ht

theorem texts_of_update {key : Text} (h : Function.update texts name none key = some t) :
    key ≠ name ∧ texts key = some t := by
  by_cases hk : key = name
  · subst hk
    exact nomatch (Function.update_self key none texts).symm.trans h
  · exact ⟨hk, (Function.update_of_ne hk none texts).symm.trans h⟩

/-- A character that is in none of the texts stands where it stood. -/
theorem char_mem_once_iff (h : ∀ name t, texts name = some t → c ∉ t) :
    .char c ∈ once texts ps ↔ .char c ∈ ps := by
  induction ps generalizing texts with
  | nil => rfl
  | cons p ps ih =>
    cases p with
    | char d => rw [once, List.mem_cons, List.mem_cons, ih h]
    | hole name =>
      rw [once, List.mem_append, ih fun key t ht => h key t (texts_of_update ht).2, List.mem_cons]
      simp [char_not_mem_slot (h name)]

/-- By name or by place, if every placeholder gets its text and no two have one name. -/
theorem once_eq_byPlace {ts : List Text} (hn : (holes ps).Nodup)
    (ht : (holes ps).map texts = ts.map some) : once texts ps = byPlace ts ps := by
  induction ps generalizing texts ts with
  | nil => rfl
  | cons p ps ih =>
    cases p with
    | char c => exact congrArg (.char c :: ·) (ih hn ht)
    | hole name =>
      obtain ⟨hm, hn⟩ := List.nodup_cons.1 hn
      cases ts with
      | nil => exact nomatch ht
      | cons t ts =>
        rw [holes_hole, List.map_cons, List.map_cons] at ht
        obtain ⟨ht, hts⟩ := List.cons.inj ht
        have hu : (holes ps).map (Function.update texts name none) = (holes ps).map texts :=
          List.map_congr_left fun key hk =>
            Function.update_of_ne (fun e : key = name => hm (e ▸ hk)) _ _
        rw [once, byPlace, slot_of_some ht, ih hn (hu.trans hts)]

theorem throughout_hole (texts : Texts) (name : Text) (ps : List Piece) :
    throughout texts (.hole name :: ps) = slot texts name ++ throughout texts ps := rfl

theorem throughout_congr {texts' : Texts} (h : ∀ name ∈ holes ps, texts name = texts' name) :
    throughout texts ps = throughout texts' ps := by
  induction ps with
  | nil => rfl
  | cons p ps ih =>
    cases p with
    | char c => exact congrArg (.char c :: ·) (ih h)
    | hole name =>
      rw [throughout_hole, throughout_hole, ih fun key hk => h key (List.mem_cons_of_mem _ hk),
        slot, slot, h name List.mem_cons_self]

theorem not_mem_holes_throughout (h : texts name ≠ none) : name ∉ holes (throughout texts ps) := by
  induction ps with
  | nil => exact List.not_mem_nil
  | cons p ps ih =>
    cases p with
    | char c => exact ih
    | hole key =>
      rw [throughout_hole, holes_append, List.mem_append, not_or]
      refine ⟨?_, ih⟩
      cases ht : texts key with
      | none =>
        rw [holes_slot_of_none ht, List.mem_singleton]
        rintro rfl
        exact h ht
      | some t =>
        rw [holes_slot_of_some ht]
        exact List.not_mem_nil

/-- Filling the first placeholder of each name fills all of them if no name that has a text is
borne by two, and only then. -/
theorem once_eq_throughout_iff :
    once texts ps = throughout texts ps ↔
      ∀ name, texts name ≠ none → (holes ps).count name ≤ 1 := by
  constructor
  · intro h name ht
    have hc := count_holes_once texts ps name
    rw [h, List.count_eq_zero.2 (not_mem_holes_throughout ht),
      if_pos (Option.isSome_iff_ne_none.2 ht)] at hc
    omega
  · intro h
    induction ps generalizing texts with
    | nil => rfl
    | cons p ps ih =>
      cases p with
      | char c => exact congrArg (.char c :: ·) (ih h)
      | hole name =>
        have hu : ∀ key ∈ holes ps, Function.update texts name none key = texts key := by
          intro key hk
          by_cases he : key = name
          · subst he
            have hc : 0 < (holes ps).count key := List.count_pos_iff.2 hk
            have hone := h key
            rw [holes_hole, List.count_cons_self] at hone
            rw [Function.update_self]
            exact (not_not.1 fun ht => absurd (hone ht) (by omega)).symm
          · exact Function.update_of_ne he _ _
        rw [once, throughout_hole, ← throughout_congr hu, ih]
        intro key ht
        obtain ⟨t, ht⟩ := Option.ne_none_iff_exists'.1 ht
        have hone := h key (by rw [(texts_of_update ht).2]; exact Option.some_ne_none t)
        exact (List.count_le_count_cons).trans hone

/-- Two goes are as good as one if no name has a text in both. -/
theorem once_once {texts' : Texts} (h : ∀ name, texts name = none ∨ texts' name = none) :
    once texts' (once texts ps) = once (fun name => (texts name).or (texts' name)) ps := by
  induction ps generalizing texts texts' with
  | nil => rfl
  | cons p ps ih =>
    cases p with
    | char c => exact congrArg (.char c :: ·) (ih h)
    | hole name =>
      have hu : Function.update (fun key => (texts key).or (texts' key)) name none =
          fun key => (Function.update texts name none key).or
            (Function.update texts' name none key) := by
        funext key
        by_cases hk : key = name
        · subst hk
          simp
        · simp [hk]
      have hd : ∀ key, Function.update texts name none key = none ∨
          Function.update texts' name none key = none := by
        intro key
        by_cases hk : key = name
        · subst hk
          simp
        · simpa [hk] using h key
      rw [once, once, hu, ← ih hd]
      cases ht : texts name with
      | some t =>
        have ht' : texts' name = none := (h name).resolve_left (by simp [ht])
        rw [slot_of_some ht, once_literal, update_of_none ht',
          slot_of_some (show (texts name).or (texts' name) = some t by rw [ht, Option.some_or])]
      | none =>
        have hs : slot (fun key => (texts key).or (texts' key)) name = slot texts' name := by
          rw [slot, slot, ht, Option.none_or]
        rw [slot_of_none ht, List.singleton_append, once, hs]

/-! ### What is put in is not misread -/

theorem startsWithWord_once (h : ∀ p ∈ ps.head?, p.isHole = false)
    (hs : startsWithWord (spelled ps) = false) :
    startsWithWord (spelled (once texts ps)) = false := by
  cases ps with
  | nil => rfl
  | cons p ps =>
    cases p with
    | char c => exact hs
    | hole name => exact nomatch h (.hole name) rfl

/-- Text without colons, put into placeholders from left to right, changes nothing about how the
rest is read if no placeholder comes right after a colon. -/
theorem isReading_byPlace {ts : List Text} (h : IsReading ps) (hc : FollowNoColon ps)
    (ht : ∀ t ∈ ts, ':' ∉ t) : IsReading (byPlace ts ps) := by
  induction h generalizing ts with
  | nil => exact .nil
  | @char c ps hs _ ih =>
    refine .char (fun he => ?_) (ih hc.tail ht)
    cases ps with
    | nil => rfl
    | cons p ps =>
      cases p with
      | char d => exact hs he
      | hole name => exact absurd (congrArg Piece.char he) ((List.isChain_cons_cons.1 hc).1 rfl)
  | @hole name ps hn hs h ih =>
    cases ts with
    | nil =>
      rw [byPlace_nil]
      exact .hole hn hs h
    | cons t ts =>
      exact (ih hc.tail fun u hu => ht u (List.mem_cons_of_mem t hu)).literal_append
        (ht t List.mem_cons_self)

/-- Nor does it when it is put in by name, if no placeholder comes right after another one. -/
theorem isReading_once (h : IsReading ps) (hc : FollowNoColon ps) (ha : FollowNoHole ps)
    (ht : ∀ name t, texts name = some t → ':' ∉ t) : IsReading (once texts ps) := by
  induction h generalizing texts with
  | nil => exact .nil
  | @char c ps hs _ ih =>
    refine .char (fun he => startsWithWord_once (fun p hp => ?_) (hs he)) (ih hc.tail ha.tail ht)
    have hne := (List.isChain_cons.1 hc).1 p hp
    exact Bool.eq_false_iff.2 fun hh => hne hh (congrArg Piece.char he)
  | @hole name ps hn hs _ ih =>
    have hr : IsReading (once (Function.update texts name none) ps) :=
      ih hc.tail ha.tail fun key t hk => ht key t (texts_of_update hk).2
    rw [once]
    cases hv : texts name with
    | none =>
      rw [slot_of_none hv]
      refine .hole hn (startsWithWord_once (fun p hp => ?_) hs) hr
      have hne := (List.isChain_cons.1 ha).1 p hp
      exact Bool.eq_false_iff.2 fun hh => nomatch hne hh
    | some t =>
      rw [slot_of_some hv]
      exact hr.literal_append (ht name t hv)

theorem comeTo_of_none (h : texts name = none) (done : Text) :
    comeTo texts name done = done ++ placeholder name := by
  rw [comeTo, h]

/-- What filling a name does where a placeholder of that name is come to. -/
theorem fill_eq_comeTo {rest : Text} (h : texts name = some t) (hn : IsName name)
    (hr : startsWithWord rest = false) (done : Text) :
    fill name t (done ++ (placeholder name ++ rest)) = comeTo texts name done ++ rest := by
  rw [comeTo, h]
  by_cases hm : name ∈ names done
  · simp only [if_pos hm]
    rw [fill_append_of_mem hm (startsWithWord_placeholder name rest), List.append_assoc]
  · simp only [if_neg hm]
    rw [fill_append_of_not_mem hn hm hr, List.append_assoc]

theorem comeTo_of_not_mem {done : Text} (h : ¬ (texts name ≠ none ∧ name ∈ names done)) :
    comeTo texts name done = done ++ spelled (slot texts name) := by
  unfold comeTo
  cases ht : texts name with
  | none => rw [slot_of_none ht, spelled_hole, spelled_nil, List.append_nil]
  | some t =>
    rw [slot_of_some ht, spelled_literal]
    exact if_neg fun hm => h ⟨by rw [ht]; exact Option.some_ne_none t, hm⟩

/-- If no text strays, it is as if the first placeholder of each name were filled. -/
theorem inTurn_of_not_strays {done : Text} (h : ¬ Strays texts done ps) :
    inTurn texts done ps = done ++ spelled (once texts ps) := by
  induction ps generalizing texts done with
  | nil => exact (List.append_nil done).symm
  | cons p ps ih =>
    cases p with
    | char c => rw [inTurn, ih h, once, spelled_char, List.append_assoc, List.singleton_append]
    | hole name =>
      rw [Strays, not_or] at h
      rw [inTurn, ih h.2, comeTo_of_not_mem h.1, once, spelled_append, List.append_assoc]

theorem misread_char {done : Text} :
    Misread texts done (.char c :: ps) ↔ Misread texts (done ++ [c]) ps := by
  unfold Misread
  simp only [List.append_assoc, List.singleton_append]
  constructor
  · rintro ⟨before, name, after, he, hb, ht, hm⟩
    cases before with
    | nil => exact nomatch he
    | cons q before =>
      obtain ⟨rfl, rfl⟩ := List.cons.inj he
      exact ⟨before, name, after, rfl, hb, ht, hm⟩
  · rintro ⟨before, name, after, rfl, hb, ht, hm⟩
    exact ⟨.char c :: before, name, after, rfl, hb, ht, hm⟩

/-- Once a placeholder has been filled, its name is of no more consequence. -/
theorem misread_hole {done : Text} : Misread texts done (.hole key :: ps) ↔
    (texts key ≠ none ∧ key ∈ names done) ∨
      Misread (Function.update texts key none) (done ++ spelled (slot texts key)) ps := by
  unfold Misread
  simp only [List.append_assoc, ← spelled_append]
  constructor
  · rintro ⟨before, name, after, he, hb, ht, hm⟩
    cases before with
    | nil =>
      obtain ⟨hk, -⟩ := List.cons.inj he
      obtain rfl := Piece.hole.inj hk
      rw [once, spelled_nil, List.append_nil] at hm
      exact .inl ⟨ht, hm⟩
    | cons q before =>
      obtain ⟨rfl, rfl⟩ := List.cons.inj he
      rw [holes_hole, List.mem_cons, not_or] at hb
      refine .inr ⟨before, name, after, rfl, hb.2, ?_, hm⟩
      rwa [Function.update_of_ne hb.1]
  · rintro (⟨ht, hm⟩ | ⟨before, name, after, rfl, hb, ht, hm⟩)
    · refine ⟨[], key, ps, rfl, List.not_mem_nil, ht, ?_⟩
      rwa [once, spelled_nil, List.append_nil]
    · obtain ⟨t, ht⟩ := Option.ne_none_iff_exists'.1 ht
      obtain ⟨hne, ht⟩ := texts_of_update ht
      refine ⟨.hole key :: before, name, after, rfl, ?_, by simp [ht], hm⟩
      rw [holes_hole, List.mem_cons, not_or]
      exact ⟨hne, hb⟩

/-- A text strays exactly if what has been put in before it, as if at once, is misread. -/
theorem strays_iff_misread {done : Text} : Strays texts done ps ↔ Misread texts done ps := by
  induction ps generalizing texts done with
  | nil => simp [Strays, Misread]
  | cons p ps ih =>
    cases p with
    | char c => rw [Strays, misread_char, ih]
    | hole key =>
      rw [Strays, misread_hole, ih]
      by_cases hs : texts key ≠ none ∧ key ∈ names done
      · exact iff_of_true (.inl hs) (.inl hs)
      · rw [comeTo_of_not_mem hs]

/-- Nothing is misread where the pieces that come about are a reading. -/
theorem not_misread_of_isReading (h : IsReading (once texts ps)) : ¬ Misread texts [] ps := by
  rintro ⟨before, name, after, rfl, hb, -, hm⟩
  obtain ⟨rest, he⟩ := exists_once_append texts before (.hole name :: after)
  rw [he] at h
  rw [List.nil_append, names_spelled h.of_append] at hm
  exact hb (mem_holes_of_mem_once hm)

end Routing.Pattern
