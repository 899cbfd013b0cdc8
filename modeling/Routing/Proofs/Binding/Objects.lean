import Routing.Proofs.Binding.Strictness
import Routing.Proofs.Pattern.Filling

/-!
# Binding an object

An object's fields go into the placeholders that bear their names, each into the first one that the
URL has by then, and those that no placeholder names follow as query pairs.  The URL may by then
have placeholders that were not in it at first, made by what has been put in.  Main statement:
`fills_first_of_each_name`, which says what comes about in every case, and when each placeholder of
the URL has been filled as if all were filled at once.
-/

namespace Routing

open Pattern (Texts pieces names spelled holes once throughout inTurn Strays Misread IsReading
  FollowNoColon FollowNoHole)

/-! ### Fields by name -/

namespace Fields

/-- The text that a name stands for: that of the value of its field, if it has one and the value
can be placed in a URL. -/
def textOf? (fields : Fields) : Texts := fun name =>
  match fields.find? fun p => p.1 = .text name with
  | some p => if p.2.isPlain then some p.2.written else none
  | none => none

/-- No two fields have one key.  Since it is one key with nothing, not even itself, "not a number"
may stand more than once. -/
def KeysDiffer (fields : Fields) : Prop :=
  fields.Pairwise fun p q => p.1.sameKey q.1 = false

instance (fields : Fields) : Decidable fields.KeysDiffer :=
  inferInstanceAs (Decidable (fields.Pairwise _))

/-- The fields that none of the names stands for. -/
def unnamed (names : List Text) (fields : Fields) : Fields :=
  fields.filter fun p => ∀ name ∈ names, p.1 ≠ .text name

variable {fields before after others : Fields} {name : Text} {key v : Value}

theorem take?_eq_none_iff : take? name fields = none ↔ ∀ p ∈ fields, p.1 ≠ .text name := by
  induction fields with
  | nil => simp [take?]
  | cons p rest ih =>
    obtain ⟨k, w⟩ := p
    by_cases hk : k = .text name
    · simp [take?, hk]
    · simp [take?, hk, ih]

theorem find?_eq_none_of (h : ∀ p ∈ fields, p.1 ≠ .text name) :
    (fields.find? fun p => p.1 = .text name) = none :=
  List.find?_eq_none.2 fun p hp => by simpa using h p hp

theorem textOf?_eq_none_of (h : ∀ p ∈ fields, p.1 ≠ .text name) : fields.textOf? name = none := by
  rw [textOf?, find?_eq_none_of h]

/-- A name that is the key of one field is that of no other, before or after it. -/
theorem KeysDiffer.ne_text (hk : KeysDiffer (before ++ (.text name, v) :: after)) :
    (∀ p ∈ before, p.1 ≠ .text name) ∧ ∀ p ∈ after, p.1 ≠ .text name := by
  obtain ⟨-, ha, hb⟩ := List.pairwise_append.1 hk
  constructor
  · intro p hp
    have h := hb p hp _ List.mem_cons_self
    rwa [Value.sameKey_text, decide_eq_false_iff_not] at h
  · intro p hp
    have h := List.rel_of_pairwise_cons ha hp
    rwa [Value.text_sameKey, decide_eq_false_iff_not] at h

theorem textOf?_append_cons (hk : KeysDiffer (before ++ (.text name, v) :: after)) :
    textOf? (before ++ (.text name, v) :: after) name =
      if v.isPlain then some v.written else none := by
  rw [textOf?, List.find?_append, find?_eq_none_of hk.ne_text.1, Option.none_or,
    List.find?_cons_of_pos (by simp)]

/-- A field that is taken away is all that is not found any more. -/
theorem textOf?_removed (hk : KeysDiffer (before ++ (.text name, v) :: after)) :
    textOf? (before ++ after) =
      Function.update (textOf? (before ++ (.text name, v) :: after)) name none := by
  funext key
  by_cases he : key = name
  · subst he
    rw [Function.update_self]
    refine textOf?_eq_none_of fun p hp => ?_
    rcases List.mem_append.1 hp with hp | hp
    · exact hk.ne_text.1 p hp
    · exact hk.ne_text.2 p hp
  · have hn : ¬ (Value.text name = Value.text key) := by
      simpa using Ne.symm he
    rw [Function.update_of_ne he, textOf?, textOf?, List.find?_append, List.find?_append,
      List.find?_cons_of_neg (by simpa using hn)]

theorem KeysDiffer.sublist (hk : KeysDiffer fields) (hs : others.Sublist fields) :
    KeysDiffer others :=
  List.Pairwise.sublist hs hk

theorem KeysDiffer.removed (hk : KeysDiffer (before ++ (.text name, v) :: after)) :
    KeysDiffer (before ++ after) :=
  hk.sublist ((List.Sublist.refl before).append (List.sublist_cons_self _ after))

theorem unnamed_append_cons (hk : KeysDiffer (before ++ (.text name, v) :: after))
    (names : List Text) : unnamed (name :: names) (before ++ (.text name, v) :: after) =
      unnamed names (before ++ after) := by
  have hs : ∀ fs : Fields, (∀ p ∈ fs, p.1 ≠ .text name) →
      unnamed (name :: names) fs = unnamed names fs :=
    fun fs h => List.filter_congr fun p hp => by simp [h p hp]
  unfold unnamed at hs ⊢
  rw [List.filter_append, List.filter_append, hs before hk.ne_text.1,
    List.filter_cons_of_neg (by simp), hs after hk.ne_text.2]

theorem unnamed_cons_of_ne (h : ∀ p ∈ fields, p.1 ≠ .text name) (names : List Text) :
    unnamed (name :: names) fields = unnamed names fields :=
  List.filter_congr fun p hp => by simp [h p hp]

end Fields

namespace Binding

/-! ### Query pairs -/

/-- What fields add to a URL as query pairs; `opened` is whether it has a query already. -/
def pairs : (opened : Bool) → Fields → Text
  | _, [] => []
  | opened, (key, v) :: rest =>
    if v.isPlain then
      (if opened then '&' else '?') :: key.written ++ '=' :: v.written ++ pairs true rest
    else pairs opened rest

/-- A URL with the query pairs of some fields. -/
def withPairs (url : Text) (fields : Fields) : Text :=
  url ++ pairs (decide ('?' ∈ url)) fields

theorem addPair_eq (url : Text) (key v : Value) : addPair url key v =
    url ++ (if decide ('?' ∈ url) then '&' else '?') :: key.written ++ '=' :: v.written := by
  unfold addPair pairSeparator
  by_cases h : '?' ∈ url <;> simp [h]

theorem mem_addPair (url : Text) (key v : Value) : '?' ∈ addPair url key v := by
  rw [addPair_eq]
  by_cases h : '?' ∈ url <;> simp [h]

theorem addQuery_eq (url : Text) (fields : Fields) :
    addQuery false url fields = .ok (withPairs url fields) := by
  unfold withPairs
  induction fields generalizing url with
  | nil => rw [addQuery, pairs, List.append_nil]
  | cons p rest ih =>
    obtain ⟨key, v⟩ := p
    rw [addQuery]
    simp only [admits_lenient]
    cases hv : v.isPlain with
    | true =>
      have hm : decide ('?' ∈ addPair url key v) = true := decide_eq_true (mem_addPair url key v)
      refine (ih (addPair url key v)).trans ?_
      rw [hm, pairs, if_pos hv, addPair_eq]
      simp only [List.append_assoc, List.cons_append]
    | false =>
      refine (ih url).trans ?_
      rw [pairs, if_neg (by simp [hv])]

/-! ### Placeholders -/

variable {ps : List Pattern.Piece} {fields : Fields}

/-- Along the pieces of a pattern, the fields fill what `inTurn` fills. -/
theorem fillNames_inTurn (hr : IsReading ps) (hk : fields.KeysDiffer) (done : Text) :
    fillNames false (holes ps) (done ++ spelled ps) fields =
      .ok (inTurn fields.textOf? done ps, fields.unnamed (holes ps)) := by
  -- what becomes of the pieces behind is kept in `done`, since it may be read again
  induction hr generalizing done fields with
  | nil =>
    rw [Pattern.spelled_nil, List.append_nil]
    simp [fillNames, inTurn, Fields.unnamed]
  | @char c ps _ _ ih =>
    rw [Pattern.spelled_char, List.append_cons]
    exact ih hk _
  | @hole name ps hn hs _ ih =>
    rw [Pattern.spelled_hole, Pattern.holes_hole, fillNames, inTurn]
    cases ht : Fields.take? name fields with
    | none =>
      have hf := Fields.take?_eq_none_iff.1 ht
      have hu := Fields.textOf?_eq_none_of hf
      rw [Fields.unnamed_cons_of_ne hf, Pattern.update_of_none hu, Pattern.comeTo_of_none hu,
        ← List.append_assoc]
      exact ih hk _
    | some taken =>
      obtain ⟨v, others⟩ := taken
      obtain ⟨before, after, rfl, rfl⟩ := Fields.take?_eq_some ht
      have hv := Fields.textOf?_append_cons hk
      have hi := fun done => ih hk.removed done
      rw [Fields.unnamed_append_cons hk, ← Fields.textOf?_removed hk]
      simp only [admits_lenient]
      cases hp : v.isPlain with
      | false =>
        rw [if_neg (by simp [hp])] at hv
        rw [Pattern.comeTo_of_none hv, ← List.append_assoc]
        exact hi _
      | true =>
        rw [if_pos hp] at hv
        refine Eq.trans ?_ (hi _)
        rw [← Pattern.fill_eq_comeTo hv hn hs]
        rfl

theorem fillByName_eq (hk : fields.KeysDiffer) (url : Text) :
    fillByName false url fields = .ok (withPairs (inTurn fields.textOf? [] (pieces url))
      (fields.unnamed (names url))) := by
  have h := fillNames_inTurn (Pattern.isReading_pieces url) hk []
  rw [List.nil_append, Pattern.spelled_pieces, Pattern.holes_pieces] at h
  unfold fillByName
  rw [h]
  exact addQuery_eq _ _

/-- Where what is put in reads as text, it is as if the first placeholder of each name were filled
and all else stayed as it was. -/
theorem fillByName_of_isReading (hk : fields.KeysDiffer) (hr : IsReading ps)
    (ho : IsReading (once fields.textOf? ps)) :
    fillByName false (spelled ps) fields =
      .ok (withPairs (spelled (once fields.textOf? ps)) (fields.unnamed (holes ps))) := by
  have hs : ¬ Strays fields.textOf? [] ps :=
    fun h => Pattern.not_misread_of_isReading ho (Pattern.strays_iff_misread.1 h)
  rw [fillByName_eq hk, Pattern.pieces_spelled hr, Pattern.names_spelled hr,
    Pattern.inTurn_of_not_strays hs, List.nil_append]

/-- An object's fields go into the placeholders of their names, each into the first that there is
by then, and those that the URL has no placeholder for follow as query pairs.  As long as no text
strays, it is as if the first placeholder of each name were filled and all else stayed as it was.  A
text strays exactly if what has been put in before a placeholder is misread as one of the same name,
and never if no text has a colon and placeholders follow neither a colon nor one another.  Every
placeholder of a name is filled exactly if no name that has a text is borne by two. -/
theorem fills_first_of_each_name {obj : Value} (ho : obj.fields? = some fields)
    (hk : fields.KeysDiffer) (url : Text) :
    extend false url obj =
      .ok (withPairs (inTurn fields.textOf? [] (pieces url)) (fields.unnamed (names url))) ∧
    (¬ Strays fields.textOf? [] (pieces url) →
      inTurn fields.textOf? [] (pieces url) = spelled (once fields.textOf? (pieces url))) ∧
    (Strays fields.textOf? [] (pieces url) ↔ Misread fields.textOf? [] (pieces url)) ∧
    (FollowNoColon (pieces url) → FollowNoHole (pieces url) →
      (∀ name t, fields.textOf? name = some t → ':' ∉ t) →
        ¬ Misread fields.textOf? [] (pieces url)) ∧
    (once fields.textOf? (pieces url) = throughout fields.textOf? (pieces url) ↔
      ∀ name, fields.textOf? name ≠ none → (names url).count name ≤ 1) := by
  refine ⟨?_, Pattern.inTurn_of_not_strays, Pattern.strays_iff_misread, fun hc ha ht => ?_, ?_⟩
  · unfold extend
    rw [ho]
    exact fillByName_eq hk url
  · have hr := Pattern.isReading_once (Pattern.isReading_pieces url) hc ha ht
    exact Pattern.not_misread_of_isReading hr
  · rw [← Pattern.holes_pieces]
    exact Pattern.once_eq_throughout_iff

/-- Fields of which the text of one is a placeholder for another. -/
def selfNaming : Fields := [(.text "a", .text ":b"), (.text "b", .text "x"), (.text "c", .int 1)]

/-- The text of `b` goes into that of `a`, and the second placeholder of `a` stays. -/
theorem fills_first_of_each_name_misread :
    (Value.object .dictionary selfNaming).fields? = some selfNaming ∧
    selfNaming.KeysDiffer ∧
    extend false "/:a/:a/:b" (.object .dictionary selfNaming) = .ok "/x/:a/:b?c=1" := by
  have ho : (Value.object .dictionary selfNaming).fields? = some selfNaming := rfl
  have hk : selfNaming.KeysDiffer := by decide
  have h := (fills_first_of_each_name ho hk "/:a/:a/:b").1
  exact ⟨ho, hk, h.trans (congrArg Except.ok (by decide +kernel))⟩

/-- Not every placeholder of the URL whose name is a key is filled: here what is put in for `a` is
read as a placeholder, and the text of `b` goes there and not into the URL's own. -/
theorem not_forall_fills_throughout :
    ¬ ∀ (url : Text) (obj : Value) (fields : Fields), obj.fields? = some fields →
      fields.KeysDiffer → extend false url obj =
        .ok (withPairs (spelled (throughout fields.textOf? (pieces url)))
          (fields.unnamed (names url))) := by
  intro h
  have h := h "/:a/:b" (.object .dictionary selfNaming) selfNaming rfl (by decide)
  exact absurd h (by decide)

end Binding

end Routing
