import Routing.Proofs.Binding.Agreement

/-!
# Splitting an object

Two objects bound one after the other make of a URL what one object makes that has the fields of
both, if nothing that is put in is read again: no key and no value has a colon in it, and no
placeholder comes right after a colon or another placeholder.  The query that the first object
leaves behind then says the same about where a query begins as the URL did, since no value has a
question mark in it.  Main statement: `splits_object`.
-/

namespace Routing

open Pattern (pieces names spelled holes once literal IsReading FollowNoColon FollowNoHole)

/-! ### Fields of two objects -/

namespace Fields

variable {fields f₁ f₂ : Fields} {name t : Text}

theorem exists_of_textOf? (h : fields.textOf? name = some t) :
    ∃ v, (.text name, v) ∈ fields ∧ v.isPlain = true ∧ t = v.written := by
  unfold textOf? at h
  split at h
  · rename_i p hf
    have hk : p.1 = .text name := by simpa using List.find?_some hf
    split at h
    · rename_i hp
      refine ⟨p.2, ?_, hp, (Option.some.inj h).symm⟩
      rw [← hk]
      exact List.mem_of_find?_eq_some hf
    · exact nomatch h
  · exact nomatch h

/-- The first object answers for what it has. -/
theorem textOf?_append (hp : ∀ p ∈ f₁, p.2.isPlain = true) :
    (f₁ ++ f₂).textOf? = fun name => (f₁.textOf? name).or (f₂.textOf? name) := by
  funext name
  unfold textOf?
  rw [List.find?_append]
  cases hf : f₁.find? fun p => p.1 = .text name with
  | none => rfl
  | some p =>
    rw [Option.some_or]
    simp only [hp p (List.mem_of_find?_eq_some hf), if_true, Option.some_or]

theorem textOf?_eq_none_or (hk : (f₁ ++ f₂).KeysDiffer) (name : Text) :
    f₁.textOf? name = none ∨ f₂.textOf? name = none := by
  cases h₁ : f₁.textOf? name with
  | none => exact .inl rfl
  | some t =>
    refine .inr (textOf?_eq_none_of fun p hp he => ?_)
    obtain ⟨v, hm, -, -⟩ := exists_of_textOf? h₁
    have h := (List.pairwise_append.1 hk).2.2 _ hm p hp
    rw [he, Value.sameKey_text] at h
    exact of_decide_eq_false h rfl

theorem unnamed_append (ns : List Text) :
    (f₁ ++ f₂).unnamed ns = f₁.unnamed ns ++ f₂.unnamed ns :=
  List.filter_append _ _

theorem unnamed_congr {ns ms : List Text}
    (h : ∀ p ∈ fields, ∀ name, p.1 = .text name → (name ∈ ns ↔ name ∈ ms)) :
    fields.unnamed ns = fields.unnamed ms := by
  refine List.filter_congr fun p hp => decide_eq_decide.2 ?_
  constructor
  · exact fun hn name hm he => hn name ((h p hp name he).2 hm) he
  · exact fun hn name hm he => hn name ((h p hp name he).1 hm) he

end Fields

namespace Binding

/-! ### Query pairs of two objects -/

section Pairs

variable (opened : Bool) (url : Text) (f g : Fields)

theorem pairs_append : pairs opened (f ++ g) =
    pairs opened f ++ pairs (opened || f.any fun p => p.2.isPlain) g := by
  induction f generalizing opened with
  | nil => simp [pairs]
  | cons p f ih =>
    obtain ⟨key, v⟩ := p
    cases hv : v.isPlain with
    | true => simp [pairs, hv, ih]
    | false => simp [pairs, hv, ih]

/-- The first pair begins a query, unless there is one already. -/
theorem mem_pairs_iff : '?' ∈ url ++ pairs (decide ('?' ∈ url)) f ↔
    '?' ∈ url ∨ (f.any fun p => p.2.isPlain) = true := by
  by_cases hm : '?' ∈ url
  · simp [hm]
  · simp only [hm, decide_false, List.mem_append, false_or]
    induction f with
    | nil => simp [pairs]
    | cons p f ih =>
      obtain ⟨key, v⟩ := p
      cases hv : v.isPlain with
      | true => simp [pairs, hv]
      | false => simpa [pairs, hv] using ih

theorem withPairs_append : withPairs url (f ++ g) = withPairs (withPairs url f) g := by
  have hd : decide ('?' ∈ url ++ pairs (decide ('?' ∈ url)) f) =
      (decide ('?' ∈ url) || f.any fun p => p.2.isPlain) := by
    rw [Bool.eq_iff_iff]
    simpa using mem_pairs_iff url f
  unfold withPairs
  rw [pairs_append, hd, List.append_assoc]

theorem startsWithWord_pairs : Pattern.startsWithWord (pairs opened f) = false := by
  have hq : Text.isWord '?' = false ∧ Text.isWord '&' = false := by decide
  induction f with
  | nil => rfl
  | cons p f ih =>
    obtain ⟨key, v⟩ := p
    cases hv : v.isPlain with
    | true => cases opened <;> simp [pairs, hv, Pattern.startsWithWord, hq]
    | false => simpa [pairs, hv] using ih

theorem not_mem_pairs {c : Char} (hc : c ∉ ['?', '&', '='])
    (h : ∀ p ∈ f, c ∉ p.1.written ∧ c ∉ p.2.written) : c ∉ pairs opened f := by
  simp only [List.mem_cons, List.not_mem_nil, or_false, not_or] at hc
  induction f generalizing opened with
  | nil => exact List.not_mem_nil
  | cons p f ih =>
    obtain ⟨key, v⟩ := p
    have hi := fun opened => ih opened fun q hq => h q (List.mem_cons_of_mem _ hq)
    obtain ⟨hk, hw⟩ : c ∉ key.written ∧ c ∉ v.written := h (key, v) List.mem_cons_self
    cases hv : v.isPlain with
    | true => cases opened <;> simp [pairs, hv, hc, hk, hw, hi]
    | false => simpa [pairs, hv] using hi opened

end Pairs

/-! ### One object after the other -/

variable {url : Text} {f₁ f₂ : Fields}

/-- What holds of fields that split over two objects: their keys are different, they can all be
placed, and none of what they put into a URL can be taken for a placeholder or a query. -/
structure CanSplit (fields : Fields) : Prop where
  keysDiffer : fields.KeysDiffer
  isPlain : ∀ p ∈ fields, p.2.isPlain = true
  noColon : ∀ p ∈ fields, ':' ∉ p.1.written ∧ ':' ∉ p.2.written
  noMark : ∀ p ∈ fields, '?' ∉ p.2.written

theorem CanSplit.textOf? {fields : Fields} (h : CanSplit fields) {name t : Text}
    (ht : fields.textOf? name = some t) : ':' ∉ t ∧ '?' ∉ t := by
  obtain ⟨v, hm, -, rfl⟩ := Fields.exists_of_textOf? ht
  exact ⟨(h.noColon _ hm).2, h.noMark _ hm⟩

theorem CanSplit.sublist {fields : Fields} (h : CanSplit fields) {f : Fields}
    (hs : f.Sublist fields) : CanSplit f where
  keysDiffer := h.keysDiffer.sublist hs
  isPlain := fun p hp => h.isPlain p (hs.mem hp)
  noColon := fun p hp => h.noColon p (hs.mem hp)
  noMark := fun p hp => h.noMark p (hs.mem hp)

theorem CanSplit.isReading_once {fields : Fields} (h : CanSplit fields)
    (hc : FollowNoColon (pieces url)) (ha : FollowNoHole (pieces url)) :
    IsReading (once fields.textOf? (pieces url)) :=
  Pattern.isReading_once (Pattern.isReading_pieces url) hc ha fun _ _ ht => (h.textOf? ht).1

/-- Filling does not change whether a URL has a query. -/
theorem CanSplit.mark_mem_iff {fields : Fields} (h : CanSplit fields)
    (hc : FollowNoColon (pieces url)) (ha : FollowNoHole (pieces url)) :
    '?' ∈ spelled (once fields.textOf? (pieces url)) ↔ '?' ∈ url := by
  have hw : Text.isWord '?' = false := by decide
  have hm := (Pattern.isReading_pieces url).mem_spelled_iff hw (by decide)
  rw [Pattern.spelled_pieces] at hm
  rw [hm, (h.isReading_once hc ha).mem_spelled_iff hw (by decide)]
  exact Pattern.char_mem_once_iff fun _ _ ht => (h.textOf? ht).2

/-- Query pairs are read as they stand. -/
theorem isReading_pairs {fields : Fields} (h : CanSplit fields) (opened : Bool) (ns : List Text) :
    IsReading (literal (pairs opened (fields.unnamed ns))) := by
  have hc : ':' ∉ pairs opened (fields.unnamed ns) :=
    not_mem_pairs _ _ (by decide) fun p hm => h.noColon p (List.mem_filter.1 hm).1
  have := Pattern.IsReading.nil.literal_append hc
  rwa [List.append_nil] at this

/-- The first object uses up none of the placeholders of the second. -/
theorem unnamed_once (h : CanSplit (f₁ ++ f₂)) (ps : List Pattern.Piece) :
    f₂.unnamed (holes (once f₁.textOf? ps)) = f₂.unnamed (holes ps) := by
  have h₂ : CanSplit f₂ := h.sublist (List.sublist_append_right f₁ f₂)
  refine Fields.unnamed_congr fun p hm name he => ?_
  refine Pattern.mem_holes_once_iff ((Fields.textOf?_eq_none_or h.keysDiffer name).resolve_right ?_)
  have hmem : (.text name, p.2) ∈ f₂ := by rwa [← he]
  rw [Fields.textOf?_of_mem h₂.keysDiffer hmem (h₂.isPlain p hm)]
  exact Option.some_ne_none _

theorem fillByName_append (h : CanSplit (f₁ ++ f₂)) (hc : FollowNoColon (pieces url))
    (ha : FollowNoHole (pieces url)) : ∃ u, fillByName false url f₁ = .ok u ∧
      fillByName false u f₂ = fillByName false url (f₁ ++ f₂) := by
  have h₁ : CanSplit f₁ := h.sublist (List.sublist_append_left f₁ f₂)
  have h₂ : CanSplit f₂ := h.sublist (List.sublist_append_right f₁ f₂)
  have hp := Pattern.isReading_pieces url
  have hr₁ := h₁.isReading_once hc ha
  have hr := h.isReading_once hc ha
  have hu := fillByName_of_isReading h₁.keysDiffer hp hr₁
  have hall := fillByName_of_isReading h.keysDiffer hp hr
  rw [Pattern.spelled_pieces] at hu hall
  refine ⟨_, hu, ?_⟩
  -- the query that the first object leaves behind is that with which both begin theirs
  have hd : decide ('?' ∈ spelled (once f₁.textOf? (pieces url))) =
      decide ('?' ∈ spelled (once (f₁ ++ f₂).textOf? (pieces url))) :=
    decide_eq_decide.2 ((h₁.mark_mem_iff hc ha).trans (h.mark_mem_iff hc ha).symm)
  rw [withPairs, hd]
  generalize hq : pairs (decide ('?' ∈ spelled (once (f₁ ++ f₂).textOf? (pieces url))))
    (f₁.unnamed (holes (pieces url))) = q
  have hl : IsReading (literal q) := hq ▸ isReading_pairs h₁ _ _
  have hw : Pattern.startsWithWord (spelled (literal q)) = false := by
    rw [Pattern.spelled_literal, ← hq]
    exact startsWithWord_pairs _ _
  have honce : once f₂.textOf? (once f₁.textOf? (pieces url) ++ literal q) =
      once (f₁ ++ f₂).textOf? (pieces url) ++ literal q := by
    rw [Pattern.once_append_literal, Pattern.once_once (Fields.textOf?_eq_none_or h.keysDiffer),
      ← Fields.textOf?_append h₁.isPlain]
  have hv := fillByName_of_isReading h₂.keysDiffer (hr₁.append hl hw)
    (by rw [honce]; exact hr.append hl hw)
  rw [honce, Pattern.holes_append, Pattern.holes_literal, List.append_nil, unnamed_once h,
    Pattern.spelled_append, Pattern.spelled_append, Pattern.spelled_literal] at hv
  rw [Fields.unnamed_append, withPairs_append] at hall
  rw [hv, hall, ← hq]
  rfl

/-- Two objects, one after the other, make the URL that one object with the fields of both makes,
and two arguments come to the same as one. -/
theorem splits_object {o₁ o₂ o : Value} (h₁ : o₁.fields? = some f₁) (h₂ : o₂.fields? = some f₂)
    (ho : o.fields? = some (f₁ ++ f₂)) (h : CanSplit (f₁ ++ f₂))
    (hc : FollowNoColon (pieces url)) (ha : FollowNoHole (pieces url)) (strict : Bool) :
    (∃ u w, extend strict url o₁ = .ok u ∧ extend strict u o₂ = .ok w ∧
      extend strict url o = .ok w) ∧
    ofArgs strict url (.collection .list [o₁, o₂]) = ofArgs strict url o ∧
    urlOf strict url (.collection .list [o₁, o₂]) = urlOf strict url o := by
  have hp₁ : ∀ p ∈ f₁, p.2.isPlain = true := fun p hp => h.isPlain p (List.mem_append_left _ hp)
  have hp₂ : ∀ p ∈ f₂, p.2.isPlain = true := fun p hp => h.isPlain p (List.mem_append_right _ hp)
  obtain ⟨u, hu, hw⟩ := fillByName_append h hc ha
  obtain ⟨w, hall⟩ : ∃ w, fillByName false url (f₁ ++ f₂) = .ok w :=
    ⟨_, fillByName_eq h.keysDiffer url⟩
  have hofArgs : ofArgs strict url (.collection .list [o₁, o₂]) = ofArgs strict url o := by
    rw [ofArgs, ofArgs, arguments_of_fields ho, ofList, ofList]
    show (consumeAll strict url [o₁, o₂]).map ofUrl = _
    rw [consumeAll, consume_of_fields h₁, fillByName_of_plain hp₁, hu]
    show (consumeAll strict u [o₂]).map ofUrl = _
    rw [consumeAll, consumeAll, consume_of_fields h₂, consume_of_fields ho,
      fillByName_of_plain hp₂, fillByName_of_plain h.isPlain, hw]
  refine ⟨⟨u, w, ?_, ?_, ?_⟩, hofArgs, ?_⟩
  · rw [extend, h₁]
    exact (fillByName_of_plain hp₁ strict url).trans hu
  · rw [extend, h₂]
    exact (fillByName_of_plain hp₂ strict u).trans (hw.trans hall)
  · rw [extend, ho]
    exact (fillByName_of_plain h.isPlain strict url).trans hall
  · rw [urlOf, urlOf, hofArgs]

/-- Fields for a URL that bears one of their names twice. -/
def idAndQuery : Fields := [(.text "id", .int 1), (.text "q", .text "x y")]

/-- Fields of which one has a number for its key. -/
def numbered : Fields := [(.text "b", .text ""), (.int 7, .text "=")]

theorem splits_object_name_twice :
    CanSplit (idAndQuery ++ numbered) ∧ FollowNoColon (pieces "/:b/:id/:id") ∧
    FollowNoHole (pieces "/:b/:id/:id") ∧
    ofArgs true "/:b/:id/:id"
        (.collection .list [.object .dictionary idAndQuery, .object .mapping numbered]) =
      ofArgs true "/:b/:id/:id" (.object .dictionary (idAndQuery ++ numbered)) := by
  have h : CanSplit (idAndQuery ++ numbered) :=
    ⟨by decide, by decide, by decide, by decide⟩
  have hc : FollowNoColon (pieces "/:b/:id/:id") := by decide +kernel
  have ha : FollowNoHole (pieces "/:b/:id/:id") := by decide +kernel
  have h₁ : (Value.object .dictionary idAndQuery).fields? = some idAndQuery := rfl
  have h₂ : (Value.object .mapping numbered).fields? = some numbered := rfl
  have ho : (Value.object .dictionary (idAndQuery ++ numbered)).fields? =
    some (idAndQuery ++ numbered) := rfl
  exact ⟨h, hc, ha, (splits_object h₁ h₂ ho h hc ha true).2.1⟩

end Binding

end Routing
