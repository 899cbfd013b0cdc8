import Routing.Binding

/-!
# What strict binding refuses

Strict binding goes the way of binding that is not strict until a value would be passed over, and
refuses that value: `consumeAll_strict`.  An object's fields are come to in an order of their own,
first those that placeholders use up and then the others (`handled`), and every field is come to,
while a value that is no object is come to only if a placeholder is left.  `FirstLoss` says which
value an argument loses first, and under which key.  Main facts: `exists_firstLoss_iff` (which
arguments lose anything) and `ofList_strict_eq_error_iff` (what is refused).
-/

namespace Routing.Binding

/-! ### What is come to, and what is lost -/

/-- The fields that placeholders with these names use up, in the order of the placeholders, and the
fields that are left over, in their own order. -/
def parted : List Text → Fields → Fields × Fields
  | [], fields => ([], fields)
  | name :: names, fields =>
    match Fields.take? name fields with
    | none => parted names fields
    | some (v, others) => ((.text name, v) :: (parted names others).1, (parted names others).2)

/-- An object's fields in the order in which they are come to. -/
def handled (url : Text) (fields : Fields) : Fields :=
  (parted (Pattern.names url) fields).1 ++ (parted (Pattern.names url) fields).2

/-- The first value that an argument loses against a URL, and the key that it would have gone
under. -/
inductive FirstLoss (url : Text) (v : Value) : (key lost : Value) → Prop where
  /-- A field of an object; every field that is come to before it can be placed. -/
  | field {fields before after : Fields} {key lost : Value} :
      v.fields? = some fields → handled url fields = before ++ (key, lost) :: after →
      (∀ p ∈ before, p.2.isPlain = true) → lost.isPlain = false → FirstLoss url v key lost
  /-- The argument itself, under the name of the first placeholder left. -/
  | place {name : Text} {names : List Text} :
      v.fields? = none → v ≠ .null → v.isPlain = false → Pattern.names url = name :: names →
      FirstLoss url v (.text name) v

/-- The first of some fields whose value cannot be placed. -/
def unplaceable? (fields : Fields) : Option (Value × Value) := fields.find? fun p => !p.2.isPlain

/-- The first loss of an argument, if it has any. -/
def loss? (url : Text) (v : Value) : Option (Value × Value) :=
  match v.fields? with
  | some fields => unplaceable? (handled url fields)
  | none =>
    if v = .null ∨ v.isPlain = true then none
    else (Pattern.first? url).map fun hole => (.text hole.name, v)

/-- The first loss among arguments that are used up one after the other, none refused. -/
def lossAmong? : Text → List Value → Option (Value × Value)
  | _, [] => none
  | url, v :: rest =>
    (loss? url v).or <|
      match consume false url v with
      | .ok url => lossAmong? url rest
      | .error _ => none

/-- Refuses a loss; if there is none, nothing changes. -/
def refusing {α : Type} (loss : Option (Value × Value)) (x : Except Fault α) : Except Fault α :=
  match loss with
  | some (key, lost) => .error (.unplaceableValue key lost)
  | none => x

/-! ### Fields -/

variable {url : Text} {v : Value} {fields : Fields} {names : List Text}

theorem parted_cons_of_none {name : Text} (h : Fields.take? name fields = none)
    (names : List Text) : parted (name :: names) fields = parted names fields := by
  rw [parted, h]

theorem parted_cons_of_some {name : Text} {others : Fields}
    (h : Fields.take? name fields = some (v, others)) (names : List Text) :
    parted (name :: names) fields =
      ((.text name, v) :: (parted names others).1, (parted names others).2) := by
  rw [parted, h]

/-- Every field is come to, and nothing else is. -/
theorem mem_parted_iff {p : Value × Value} :
    p ∈ (parted names fields).1 ++ (parted names fields).2 ↔ p ∈ fields := by
  induction names generalizing fields with
  | nil => rfl
  | cons name names ih =>
    cases ht : Fields.take? name fields with
    | none =>
      rw [parted_cons_of_none ht]
      exact ih
    | some taken =>
      obtain ⟨w, others⟩ := taken
      obtain ⟨before, after, hf, ho⟩ := Fields.take?_eq_some ht
      have hi : p ∈ (parted names others).1 ++ (parted names others).2 ↔ p ∈ others := ih
      rw [parted_cons_of_some ht, List.cons_append, List.mem_cons, hi, ho, hf]
      simp only [List.mem_append, List.mem_cons]
      exact or_left_comm

theorem refusing_none {α : Type} (x : Except Fault α) : refusing none x = x := rfl

theorem unplaceable?_cons_of_plain {key w : Value} (h : w.isPlain = true) (rest : Fields) :
    unplaceable? ((key, w) :: rest) = unplaceable? rest :=
  List.find?_cons_of_neg (by simp [h])

theorem unplaceable?_cons_of_not_plain {key w : Value} (h : w.isPlain = false) (rest : Fields) :
    unplaceable? ((key, w) :: rest) = some (key, w) :=
  List.find?_cons_of_pos (by simp [h])

theorem unplaceable?_eq_some_iff {key lost : Value} :
    unplaceable? fields = some (key, lost) ↔ ∃ before after,
      fields = before ++ (key, lost) :: after ∧
      (∀ p ∈ before, p.2.isPlain = true) ∧ lost.isPlain = false := by
  unfold unplaceable?
  rw [List.find?_eq_some_iff_append]
  constructor
  · rintro ⟨hl, before, after, hf, hb⟩
    exact ⟨before, after, hf, by simpa using hb, by simpa using hl⟩
  · rintro ⟨before, after, hf, hb, hl⟩
    exact ⟨by simpa using hl, before, after, hf, by simpa using hb⟩

/-! ### One way until something is lost -/

theorem admits_strict (key w : Value) :
    admits true key w = refusing (unplaceable? [(key, w)]) (admits false key w) := by
  cases hw : w.isPlain with
  | true => rw [unplaceable?_cons_of_plain hw, admits, admits, hw]; rfl
  | false => rw [unplaceable?_cons_of_not_plain hw, admits, hw]; rfl

/-- Filling by name leaves over the same fields whatever the URL is. -/
theorem fillNames_lenient (names : List Text) (url : Text) (fields : Fields) :
    ∃ url', fillNames false names url fields = .ok (url', (parted names fields).2) := by
  induction names generalizing url fields with
  | nil => exact ⟨url, rfl⟩
  | cons name names ih =>
    cases ht : Fields.take? name fields with
    | none =>
      rw [parted_cons_of_none ht, fillNames, ht]
      exact ih url fields
    | some taken =>
      obtain ⟨w, others⟩ := taken
      rw [parted_cons_of_some ht, fillNames, ht]
      simp only [admits_lenient]
      cases w.isPlain with
      | true => exact ih (Pattern.fill name w.written url) others
      | false => exact ih url others

theorem fillNames_strict (names : List Text) (url : Text) (fields : Fields) :
    fillNames true names url fields =
      refusing (unplaceable? (parted names fields).1) (fillNames false names url fields) := by
  induction names generalizing url fields with
  | nil => rfl
  | cons name names ih =>
    cases ht : Fields.take? name fields with
    | none =>
      rw [parted_cons_of_none ht, fillNames, fillNames, ht]
      exact ih url fields
    | some taken =>
      obtain ⟨w, others⟩ := taken
      rw [parted_cons_of_some ht, fillNames, fillNames, ht]
      simp only [admits_strict]
      cases hw : w.isPlain with
      | true =>
        rw [unplaceable?_cons_of_plain hw, unplaceable?_cons_of_plain hw]
        simp only [admits_lenient, hw]
        exact ih (Pattern.fill name w.written url) others
      | false =>
        rw [unplaceable?_cons_of_not_plain hw, unplaceable?_cons_of_not_plain hw]
        rfl

theorem addQuery_strict (url : Text) (fields : Fields) :
    addQuery true url fields = refusing (unplaceable? fields) (addQuery false url fields) := by
  induction fields generalizing url with
  | nil => rfl
  | cons p fields ih =>
    obtain ⟨key, w⟩ := p
    rw [addQuery, addQuery]
    simp only [admits_strict]
    cases hw : w.isPlain with
    | true =>
      rw [unplaceable?_cons_of_plain hw, unplaceable?_cons_of_plain hw]
      simp only [admits_lenient, hw]
      exact ih (addPair url key w)
    | false =>
      rw [unplaceable?_cons_of_not_plain hw, unplaceable?_cons_of_not_plain hw]
      rfl

theorem fillByName_strict (url : Text) (fields : Fields) :
    fillByName true url fields =
      refusing (unplaceable? (handled url fields)) (fillByName false url fields) := by
  obtain ⟨url', hl⟩ := fillNames_lenient (Pattern.names url) url fields
  have ha : unplaceable? (handled url fields) =
      (unplaceable? (parted (Pattern.names url) fields).1).or
        (unplaceable? (parted (Pattern.names url) fields).2) := List.find?_append
  unfold fillByName
  rw [fillNames_strict, hl, ha]
  cases unplaceable? (parted (Pattern.names url) fields).1 with
  | some loss => rfl
  | none => exact addQuery_strict url' _

theorem fillByPlace_strict (url : Text) (h : v ≠ .null) (hf : v.fields? = none) :
    fillByPlace true url v = refusing (loss? url v) (fillByPlace false url v) := by
  unfold fillByPlace loss?
  rw [hf]
  cases Pattern.first? url with
  | none => cases v.isPlain <;> simp [h, refusing]
  | some hole =>
    simp only [admits_strict]
    cases hw : v.isPlain with
    | true =>
      rw [unplaceable?_cons_of_plain hw, if_pos (Or.inr rfl)]
      rfl
    | false =>
      rw [unplaceable?_cons_of_not_plain hw, if_neg (by simp [h])]
      rfl

theorem consume_strict (url : Text) (v : Value) :
    consume true url v = refusing (loss? url v) (consume false url v) := by
  by_cases hn : v = .null
  · subst hn
    rfl
  · unfold consume
    cases hf : v.fields? with
    | some fields =>
      have hl : loss? url v = unplaceable? (handled url fields) := by rw [loss?, hf]
      simp only [hf, hl, fillByName_strict]
    | none => simp only [hf, fillByPlace_strict url hn hf]

/-! ### The loss of an argument -/

theorem loss?_eq_some_iff {key lost : Value} :
    loss? url v = some (key, lost) ↔ FirstLoss url v key lost := by
  unfold loss?
  constructor
  · intro h
    split at h
    · rename_i fields hf
      obtain ⟨before, after, hs, hb, hl⟩ := unplaceable?_eq_some_iff.1 h
      exact .field hf hs hb hl
    · rename_i hf
      split at h
      · exact nomatch h
      · rename_i hv
        rw [not_or, Bool.not_eq_true] at hv
        obtain ⟨hole, hh, he⟩ := Option.map_eq_some_iff.1 h
        simp only [Prod.mk.injEq] at he
        obtain ⟨rfl, rfl⟩ := he
        have hn : (Pattern.names url).head? = some hole.name := by
          rw [← Pattern.name_of_first?_eq_head, hh]
          rfl
        obtain ⟨names, hs⟩ := List.head?_eq_some_iff.1 hn
        exact .place hf hv.1 hv.2 hs
  · intro h
    cases h with
    | field hf hs hb hl =>
      rw [hf]
      exact unplaceable?_eq_some_iff.2 ⟨_, _, hs, hb, hl⟩
    | @place name names hf hv hp hs =>
      have hn : (Pattern.first? url).map Pattern.Hole.name = some name := by
        rw [Pattern.name_of_first?_eq_head, hs]
        rfl
      obtain ⟨hole, hh, rfl⟩ := Option.map_eq_some_iff.1 hn
      rw [hf, hh]
      simp [hv, hp]

/-- An object loses something if the value of any of its fields cannot be placed; another value does
if it cannot be placed itself and a placeholder is left. -/
theorem exists_firstLoss_iff :
    (∃ key lost, FirstLoss url v key lost) ↔
      (∃ fields, v.fields? = some fields ∧ ∃ p ∈ fields, p.2.isPlain = false) ∨
        v.fields? = none ∧ v ≠ .null ∧ v.isPlain = false ∧ Pattern.names url ≠ [] := by
  constructor
  · rintro ⟨key, lost, h⟩
    cases h with
    | @field fields before after _ _ hf hs _ hl =>
      have hm : (key, lost) ∈ handled url fields := by
        rw [hs]
        exact List.mem_append_right _ List.mem_cons_self
      exact .inl ⟨fields, hf, (key, lost), mem_parted_iff.1 hm, hl⟩
    | place hf hv hp hs =>
      refine .inr ⟨hf, hv, hp, ?_⟩
      rw [hs]
      exact List.cons_ne_nil _ _
  · rintro (⟨fields, hf, p, hp, hl⟩ | ⟨hf, hv, hp, hs⟩)
    · have hm : p ∈ handled url fields := mem_parted_iff.2 hp
      cases hu : unplaceable? (handled url fields) with
      | none => exact absurd hl (by simpa using List.find?_eq_none.1 hu p hm)
      | some loss =>
        refine ⟨loss.1, loss.2, loss?_eq_some_iff.1 ?_⟩
        rw [loss?, hf]
        exact hu
    · obtain ⟨name, names, hs⟩ := List.exists_cons_of_ne_nil hs
      exact ⟨_, _, .place hf hv hp hs⟩

/-! ### Arguments one after the other -/

theorem addQuery_lenient (url : Text) (fields : Fields) :
    ∃ url', addQuery false url fields = .ok url' := by
  induction fields generalizing url with
  | nil => exact ⟨url, rfl⟩
  | cons p fields ih =>
    rw [addQuery]
    simp only [admits_lenient]
    cases p.2.isPlain with
    | true => exact ih (addPair url p.1 p.2)
    | false => exact ih url

/-- Using up an argument goes well if nothing is refused. -/
theorem consume_lenient (url : Text) (v : Value) : ∃ url', consume false url v = .ok url' := by
  unfold consume
  split
  · exact ⟨url, rfl⟩
  · split
    · rename_i fields _
      obtain ⟨url', hl⟩ := fillNames_lenient (Pattern.names url) url fields
      unfold fillByName
      rw [hl]
      exact addQuery_lenient url' _
    · unfold fillByPlace
      split
      · exact ⟨url, rfl⟩
      · simp only [admits_lenient]
        cases v.isPlain with
        | true => exact ⟨_, rfl⟩
        | false => exact ⟨url, rfl⟩

/-- None of some arguments loses anything. -/
def LosesNothing (url : Text) (args : List Value) : Prop :=
  ∀ before v after url', args = before ++ v :: after → consumeAll false url before = .ok url' →
    ∀ key lost, ¬ FirstLoss url' v key lost

theorem consumeAll_cons_of_ok {strict : Bool} {url' : Text} (h : consume strict url v = .ok url')
    (rest : List Value) : consumeAll strict url (v :: rest) = consumeAll strict url' rest := by
  rw [consumeAll, h]
  rfl

theorem consumeAll_strict (url : Text) (args : List Value) :
    consumeAll true url args = refusing (lossAmong? url args) (consumeAll false url args) := by
  induction args generalizing url with
  | nil => rfl
  | cons v rest ih =>
    obtain ⟨url', hc⟩ := consume_lenient url v
    have hs := consume_strict url v
    rw [lossAmong?, hc, consumeAll_cons_of_ok hc]
    cases hl : loss? url v with
    | some loss =>
      rw [hl] at hs
      rw [consumeAll, hs]
      rfl
    | none =>
      rw [hl, hc, refusing_none] at hs
      rw [consumeAll_cons_of_ok hs]
      exact ih url'

theorem losesNothing_nil (url : Text) : LosesNothing url [] :=
  fun before _ _ _ hl =>
    absurd hl.symm (List.append_ne_nil_of_right_ne_nil before (List.cons_ne_nil _ _))

theorem losesNothing_cons_iff {url' : Text} (h : consume false url v = .ok url')
    (rest : List Value) : LosesNothing url (v :: rest) ↔
      (∀ key lost, ¬ FirstLoss url v key lost) ∧ LosesNothing url' rest := by
  constructor
  · intro hn
    refine ⟨hn [] v rest url rfl rfl, fun before w after url₁ hl hc => ?_⟩
    refine hn (v :: before) w after url₁ (by rw [hl, List.cons_append]) ?_
    rw [consumeAll_cons_of_ok h, hc]
  · rintro ⟨hv, hr⟩ before w after url₁ hl hc
    cases before with
    | nil =>
      obtain ⟨rfl, rfl⟩ := List.cons.inj hl
      obtain rfl := Except.ok.inj hc
      exact hv
    | cons u before =>
      obtain ⟨rfl, hs⟩ := List.cons.inj hl
      rw [consumeAll_cons_of_ok h] at hc
      exact hr before w after url₁ hs hc

theorem loss?_eq_none_iff : loss? url v = none ↔ ∀ key lost, ¬ FirstLoss url v key lost := by
  constructor
  · intro hl key lost hf
    rw [loss?_eq_some_iff.2 hf] at hl
    exact nomatch hl
  · intro hf
    cases hl : loss? url v with
    | none => rfl
    | some loss => exact absurd (loss?_eq_some_iff.1 hl) (hf loss.1 loss.2)

theorem lossAmong?_eq_none_iff {args : List Value} :
    lossAmong? url args = none ↔ LosesNothing url args := by
  induction args generalizing url with
  | nil => exact iff_of_true rfl (losesNothing_nil url)
  | cons v rest ih =>
    obtain ⟨url', hc⟩ := consume_lenient url v
    rw [losesNothing_cons_iff hc, ← loss?_eq_none_iff, ← ih, lossAmong?, hc]
    exact Option.or_eq_none_iff

theorem lossAmong?_eq_some_iff {args : List Value} {key lost : Value} :
    lossAmong? url args = some (key, lost) ↔ ∃ before v after url',
      args = before ++ v :: after ∧ consumeAll false url before = .ok url' ∧
        LosesNothing url before ∧ FirstLoss url' v key lost := by
  induction args generalizing url with
  | nil => simp [lossAmong?]
  | cons v rest ih =>
    obtain ⟨url', hc⟩ := consume_lenient url v
    have ha : lossAmong? url (v :: rest) = (loss? url v).or (lossAmong? url' rest) := by
      rw [lossAmong?, hc]
    rw [ha]
    cases hl : loss? url v with
    | some loss =>
      have hf : FirstLoss url v loss.1 loss.2 := loss?_eq_some_iff.1 hl
      constructor
      · rintro ⟨⟩
        exact ⟨[], v, rest, url, rfl, rfl, losesNothing_nil url, hf⟩
      · rintro ⟨before, w, after, url₁, hs, hb, hn, hw⟩
        cases before with
        | nil =>
          obtain ⟨rfl, -⟩ := List.cons.inj hs
          obtain rfl := Except.ok.inj hb
          rw [← hl, loss?_eq_some_iff.2 hw]
          rfl
        | cons u before =>
          -- the first argument has lost something already
          obtain ⟨rfl, -⟩ := List.cons.inj hs
          exact absurd hf (((losesNothing_cons_iff hc before).1 hn).1 loss.1 loss.2)
    | none =>
      have hv : ∀ key lost, ¬ FirstLoss url v key lost := loss?_eq_none_iff.1 hl
      rw [Option.none_or, ih]
      constructor
      · rintro ⟨before, w, after, url₁, rfl, hb, hn, hw⟩
        have hn' := (losesNothing_cons_iff hc before).2 ⟨hv, hn⟩
        refine ⟨v :: before, w, after, url₁, rfl, ?_, hn', hw⟩
        rw [consumeAll_cons_of_ok hc, hb]
      · rintro ⟨before, w, after, url₁, hs, hb, hn, hw⟩
        cases before with
        | nil =>
          obtain ⟨rfl, -⟩ := List.cons.inj hs
          obtain rfl := Except.ok.inj hb
          exact absurd hw (hv key lost)
        | cons u before =>
          obtain ⟨rfl, rfl⟩ := List.cons.inj hs
          rw [consumeAll_cons_of_ok hc] at hb
          exact ⟨before, w, after, url₁, rfl, hb, ((losesNothing_cons_iff hc before).1 hn).2, hw⟩

/-! ### Binding -/

theorem ofList_strict (pattern : Text) (args : List Value) :
    ofList true pattern args = refusing (lossAmong? pattern args) (ofList false pattern args) := by
  unfold ofList
  rw [consumeAll_strict]
  cases lossAmong? pattern args <;> rfl

/-- Binding that is not strict comes to an end. -/
theorem ofList_lenient (pattern : Text) (args : List Value) :
    ∃ b, ofList false pattern args = .ok b := by
  suffices ∃ url, consumeAll false pattern args = .ok url by
    obtain ⟨url, h⟩ := this
    exact ⟨ofUrl url, by rw [ofList, h]; rfl⟩
  induction args generalizing pattern with
  | nil => exact ⟨pattern, rfl⟩
  | cons v rest ih =>
    obtain ⟨url, hc⟩ := consume_lenient pattern v
    rw [consumeAll_cons_of_ok hc]
    exact ih url

/-- Strict binding gives what binding that is not strict gives, or refuses a value. -/
theorem ofList_strict_cases (pattern : Text) (args : List Value) :
    ofList true pattern args = ofList false pattern args ∨
      ∃ key lost, ofList true pattern args = .error (.unplaceableValue key lost) := by
  rw [ofList_strict]
  cases lossAmong? pattern args with
  | none => exact .inl rfl
  | some loss => exact .inr ⟨loss.1, loss.2, rfl⟩

/-- Strict binding refuses the first value that is lost, whatever comes after it. -/
theorem ofList_strict_eq_error_iff {pattern : Text} {args : List Value} {fault : Fault} :
    ofList true pattern args = .error fault ↔ ∃ before v after url key lost,
      args = before ++ v :: after ∧ consumeAll false pattern before = .ok url ∧
        LosesNothing pattern before ∧ FirstLoss url v key lost ∧
          fault = .unplaceableValue key lost := by
  obtain ⟨b, hb⟩ := ofList_lenient pattern args
  rw [ofList_strict, hb]
  cases hl : lossAmong? pattern args with
  | none =>
    refine iff_of_false (fun h => nomatch h) ?_
    rintro ⟨before, v, after, url, key, lost, hs, hc, hn, hf, -⟩
    rw [lossAmong?_eq_some_iff.2 ⟨before, v, after, url, hs, hc, hn, hf⟩] at hl
    exact nomatch hl
  | some loss =>
    constructor
    · rintro ⟨⟩
      obtain ⟨before, v, after, url, hs, hc, hn, hf⟩ := lossAmong?_eq_some_iff.1 hl
      exact ⟨before, v, after, url, _, _, hs, hc, hn, hf, rfl⟩
    · rintro ⟨before, v, after, url, key, lost, hs, hc, hn, hf, rfl⟩
      rw [lossAmong?_eq_some_iff.2 ⟨before, v, after, url, hs, hc, hn, hf⟩] at hl
      obtain rfl := Option.some.inj hl
      rfl

/-- Strict binding refuses something if any argument loses something. -/
theorem exists_ofList_strict_eq_error_iff {pattern : Text} {args : List Value} :
    (∃ fault, ofList true pattern args = .error fault) ↔ ∃ before v after url,
      args = before ++ v :: after ∧ consumeAll false pattern before = .ok url ∧
        ∃ key lost, FirstLoss url v key lost := by
  obtain ⟨b, hb⟩ := ofList_lenient pattern args
  have hn : ¬ LosesNothing pattern args ↔ ∃ before v after url,
      args = before ++ v :: after ∧ consumeAll false pattern before = .ok url ∧
        ∃ key lost, FirstLoss url v key lost := by
    unfold LosesNothing
    simp only [Classical.not_forall, Classical.not_not, exists_prop]
  rw [← hn, ← lossAmong?_eq_none_iff, ofList_strict, hb]
  cases lossAmong? pattern args with
  | none => exact iff_of_false (fun ⟨_, h⟩ => nomatch h) (not_not_intro rfl)
  | some loss => exact iff_of_true ⟨_, rfl⟩ (fun h => nomatch h)

end Routing.Binding
