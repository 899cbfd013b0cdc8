import Routing.Binding
import Routing.Proofs.Pattern.Filling

/-!
# Binding by place

Arguments that are no objects fill the placeholders of a pattern from left to right, whatever their
names; those that cannot be placed in a URL take no placeholder, and those that come after the last
placeholder has been filled are of no consequence.  This needs that what is put in is not read
again: none of it has a colon in it, and no placeholder comes right after one.  Main statement:
`fills_in_order`.
-/

namespace Routing.Binding

open Pattern (pieces names spelled byPlace holes IsReading FollowNoColon fillFirst placeholder)

/-- The texts of the values that can be placed in a URL. -/
def texts (args : List Value) : List Text := (args.filter Value.isPlain).map Value.written

theorem texts_cons_of_plain {v : Value} (h : v.isPlain = true) (args : List Value) :
    texts (v :: args) = v.written :: texts args := by
  rw [texts, List.filter_cons_of_pos h]
  rfl

theorem texts_cons_of_not_plain {v : Value} (h : v.isPlain = false) (args : List Value) :
    texts (v :: args) = texts args := by
  rw [texts, List.filter_cons_of_neg (by simp [h])]
  rfl

theorem not_mem_of_mem_texts {args : List Value} {c : Char}
    (h : ∀ v ∈ args, v.isPlain = true → c ∉ v.written) : ∀ t ∈ texts args, c ∉ t := by
  intro t ht
  obtain ⟨v, hv, rfl⟩ := List.mem_map.1 ht
  obtain ⟨hm, hp⟩ := List.mem_filter.1 hv
  exact h v hm hp

/-! ### One argument -/

theorem consume_of_plain {v : Value} (h : v.isPlain = true) (strict : Bool) (url : Text) :
    consume strict url v = .ok (fillFirst v.written url) := by
  have hv : consume strict url v = fillByPlace strict url v := by
    unfold consume
    split
    · exact nomatch h
    · rw [fields?_of_plain h]
  rw [hv]
  unfold fillByPlace fillFirst
  cases Pattern.first? url with
  | none => rfl
  | some hole =>
    dsimp only
    rw [admits_of_plain h]
    rfl

/-- A value that is no object and cannot be placed in a URL changes nothing. -/
theorem consume_of_not_plain {v : Value} (hf : v.fields? = none) (h : v.isPlain = false)
    (url : Text) : consume false url v = .ok url := by
  unfold consume
  split
  · rfl
  · rw [hf]
    unfold fillByPlace
    dsimp only
    split
    · rfl
    · rw [admits_lenient, h]
      rfl

/-! ### One after the other -/

variable {ps : List Pattern.Piece}

/-- Arguments go on filling the placeholders where those before them left off. -/
theorem consumeAll_byPlace {args : List Value} (hr : IsReading ps) (hc : FollowNoColon ps)
    (ho : ∀ v ∈ args, v.fields? = none) (ht : ∀ v ∈ args, v.isPlain = true → ':' ∉ v.written)
    (used : List Text) (hu : ∀ t ∈ used, ':' ∉ t) :
    consumeAll false (spelled (byPlace used ps)) args =
      .ok (spelled (byPlace (used ++ texts args) ps)) := by
  induction args generalizing used with
  | nil =>
    rw [consumeAll, texts, List.filter_nil, List.map_nil, List.append_nil]
  | cons v args ih =>
    have ho' : ∀ w ∈ args, w.fields? = none := fun w hw => ho w (List.mem_cons_of_mem v hw)
    have ht' : ∀ w ∈ args, w.isPlain = true → ':' ∉ w.written :=
      fun w hw => ht w (List.mem_cons_of_mem v hw)
    rw [consumeAll]
    cases hp : v.isPlain with
    | true =>
      have hv : ':' ∉ v.written := ht v List.mem_cons_self hp
      have hu' : ∀ t ∈ used ++ [v.written], ':' ∉ t := by
        intro t hm
        rcases List.mem_append.1 hm with hm | hm
        · exact hu t hm
        · rwa [List.mem_singleton.1 hm]
      have hs : fillFirst v.written (spelled (byPlace used ps)) =
          spelled (byPlace (used ++ [v.written]) ps) := by
        rw [Pattern.fillFirst_spelled (Pattern.isReading_byPlace hr hc hu),
          Pattern.byPlace_byPlace]
      rw [consume_of_plain hp, hs, texts_cons_of_plain hp,
        List.append_cons used v.written (texts args)]
      exact ih ho' ht' _ hu'
    | false =>
      rw [consume_of_not_plain (ho v List.mem_cons_self) hp, texts_cons_of_not_plain hp]
      exact ih ho' ht' used hu

theorem ofUrl_spelled_of_nil (hr : IsReading ps) (h : holes ps = []) :
    ofUrl (spelled ps) = .complete (spelled ps) :=
  ofUrl_complete_iff.2 ⟨rfl, (Pattern.names_spelled hr).trans h⟩

theorem ofUrl_spelled_of_cons {name : Text} {rest : List Text} (hr : IsReading ps)
    (h : holes ps = name :: rest) :
    ofUrl (spelled ps) = .short (placeholder name) (spelled ps) := by
  have hn : (Pattern.first? (spelled ps)).map Pattern.Hole.name = (names (spelled ps)).head? :=
    Pattern.name_of_first?_eq_head
  rw [Pattern.names_spelled hr, h] at hn
  obtain ⟨hole, hf, rfl⟩ := Option.map_eq_some_iff.1 hn
  rw [ofUrl, hf]

/-- What comes of a list of arguments that are no objects. -/
theorem consumeAll_pieces {pattern : Text} {args : List Value}
    (hc : FollowNoColon (pieces pattern)) (ho : ∀ v ∈ args, v.fields? = none)
    (ht : ∀ v ∈ args, v.isPlain = true → ':' ∉ v.written) :
    consumeAll false pattern args = .ok (spelled (byPlace (texts args) (pieces pattern))) := by
  have h := consumeAll_byPlace (Pattern.isReading_pieces pattern) hc ho ht []
    fun _ hm => absurd hm List.not_mem_nil
  rwa [Pattern.byPlace_nil, Pattern.spelled_pieces, List.nil_append] at h

/-- Arguments that are no objects fill the placeholders in order, whatever these are called.  With
as many that can be placed as there are placeholders, or more, the URL is complete; with fewer, the
next placeholder is missing and those before it have been filled.  Arguments that cannot be placed
take none. -/
theorem fills_in_order {pattern : Text} {args : Value}
    (hc : FollowNoColon (pieces pattern))
    (ho : ∀ v ∈ arguments args, v.fields? = none)
    (ht : ∀ v ∈ arguments args, v.isPlain = true → ':' ∉ v.written) :
    ((names pattern).length ≤ (texts (arguments args)).length →
      ofArgs false pattern args =
        .ok (.complete (spelled (byPlace (texts (arguments args)) (pieces pattern))))) ∧
    ∀ hm : (texts (arguments args)).length < (names pattern).length,
      ofArgs false pattern args =
        .ok (.short (placeholder (names pattern)[(texts (arguments args)).length])
          (spelled (byPlace (texts (arguments args)) (pieces pattern)))) := by
  have hr : IsReading (byPlace (texts (arguments args)) (pieces pattern)) :=
    Pattern.isReading_byPlace (Pattern.isReading_pieces pattern) hc (not_mem_of_mem_texts ht)
  have hh := Pattern.holes_byPlace (texts (arguments args)) (pieces pattern)
  rw [Pattern.holes_pieces] at hh
  rw [ofArgs, ofList, consumeAll_pieces hc ho ht]
  constructor
  · intro hm
    rw [List.drop_eq_nil_of_le hm] at hh
    exact congrArg Except.ok (ofUrl_spelled_of_nil hr hh)
  · intro hm
    rw [List.drop_eq_getElem_cons hm] at hh
    exact congrArg Except.ok (ofUrl_spelled_of_cons hr hh)

theorem fills_in_order_two_of_one_name :
    ofArgs false "/:a:b/12: :a" (.collection .list
        [.int 1, .null, .collection .set [], .text "x", .text "", .text "left over"]) =
      .ok (.complete "/1x/12: ") ∧
    ofArgs false "/:a:b/12: :a" (.collection .list [.null, .text "x"]) =
      .ok (.short ":b" "/x:b/12: :a") :=
  ⟨(fills_in_order (by decide) (by decide) (by decide)).1 (by decide),
    (fills_in_order (by decide) (by decide) (by decide)).2 (by decide)⟩

end Routing.Binding
