import Routing.Proofs.Binding.Objects
import Routing.Proofs.Binding.Places

/-!
# Binding by name and by place

An object that has a field for each placeholder of a pattern, and no other, makes the same URL as
the list of its values in the order of the placeholders, however its keys are ordered and whether or
not binding is strict.  Main statement: `by_name_eq_by_place`.
-/

namespace Routing

open Pattern (pieces names spelled byPlace IsReading FollowNoColon)

/-! ### Values that can all be placed -/

namespace Binding

variable {fields : Fields} {v : Value}

theorem unplaceable?_eq_none (hp : ∀ p ∈ fields, p.2.isPlain = true) :
    unplaceable? fields = none :=
  List.find?_eq_none.2 fun p hm => by simp [hp p hm]

/-- Strictness makes no difference to fields that can all be placed. -/
theorem fillByName_of_plain (hp : ∀ p ∈ fields, p.2.isPlain = true) (strict : Bool) (url : Text) :
    fillByName strict url fields = fillByName false url fields := by
  cases strict with
  | false => rfl
  | true =>
    have hn : unplaceable? (handled url fields) = none :=
      unplaceable?_eq_none fun p hm => hp p (mem_parted_iff.1 hm)
    rw [fillByName_strict, hn, refusing_none]

theorem consume_of_fields (ho : v.fields? = some fields) (strict : Bool) (url : Text) :
    consume strict url v = fillByName strict url fields := by
  cases v with
  | object kind fs =>
    unfold consume
    dsimp only
    rw [ho]
  | _ => exact nomatch ho

theorem arguments_of_fields (ho : v.fields? = some fields) : arguments v = [v] := by
  cases v with
  | object kind fs => rfl
  | _ => exact nomatch ho

theorem consumeAll_of_plain {args : List Value} (hp : ∀ w ∈ args, w.isPlain = true)
    (strict : Bool) (url : Text) : consumeAll strict url args = consumeAll false url args := by
  induction args generalizing url with
  | nil => rfl
  | cons w args ih =>
    have hw := hp w List.mem_cons_self
    rw [consumeAll, consumeAll, consume_of_plain hw, consume_of_plain hw]
    exact ih (fun u hu => hp u (List.mem_cons_of_mem w hu)) _

theorem texts_of_plain {args : List Value} (hp : ∀ w ∈ args, w.isPlain = true) :
    texts args = args.map Value.written := by
  rw [texts, List.filter_eq_self.2 hp]

end Binding

/-! ### Fields that are given in some order -/

namespace Fields

variable {fields : Fields} {ns : List Text} {vs : List Value}

/-- A field is found wherever it stands. -/
theorem textOf?_of_mem {name : Text} {v : Value} (hk : fields.KeysDiffer)
    (hm : (.text name, v) ∈ fields) (hv : v.isPlain = true) :
    fields.textOf? name = some v.written := by
  obtain ⟨before, after, rfl⟩ := List.append_of_mem hm
  rw [textOf?_append_cons hk, if_pos hv]

theorem map_fst_zip_text (hl : vs.length = ns.length) :
    ((ns.map Value.text).zip vs).map Prod.fst = ns.map Value.text :=
  List.map_fst_zip (by rw [List.length_map, hl])

theorem keysDiffer_of_perm (hn : ns.Nodup) (hl : vs.length = ns.length)
    (hf : fields.Perm ((ns.map Value.text).zip vs)) : fields.KeysDiffer := by
  have hz : (ns.map Value.text).Nodup :=
    List.Pairwise.map Value.text (fun s t h => by simpa using h) hn
  have hk : (fields.map Prod.fst).Nodup := by
    rw [(hf.map Prod.fst).nodup_iff, map_fst_zip_text hl]
    exact hz
  refine (List.pairwise_map.1 hk).imp_of_mem fun {p q} _ hq hne => ?_
  obtain ⟨name, -, he⟩ := List.mem_map.1 (List.of_mem_zip (hf.mem_iff.1 hq)).1
  rw [← he] at hne ⊢
  rw [Value.sameKey_text]
  exact decide_eq_false hne

/-- Every name gets the text of the value in its place. -/
theorem map_textOf?_of_perm (hn : ns.Nodup) (hl : vs.length = ns.length)
    (hf : fields.Perm ((ns.map Value.text).zip vs)) (hv : ∀ v ∈ vs, v.isPlain = true) :
    ns.map fields.textOf? = (vs.map Value.written).map some := by
  have hk := keysDiffer_of_perm hn hl hf
  refine List.ext_getElem (by simp [hl]) fun i hi hi' => ?_
  have hin : i < ns.length := by simpa using hi
  have hiv : i < vs.length := by omega
  have hz : (.text ns[i], vs[i]) ∈ (ns.map Value.text).zip vs := by
    have hlt : i < ((ns.map Value.text).zip vs).length := by
      rw [List.length_zip, List.length_map]
      omega
    have hm := List.getElem_mem hlt
    rwa [List.getElem_zip, List.getElem_map] at hm
  have ht := textOf?_of_mem hk (hf.mem_iff.2 hz) (hv _ (List.getElem_mem hiv))
  simpa using ht

/-- Nothing is left over if every key is a name. -/
theorem unnamed_of_perm (hf : fields.Perm ((ns.map Value.text).zip vs)) :
    fields.unnamed ns = [] := by
  refine List.filter_eq_nil_iff.2 fun p hp => ?_
  obtain ⟨name, hm, he⟩ := List.mem_map.1 (List.of_mem_zip (hf.mem_iff.1 hp)).1
  simp only [decide_eq_true_eq, not_forall, not_not]
  exact ⟨name, hm, he.symm⟩

end Fields

namespace Binding

section

variable {pattern : Text} {vs : List Value} {obj : Value} {fields : Fields}

theorem urlOf_of_consumeAll {args : Value} {u : Text} {strict : Bool}
    (h : consumeAll strict pattern (arguments args) = .ok u) (hu : ofUrl u = .complete u) :
    urlOf strict pattern args = .ok u := by
  rw [urlOf, ofArgs, ofList, h]
  show (ofUrl u).url = .ok u
  rw [hu]
  rfl

/-- Values without colons, as many as there are placeholders, leave none. -/
theorem ofUrl_byPlace (hc : FollowNoColon (pieces pattern))
    (hl : vs.length = (names pattern).length) (hv : ∀ v ∈ vs, ':' ∉ v.written) :
    IsReading (byPlace (vs.map Value.written) (pieces pattern)) ∧
      ofUrl (spelled (byPlace (vs.map Value.written) (pieces pattern))) =
        .complete (spelled (byPlace (vs.map Value.written) (pieces pattern))) := by
  have ht : ∀ t ∈ vs.map Value.written, ':' ∉ t := by
    rintro _ hm
    obtain ⟨v, hvs, rfl⟩ := List.mem_map.1 hm
    exact hv v hvs
  have hr := Pattern.isReading_byPlace (Pattern.isReading_pieces pattern) hc ht
  refine ⟨hr, ofUrl_spelled_of_nil hr ?_⟩
  rw [Pattern.holes_byPlace, Pattern.holes_pieces, List.length_map, hl, List.drop_length]

theorem consumeAll_list (hc : FollowNoColon (pieces pattern))
    (hv : ∀ v ∈ vs, v.isPlain = true ∧ ':' ∉ v.written) (strict : Bool) :
    consumeAll strict pattern vs =
      .ok (spelled (byPlace (vs.map Value.written) (pieces pattern))) := by
  have hp : ∀ v ∈ vs, v.isPlain = true := fun v hm => (hv v hm).1
  have h := consumeAll_pieces hc (fun v hm => fields?_of_plain (hp v hm)) fun v hm _ => (hv v hm).2
  rwa [texts_of_plain hp, ← consumeAll_of_plain hp strict] at h

theorem consumeAll_object (hn : (names pattern).Nodup) (hl : vs.length = (names pattern).length)
    (hp : ∀ v ∈ vs, v.isPlain = true) (ho : obj.fields? = some fields)
    (hf : fields.Perm (((names pattern).map Value.text).zip vs))
    (hr : IsReading (byPlace (vs.map Value.written) (pieces pattern))) (strict : Bool) :
    consumeAll strict pattern [obj] =
      .ok (spelled (byPlace (vs.map Value.written) (pieces pattern))) := by
  have hk := Fields.keysDiffer_of_perm hn hl hf
  have hm := Fields.map_textOf?_of_perm hn hl hf hp
  rw [← Pattern.holes_pieces] at hn hm
  have honce : Pattern.once fields.textOf? (pieces pattern) =
      byPlace (vs.map Value.written) (pieces pattern) := Pattern.once_eq_byPlace hn hm
  have hpf : ∀ p ∈ fields, p.2.isPlain = true :=
    fun p hm => hp _ (List.of_mem_zip (hf.mem_iff.1 hm)).2
  have h := fillByName_of_isReading hk (Pattern.isReading_pieces pattern) (honce ▸ hr)
  rw [Pattern.spelled_pieces, Pattern.holes_pieces, honce, Fields.unnamed_of_perm hf, withPairs,
    pairs, List.append_nil] at h
  rw [consumeAll, consume_of_fields ho, fillByName_of_plain hpf, h]
  rfl

/-- An object whose keys are the names of the placeholders, no two of which are the same, makes the
URL that its values make as a list in the order of the placeholders: each placeholder gives way to
its text. -/
theorem by_name_eq_by_place (hn : (names pattern).Nodup) (hc : FollowNoColon (pieces pattern))
    (hl : vs.length = (names pattern).length)
    (hv : ∀ v ∈ vs, v.isPlain = true ∧ ':' ∉ v.written) (ho : obj.fields? = some fields)
    (hf : fields.Perm (((names pattern).map Value.text).zip vs)) (strict : Bool) :
    urlOf strict pattern obj = urlOf strict pattern (.collection .list vs) ∧
      urlOf strict pattern obj =
        .ok (spelled (byPlace (vs.map Value.written) (pieces pattern))) := by
  obtain ⟨hr, hu⟩ := ofUrl_byPlace hc hl fun v hm => (hv v hm).2
  have hname := consumeAll_object hn hl (fun v hm => (hv v hm).1) ho hf hr strict
  rw [← arguments_of_fields ho] at hname
  have hplace : consumeAll strict pattern (arguments (.collection .list vs)) = .ok _ :=
    consumeAll_list hc hv strict
  have hurl := urlOf_of_consumeAll hname hu
  exact ⟨hurl.trans (urlOf_of_consumeAll hplace hu).symm, hurl⟩

end

/-- Fields for names that begin alike, in another order than that of the placeholders. -/
def namedAlike : Fields := [(.text "b", .text "y"), (.text "ab", .text ""), (.text "a", .int 1)]

theorem by_name_eq_by_place_named_alike :
    (names "/:a/:ab:b/12: ").Nodup ∧ FollowNoColon (pieces "/:a/:ab:b/12: ") ∧
    namedAlike.Perm (((names "/:a/:ab:b/12: ").map Value.text).zip
      [.int 1, .text "", .text "y"]) ∧
    urlOf true "/:a/:ab:b/12: " (.object .mapping namedAlike) = .ok "/1/y/12: " := by
  have hn : (names "/:a/:ab:b/12: ").Nodup := by decide +kernel
  have hc : FollowNoColon (pieces "/:a/:ab:b/12: ") := by decide +kernel
  have hv : ∀ v ∈ [Value.int 1, .text "", .text "y"], v.isPlain = true ∧ ':' ∉ v.written := by
    decide
  have ho : (Value.object .mapping namedAlike).fields? = some namedAlike := rfl
  have hf : namedAlike.Perm (((names "/:a/:ab:b/12: ").map Value.text).zip
      [.int 1, .text "", .text "y"]) := by decide +kernel
  have h := (by_name_eq_by_place hn hc (by decide +kernel) hv ho hf true).2
  exact ⟨hn, hc, hf, h.trans (congrArg Except.ok (by decide +kernel))⟩

end Binding

end Routing
