import Mathlib.Data.List.Basic
import Mathlib.Data.List.Induction
import Routing.Proofs.Assoc
import Routing.Proofs.Reverse.Search

/-!
# A table by its actions

A table is gone through once for its actions, once for the patterns under each of them, and once more
for the endpoints of any one of them.  These passes agree: what an entry adds to the first two is
added at the place that the third one has for it.  So the patterns that are grouped are those of the
endpoints that are found (`patternsByAction_eq`), and the endpoints of all actions together are those
of the table (`flatMap_endpointsOf_perm`).  Main statement: `lists_actions`.
-/

namespace Routing

/-- Elements that are told apart by their keys are all there, key by key. -/
theorem flatMap_filter_perm {α κ : Type} [BEq κ] [LawfulBEq κ] (key : α → κ) {keys : List κ}
    (hd : keys.Nodup) {as : List α} (h : ∀ a ∈ as, key a ∈ keys) :
    (keys.flatMap fun k => as.filter fun a => key a == k).Perm as := by
  induction keys generalizing as with
  | nil =>
    have hnil : as = [] := List.eq_nil_iff_forall_not_mem.2 fun a ha => List.not_mem_nil (h a ha)
    subst hnil
    exact .nil
  | cons k keys ih =>
    obtain ⟨hk, hd⟩ := List.nodup_cons.1 hd
    -- the elements under the other keys are those that are left without this one
    have hleft : (keys.flatMap fun k' => as.filter fun a => key a == k') =
        keys.flatMap fun k' => (as.filter fun a => !(key a == k)).filter fun a => key a == k' := by
      refine List.flatMap_congr fun k' hk' => ?_
      rw [List.filter_filter]
      refine List.filter_congr fun a _ => ?_
      by_cases ha : key a = k'
      · have hne : k' ≠ k := fun he => hk (he ▸ hk')
        simp [ha, hne]
      · simp [ha]
    have hrest : ∀ a ∈ as.filter (fun a => !(key a == k)), key a ∈ keys := by
      intro a ha
      obtain ⟨hm, hne⟩ := List.mem_filter.1 ha
      exact (List.mem_cons.1 (h a hm)).resolve_left (by simpa using hne)
    rw [List.flatMap_cons, hleft]
    exact ((ih hd hrest).append_left _).trans (List.filter_append_perm _ as)

namespace Entry

/-- What is said of an entry tells it from all others. -/
theorem described_injective : Function.Injective Entry.described := by
  have hverb : Function.Injective Verb.name := by
    intro v w h
    have hv := Verb.ofWord?_name v
    rw [h, Verb.ofWord?_name w] at hv
    exact (Option.some.inj hv).symm
  rintro (e | f) (e' | f') h
  · obtain ⟨v, p, c, m⟩ := e
    obtain ⟨v', p', c', m'⟩ := e'
    simp only [described, List.cons.injEq, Prod.mk.injEq, true_and, and_true] at h
    obtain ⟨hv, rfl, -, rfl, rfl⟩ := h
    rw [hverb hv]
  · simp [described] at h
  · simp [described] at h
  · obtain ⟨v, p, d⟩ := f
    obtain ⟨v', p', d'⟩ := f'
    simp only [described, List.cons.injEq, Prod.mk.injEq, true_and, and_true] at h
    obtain ⟨hv, rfl, rfl⟩ := h
    rw [hverb hv]

theorem count_filterMap_endpoint? (e : Endpoint) (es : List Entry) :
    (es.filterMap Entry.endpoint?).count e = es.count (.endpoint e) := by
  induction es with
  | nil => rfl
  | cons entry es ih =>
    cases entry with
    | endpoint e' => simp [Entry.endpoint?, List.count_cons, ih]
    | folder f =>
      have hskip : (Entry.folder f :: es).filterMap Entry.endpoint? =
        es.filterMap Entry.endpoint? := rfl
      rw [hskip, ih, List.count_cons_of_ne (by simp)]

end Entry

namespace Table

variable {es : List Entry} {a : Text} {e : Endpoint}

/-! ### The actions -/

@[simp] theorem actions_concat_folder (es : List Entry) (f : Folder) :
    actions (es ++ [.folder f]) = actions es := by
  unfold actions
  rw [List.foldl_concat]
  rfl

theorem actions_concat_endpoint (es : List Entry) (e : Endpoint) :
    actions (es ++ [.endpoint e]) =
      if e.action ∈ actions es then actions es else actions es ++ [e.action] := by
  unfold actions
  rw [List.foldl_concat]
  exact Assoc.keys_ensure e.action () _

theorem mem_actions_iff : a ∈ actions es ↔ some a ∈ es.map Entry.action? := by
  induction es using List.reverseRecOn with
  | nil => simp [actions, Assoc.keys]
  | append_singleton es entry ih =>
    rw [List.map_append, List.mem_append, List.map_singleton, List.mem_singleton, ← ih]
    cases entry with
    | folder f => simp [Entry.action?, Entry.endpoint?]
    | endpoint e =>
      have hown : Entry.action? (.endpoint e) = some e.action := rfl
      rw [actions_concat_endpoint, hown, Option.some.injEq]
      split
      · rename_i hm
        exact ⟨Or.inl, fun h => h.elim id fun he => he ▸ hm⟩
      · rw [List.mem_append, List.mem_singleton]

/-- An action is listed before those that come for the first time after it. -/
theorem pairwise_actions (es : List Entry) : (actions es).Pairwise fun a b =>
    (es.map Entry.action?).idxOf (some a) < (es.map Entry.action?).idxOf (some b) := by
  induction es using List.reverseRecOn with
  | nil => exact .nil
  | append_singleton es entry ih =>
    -- the place of an action that is there already is the same with one more entry
    have hold : ∀ a ∈ actions es, ((es ++ [entry]).map Entry.action?).idxOf (some a) =
        (es.map Entry.action?).idxOf (some a) := by
      intro a ha
      rw [List.map_append, List.idxOf_append_of_mem (mem_actions_iff.1 ha)]
    have hih : (actions es).Pairwise fun a b => ((es ++ [entry]).map Entry.action?).idxOf (some a) <
        ((es ++ [entry]).map Entry.action?).idxOf (some b) := by
      refine ih.imp_of_mem fun ha hb hlt => ?_
      rwa [hold _ ha, hold _ hb]
    cases entry with
    | folder f =>
      rw [actions_concat_folder]
      exact hih
    | endpoint e =>
      rw [actions_concat_endpoint]
      split
      · exact hih
      · rename_i hnew
        refine List.pairwise_append.2 ⟨hih, List.pairwise_singleton _ _, fun a ha b hb => ?_⟩
        rw [List.mem_singleton.1 hb, hold a ha]
        rw [mem_actions_iff] at ha hnew
        have hlt := List.idxOf_lt_length_of_mem ha
        rw [List.map_append, List.idxOf_append_of_notMem hnew]
        omega

theorem nodup_actions (es : List Entry) : (actions es).Nodup :=
  (pairwise_actions es).imp fun hlt he => by
    rw [he] at hlt
    exact Nat.lt_irrefl _ hlt

/-! ### The endpoints of each -/

theorem action_mem_actions (h : .endpoint e ∈ es) : e.action ∈ actions es :=
  mem_actions_iff.2 (List.mem_map.2 ⟨_, h, rfl⟩)

theorem map_endpoint_endpointsOf (a : Text) (es : List Entry) :
    (endpointsOf a es).map Entry.endpoint = es.filter fun entry => entry.action? == some a := by
  induction es with
  | nil => rfl
  | cons entry es ih =>
    cases entry with
    | folder f =>
      have hskip : endpointsOf a (.folder f :: es) = endpointsOf a es := rfl
      rw [hskip, ih]
      rfl
    | endpoint e =>
      have hown : Entry.action? (.endpoint e) = some e.action := rfl
      by_cases h : e.action = a
      · rw [endpointsOf_cons_self h, List.filter_cons_of_pos (by simp [hown, h]), List.map_cons, ih]
      · rw [endpointsOf_cons_of_ne h, List.filter_cons_of_neg (by simp [hown, h]), ih]

/-- The endpoints of all actions are those of the table, each as often as it is there. -/
theorem flatMap_endpointsOf_perm (es : List Entry) :
    ((actions es).flatMap fun a => endpointsOf a es).Perm (es.filterMap Entry.endpoint?) := by
  refine flatMap_filter_perm Endpoint.action (nodup_actions es) fun e he => ?_
  obtain ⟨entry, hm, hentry⟩ := List.mem_filterMap.1 he
  cases entry with
  | endpoint e' =>
    obtain rfl := Option.some.inj hentry
    exact action_mem_actions hm
  | folder f => exact nomatch hentry

theorem endpointsOf_concat (a : Text) (es : List Entry) (e : Endpoint) :
    endpointsOf a (es ++ [.endpoint e]) =
      if e.action = a then endpointsOf a es ++ [e] else endpointsOf a es := by
  rw [endpointsOf_append]
  split
  · rename_i h
    rw [endpointsOf_cons_self h]
    rfl
  · rename_i h
    rw [endpointsOf_cons_of_ne h]
    exact List.append_nil _

/-- What is grouped in one pass is what is found action by action. -/
theorem patternsByAction_eq (es : List Entry) :
    patternsByAction es =
      (actions es).map fun a => (a, (endpointsOf a es).map Endpoint.pattern) := by
  induction es using List.reverseRecOn with
  | nil => rfl
  | append_singleton es entry ih =>
    have hstep : patternsByAction (es ++ [entry]) = addPattern (patternsByAction es) entry :=
      List.foldl_concat ..
    rw [hstep, ih]
    cases entry with
    | folder f =>
      rw [actions_concat_folder]
      refine List.map_congr_left fun a _ => ?_
      rw [endpointsOf_append]
      exact congrArg (fun found => (a, found.map Endpoint.pattern)) (List.append_nil _).symm
    | endpoint e =>
      have hnone : e.action ∉ actions es → (endpointsOf e.action es).map Endpoint.pattern = [] := by
        intro hnew
        rw [List.map_eq_nil_iff, List.eq_nil_iff_forall_not_mem]
        intro e' he'
        obtain ⟨hm, ha⟩ := mem_endpointsOf_iff.1 he'
        exact hnew (ha ▸ action_mem_actions hm)
      have hensure := Assoc.ensure_map (fun a => (endpointsOf a es).map Endpoint.pattern) hnone
      change Assoc.adjust e.action _ (Assoc.ensure e.action [] _) = _
      rw [hensure, ← actions_concat_endpoint, Assoc.adjust_map (nodup_actions _)]
      refine List.map_congr_left fun a _ => ?_
      rw [endpointsOf_concat]
      by_cases h : e.action = a
      · rw [if_pos h, if_pos h.symm, List.map_append, List.map_singleton]
      · rw [if_neg h, if_neg (Ne.symm h)]

/-! ### What is listed -/

/-- Names are listed of a table, and under each of them some of its endpoints: the actions in the
order in which they first come, and under each the entries of the table that have it, in order. -/
structure Lists (es : List Entry) (names : List Text) (served : Text → List Endpoint) : Prop where
  nodup : names.Nodup
  mem_iff (a : Text) : a ∈ names ↔ ∃ e, .endpoint e ∈ es ∧ e.action = a
  ordered : names.Pairwise fun a b =>
    (es.map Entry.action?).idxOf (some a) < (es.map Entry.action?).idxOf (some b)
  inOrder (a : Text) :
    (served a).map Entry.endpoint = es.filter fun entry => entry.action? == some a
  noFolder (a : Text) (f : Folder) : .folder f ∉ (served a).map Entry.endpoint
  underOne (e : Endpoint) : .endpoint e ∈ es → ∃! a, a ∈ names ∧ e ∈ served a
  count (e : Endpoint) : (names.flatMap served).count e = es.count (.endpoint e)

/-- The actions of a table and their endpoints are so listed. -/
theorem lists_actions (es : List Entry) : Lists es (actions es) fun a => endpointsOf a es where
  nodup := nodup_actions es
  mem_iff a := by
    constructor
    · intro h
      obtain ⟨entry, hm, ha⟩ := List.mem_map.1 (mem_actions_iff.1 h)
      cases entry with
      | endpoint e => exact ⟨e, hm, Option.some.inj ha⟩
      | folder f => exact nomatch ha
    · rintro ⟨e, hm, rfl⟩
      exact action_mem_actions hm
  ordered := pairwise_actions es
  inOrder a := map_endpoint_endpointsOf a es
  noFolder a f := by
    intro h
    obtain ⟨e, -, he⟩ := List.mem_map.1 h
    exact nomatch he
  underOne e h := by
    refine ⟨e.action, ⟨action_mem_actions h, mem_endpointsOf_iff.2 ⟨h, rfl⟩⟩, ?_⟩
    rintro a ⟨-, ha⟩
    exact (mem_endpointsOf_iff.1 ha).2.symm
  count e := by
    rw [(flatMap_endpointsOf_perm es).count_eq, Entry.count_filterMap_endpoint?]

end Table

end Routing
