import Routing.Proofs.Binding.Refusals
import Routing.Proofs.Table.Source

/-!
# How the URL of an action is found

The endpoints of the action are gone through in table order.  Those that the parameters leave short
are passed over, and the first other one settles the matter; if there is none, the last one's fault
is reported.  Nothing else in the table matters.  Main statement: `urlOf_settled_by_first`.
-/

namespace Routing

/-! ### The endpoints of an action -/

namespace Table

variable {action : Text} {entries : List Entry} {e : Endpoint}

theorem endpointsOf_append (action : Text) (before after : List Entry) :
    endpointsOf action (before ++ after) =
      endpointsOf action before ++ endpointsOf action after := by
  unfold endpointsOf
  rw [List.filterMap_append, List.filter_append]

theorem endpointsOf_cons_self (h : e.action = action) (entries : List Entry) :
    endpointsOf action (.endpoint e :: entries) = e :: endpointsOf action entries := by
  unfold endpointsOf
  have he : Entry.endpoint? (.endpoint e) = some e := rfl
  rw [List.filterMap_cons_some he, List.filter_cons_of_pos (by simpa using h)]

theorem endpointsOf_cons_of_ne (h : e.action ≠ action) (entries : List Entry) :
    endpointsOf action (.endpoint e :: entries) = endpointsOf action entries := by
  unfold endpointsOf
  have he : Entry.endpoint? (.endpoint e) = some e := rfl
  rw [List.filterMap_cons_some he, List.filter_cons_of_neg (by simpa using h)]

theorem mem_endpointsOf_iff : e ∈ endpointsOf action entries ↔
    .endpoint e ∈ entries ∧ e.action = action := by
  unfold endpointsOf
  rw [List.mem_filter, List.mem_filterMap, beq_iff_eq]
  refine and_congr_left fun _ => ⟨?_, fun h => ⟨.endpoint e, h, rfl⟩⟩
  rintro ⟨entry, hm, he⟩
  cases entry with
  | endpoint e' =>
    obtain rfl := Option.some.inj he
    exact hm
  | folder f => exact nomatch he

/-- Entries that are not of the action are of no account. -/
theorem endpointsOf_filter (action : Text) (entries : List Entry) :
    endpointsOf action (entries.filter fun entry => entry.action? == some action) =
      endpointsOf action entries := by
  induction entries with
  | nil => rfl
  | cons entry entries ih =>
    unfold endpointsOf at ih ⊢
    cases entry with
    | endpoint e =>
      by_cases h : e.action = action
      · simp [Entry.action?, Entry.endpoint?, h] at ih ⊢
        exact ih
      · simp [Entry.action?, Entry.endpoint?, h] at ih ⊢
        exact ih
    | folder f =>
      simp [Entry.action?, Entry.endpoint?] at ih ⊢
      exact ih

end Table

/-! ### Going through them -/

namespace Reverse

/-- The parameters leave an endpoint short. -/
def FallsShort (strict : Bool) (params : List Value) (e : Endpoint) : Prop :=
  ∃ placeholder url, Binding.ofList strict e.pattern params = .ok (.short placeholder url)

variable {strict : Bool} {params : List Value} {last fault : Fault} {e : Endpoint}
  {es rest : List Endpoint} {placeholder url action : Text}

theorem search_cons_of_complete (h : Binding.ofList strict e.pattern params = .ok (.complete url))
    (last : Fault) (rest : List Endpoint) : search strict params last (e :: rest) = .ok url := by
  unfold search
  rw [h]

theorem search_cons_of_error (h : Binding.ofList strict e.pattern params = .error fault)
    (last : Fault) (rest : List Endpoint) :
    search strict params last (e :: rest) = .error fault := by
  unfold search
  rw [h]

theorem search_cons_of_short
    (h : Binding.ofList strict e.pattern params = .ok (.short placeholder url)) (last : Fault)
    (rest : List Endpoint) : search strict params last (e :: rest) =
      search strict params (.unfilledPlaceholder placeholder url) rest := by
  conv => lhs; unfold search
  rw [h]

/-- Endpoints that fall short are passed over. -/
theorem exists_search_append (h : ∀ e ∈ es, FallsShort strict params e) (last : Fault)
    (rest : List Endpoint) :
    ∃ last', search strict params last (es ++ rest) = search strict params last' rest := by
  induction es generalizing last with
  | nil => exact ⟨last, rfl⟩
  | cons e es ih =>
    -- Passing over `e` changes nothing but the fault to fall back on.
    obtain ⟨placeholder, url, he⟩ := h e List.mem_cons_self
    rw [List.cons_append, search_cons_of_short he]
    exact ih (fun e' he' => h e' (List.mem_cons_of_mem e he')) _

/-- A search that has an endpoint to try does not end as if it had none. -/
theorem search_ne_unknownAction (h : es ≠ []) (last : Fault) (action : Text) :
    search strict params last es ≠ .error (.unknownAction action) := by
  induction es generalizing last with
  | nil => exact absurd rfl h
  | cons e es ih =>
    cases hb : Binding.ofList strict e.pattern params with
    | error fault =>
      obtain ⟨-, key, v, rfl⟩ := Binding.failsWithin_ofList strict _ _ fault hb
      rw [search_cons_of_error hb]
      exact fun hs => nomatch hs
    | ok b =>
      cases b with
      | complete url =>
        rw [search_cons_of_complete hb]
        exact fun hs => nomatch hs
      | short placeholder url =>
        rw [search_cons_of_short hb]
        by_cases he : es = []
        · subst he
          exact fun hs => nomatch hs
        · exact ih he _

/-! ### The URL of an action -/

variable {entries before after : List Entry}

/-- The endpoints of the action up to one of them, if those before it fall short. -/
theorem exists_url_eq_search (hl : entries = before ++ .endpoint e :: after)
    (ha : e.action = action)
    (hs : ∀ e', .endpoint e' ∈ before → e'.action = action → FallsShort strict params e') :
    ∃ last, Reverse.url strict entries action params =
      search strict params last (e :: Table.endpointsOf action after) := by
  unfold Reverse.url
  rw [hl, Table.endpointsOf_append, Table.endpointsOf_cons_self ha]
  refine exists_search_append (fun e' he' => ?_) _ _
  obtain ⟨hm, ha'⟩ := Table.mem_endpointsOf_iff.1 he'
  exact hs e' hm ha'

theorem endpointsOf_eq_nil_iff :
    Table.endpointsOf action entries = [] ↔ ∀ e, .endpoint e ∈ entries → e.action ≠ action := by
  rw [List.eq_nil_iff_forall_not_mem]
  simp only [Table.mem_endpointsOf_iff, not_and, ne_eq]

theorem url_eq_unknownAction_iff :
    Reverse.url strict entries action params = .error (.unknownAction action) ↔
      ∀ e, .endpoint e ∈ entries → e.action ≠ action := by
  rw [← endpointsOf_eq_nil_iff]
  unfold Reverse.url
  constructor
  · intro hu
    apply Classical.byContradiction
    exact fun hn => search_ne_unknownAction hn _ action hu
  · intro hn
    rw [hn]
    rfl

/-- The URL of an action is settled by the endpoints of the action alone. -/
theorem url_eq_of_filter_eq {entries' : List Entry}
    (h : (entries.filter fun entry => entry.action? == some action) =
      entries'.filter fun entry => entry.action? == some action) (params : List Value) :
    Reverse.url strict entries action params = Reverse.url strict entries' action params := by
  refine url_congr ?_ params
  rw [← Table.endpointsOf_filter action entries, h, Table.endpointsOf_filter]

end Reverse

/-! ### Asking a router -/

namespace Application

open Reverse

variable {app : Application} {entries : List Entry}

theorem run_urlOf_of_built (h : app.router.table = some entries) (action : Text)
    (params : List Value) : (urlOf action params).run app =
      ⟨[], app, Reverse.url app.router.options.isStrict entries action params⟩ := by
  have hw : walk.run app = ⟨[], app, .ok entries⟩ := Table.run_walk_of_built h recipe
  unfold urlOf
  simp only [Step.run_bind, hw, Outcome.andThen_ok, Step.run_read, List.nil_append]
  cases Reverse.url app.router.options.isStrict entries action params <;> rfl

/-- A router whose table is built settles the URL of an action by the first endpoint of the action
that the parameters do not leave short: by its URL, or by the refusal of a value, which only strict
binding comes to.  If all of them are left short, it is the last one's fault, and if there is none,
there is no such action.  Entries that are not of the action make no difference, wherever they are.
-/
theorem urlOf_settled_by_first (h : app.router.table = some entries) (action : Text)
    (params : List Value) :
    let strict := app.router.options.isStrict
    let result := ((urlOf action params).run app).result
    (∀ before e after, entries = before ++ .endpoint e :: after → e.action = action →
      (∀ e', .endpoint e' ∈ before → e'.action = action → FallsShort strict params e') →
        (∀ url, Binding.ofList strict e.pattern params = .ok (.complete url) → result = .ok url) ∧
        (∀ fault, Binding.ofList strict e.pattern params = .error fault →
          result = .error fault ∧ Binding.IsRefusal strict fault) ∧
        ∀ placeholder url, Binding.ofList strict e.pattern params = .ok (.short placeholder url) →
          (∀ e', .endpoint e' ∈ after → e'.action ≠ action) →
            result = .error (.unfilledPlaceholder placeholder url)) ∧
    (result = .error (.unknownAction action) ↔ ∀ e, .endpoint e ∈ entries → e.action ≠ action) ∧
    (∀ app' entries', app'.router.table = some entries' →
      app'.router.options.isStrict = strict →
      (entries'.filter fun entry => entry.action? == some action) =
        (entries.filter fun entry => entry.action? == some action) →
      ((urlOf action params).run app').result = result) ∧
    ((urlOf action params).run app).state = app := by
  intro strict result
  have hr : result = Reverse.url strict entries action params :=
    congrArg Outcome.result (run_urlOf_of_built h action params)
  rw [hr]
  refine ⟨fun before e after hl ha hs => ?_, url_eq_unknownAction_iff,
    fun app' entries' h' ho hf => ?_, ?_⟩
  · obtain ⟨last, hu⟩ := exists_url_eq_search hl ha hs
    rw [hu]
    refine ⟨fun url hb => search_cons_of_complete hb _ _, fun fault hb => ?_,
      fun placeholder url hb hn => ?_⟩
    · exact ⟨search_cons_of_error hb _ _, Binding.failsWithin_ofList strict _ _ fault hb⟩
    · rw [search_cons_of_short hb, endpointsOf_eq_nil_iff.2 hn]
      rfl
  · rw [run_urlOf_of_built h', ho]
    exact url_eq_of_filter_eq hf params
  · rw [run_urlOf_of_built h]

/-- A router with a table of two variants of an action, the longer one first, and a folder between
them. -/
def twoVariants : Application :=
  { withRoutes [] [] with
    router.table := some [.endpoint ⟨.get, "/a/:x", "c", "m"⟩, .folder ⟨.get, "/a", "/srv"⟩,
      .endpoint ⟨.get, "/a", "c", "m"⟩] }

theorem urlOf_settled_by_first_two_variants :
    ((urlOf "c.m" []).run twoVariants).result = .ok "/a" := by
  have hb : twoVariants.router.table = some _ := rfl
  obtain ⟨hf, -⟩ := urlOf_settled_by_first hb "c.m" []
  have hs : FallsShort false [] ⟨.get, "/a/:x", "c", "m"⟩ := ⟨":x", "/a/:x", rfl⟩
  refine (hf [_, _] ⟨.get, "/a", "c", "m"⟩ [] rfl rfl fun e' he' _ => ?_).1 "/a" rfl
  simp only [List.mem_cons, Entry.endpoint.injEq, reduceCtorEq, List.not_mem_nil, or_false] at he'
  rw [he']
  exact hs

end Application

end Routing
