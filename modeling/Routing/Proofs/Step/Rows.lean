import Routing.Step

/-!
# Steps in a row

`Passes f s as events bs t` is a row of steps, one for each of `as`, that all end with a result: it
leads from `s` to `t`, reports `events` and gives `bs`.  Main facts: `run_mapList_eq_ok_iff` (a
`mapList` ends with results if its row passes) and `run_mapList_eq_error_iff` (it ends with a fault
if a row passes up to an element whose step fails).
-/

namespace Routing.Step

variable {σ α β : Type}

/-! ### One step after another -/

theorem run_bind_eq_ok_iff {x : Step σ α} {f : α → Step σ β} {s t : σ} {events : List Event}
    {b : β} : (x >>= f).run s = ⟨events, t, .ok b⟩ ↔
      ∃ first s' a rest, x.run s = ⟨first, s', .ok a⟩ ∧ (f a).run s' = ⟨rest, t, .ok b⟩ ∧
        events = first ++ rest := by
  rw [run_bind]
  rcases x.run s with ⟨first, s', fault | a⟩
  · simp
  · rcases hf : (f a).run s' with ⟨rest, s'', result⟩
    constructor
    · intro h
      simp only [Outcome.andThen_ok, hf, Outcome.mk.injEq] at h
      obtain ⟨rfl, rfl, rfl⟩ := h
      exact ⟨first, s', a, rest, rfl, hf, rfl⟩
    · rintro ⟨first', s₁, a', rest', hx, hr, rfl⟩
      simp only [Outcome.mk.injEq, Except.ok.injEq] at hx
      obtain ⟨rfl, rfl, rfl⟩ := hx
      rw [hf] at hr
      simp only [Outcome.mk.injEq] at hr
      obtain ⟨rfl, rfl, rfl⟩ := hr
      simp [hf]

theorem run_bind_eq_error_iff {x : Step σ α} {f : α → Step σ β} {s t : σ} {events : List Event}
    {fault : Fault} : (x >>= f).run s = ⟨events, t, .error fault⟩ ↔
      x.run s = ⟨events, t, .error fault⟩ ∨
      ∃ first s' a rest, x.run s = ⟨first, s', .ok a⟩ ∧
        (f a).run s' = ⟨rest, t, .error fault⟩ ∧ events = first ++ rest := by
  rw [run_bind]
  rcases x.run s with ⟨first, s', fault' | a⟩
  · simp
  · rcases hf : (f a).run s' with ⟨rest, s'', result⟩
    constructor
    · intro h
      simp only [Outcome.andThen_ok, hf, Outcome.mk.injEq] at h
      obtain ⟨rfl, rfl, rfl⟩ := h
      exact .inr ⟨first, s', a, rest, rfl, hf, rfl⟩
    · rintro (hx | ⟨first', s₁, a', rest', hx, hr, rfl⟩)
      · simp at hx
      · simp only [Outcome.mk.injEq, Except.ok.injEq] at hx
        obtain ⟨rfl, rfl, rfl⟩ := hx
        rw [hf] at hr
        simp only [Outcome.mk.injEq] at hr
        obtain ⟨rfl, rfl, rfl⟩ := hr
        simp [hf]

theorem run_ofExcept (x : Except Fault α) (s : σ) : (ofExcept x).run s = ⟨[], s, x⟩ := by
  cases x <;> rfl

/-- What is made of the result of a step makes no other difference. -/
theorem run_bind_pure (x : Step σ α) (f : α → β) (s : σ) : (x >>= fun a => pure (f a)).run s =
    ⟨(x.run s).events, (x.run s).state, (x.run s).result.map f⟩ := by
  rw [run_bind]
  rcases x.run s with ⟨events, s', fault | a⟩
  · rfl
  · exact Outcome.ext (List.append_nil events) rfl rfl

/-- Steps that come after the same step go on alike if they do from the state that it reaches. -/
theorem run_bind_congr {x : Step σ α} {f g : α → Step σ β} {s : σ}
    (h : ∀ a, (f a).run (x.run s).state = (g a).run (x.run s).state) :
    (x >>= f).run s = (x >>= g).run s := by
  rw [run_bind, run_bind]
  rcases hx : x.run s with ⟨first, s', fault | a⟩
  · rfl
  · rw [hx] at h
    rw [Outcome.andThen_ok, Outcome.andThen_ok, h]

/-! ### Rows -/

/-- A row of steps that all end with a result. -/
inductive Passes (f : α → Step σ β) : σ → List α → List Event → List β → σ → Prop where
  | nil (s : σ) : Passes f s [] [] [] s
  | cons {s s' t : σ} {a : α} {b : β} {as : List α} {bs : List β} {first rest : List Event} :
      (f a).run s = ⟨first, s', .ok b⟩ → Passes f s' as rest bs t →
      Passes f s (a :: as) (first ++ rest) (b :: bs) t

theorem run_mapList_eq_ok_iff {f : α → Step σ β} {s t : σ} {as : List α} {events : List Event}
    {bs : List β} : (mapList f as).run s = ⟨events, t, .ok bs⟩ ↔ Passes f s as events bs t := by
  constructor
  · intro h
    induction as generalizing s events bs with
    | nil =>
      simp only [mapList, run_pure, Outcome.mk.injEq, Except.ok.injEq] at h
      obtain ⟨rfl, rfl, rfl⟩ := h
      exact .nil s
    | cons a as ih =>
      obtain ⟨first, s', b, rest, ha, hr, rfl⟩ := run_bind_eq_ok_iff.1 h
      obtain ⟨rest', s'', bs', last, has, hl, rfl⟩ := run_bind_eq_ok_iff.1 hr
      simp only [run_pure, Outcome.mk.injEq, Except.ok.injEq] at hl
      obtain ⟨rfl, rfl, rfl⟩ := hl
      rw [List.append_nil]
      exact .cons ha (ih has)
  · intro h
    induction h with
    | nil s => rfl
    | cons ha _ ih => simp [mapList, ha, ih]

theorem run_mapList_eq_error_iff {f : α → Step σ β} {s t : σ} {as : List α} {events : List Event}
    {fault : Fault} : (mapList f as).run s = ⟨events, t, .error fault⟩ ↔
      ∃ before a after first last bs s', as = before ++ a :: after ∧
        Passes f s before first bs s' ∧ (f a).run s' = ⟨last, t, .error fault⟩ ∧
        events = first ++ last := by
  constructor
  · intro h
    induction as generalizing s events with
    | nil => simp [mapList] at h
    | cons a as ih =>
      rcases run_bind_eq_error_iff.1 h with ha | ⟨first, s', b, rest, ha, hr, rfl⟩
      · exact ⟨[], a, as, [], events, [], s, rfl, .nil s, ha, rfl⟩
      · rcases run_bind_eq_error_iff.1 hr with has | ⟨_, _, _, _, _, hl, _⟩
        · obtain ⟨before, c, after, first', last, bs, s'', rfl, hp, hc, rfl⟩ := ih has
          exact ⟨a :: before, c, after, first ++ first', last, b :: bs, s'', rfl, .cons ha hp, hc,
            (List.append_assoc _ _ _).symm⟩
        · simp at hl
  · rintro ⟨before, a, after, first, last, bs, s', rfl, hp, ha, rfl⟩
    induction hp with
    | nil s => simp [mapList, ha]
    | cons hb _ ih => simp [mapList, hb, ih ha]

end Routing.Step
