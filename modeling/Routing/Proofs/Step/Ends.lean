import Routing.Proofs.Step.Rows

/-!
# How steps end

`Ends x s t r` says that a step that starts from `s` leads to `t` and ends with `r`, whatever it
reports on the way.  A step ends in one way only (`Ends.unique`), and the lemmas below follow a step
from its parts.
-/

namespace Routing.Step

variable {σ α β : Type}

/-- A step leads from `s` to `t` and ends with `r`. -/
def Ends (x : Step σ α) (s t : σ) (r : Except Fault α) : Prop := ∃ events, x.run s = ⟨events, t, r⟩

variable {x : Step σ α} {s s' t t' : σ} {r r' : Except Fault α} {fault : Fault}

theorem Ends.state (h : Ends x s t r) : (x.run s).state = t := by
  obtain ⟨events, h⟩ := h
  rw [h]

theorem Ends.result (h : Ends x s t r) : (x.run s).result = r := by
  obtain ⟨events, h⟩ := h
  rw [h]

theorem ends_of_result (h : (x.run s).result = r) : Ends x s (x.run s).state r :=
  ⟨(x.run s).events, Outcome.ext rfl rfl h⟩

theorem Ends.unique (h : Ends x s t r) (h' : Ends x s t' r') : t = t' ∧ r = r' :=
  ⟨h.state.symm.trans h'.state, h.result.symm.trans h'.result⟩

theorem ends_pure (a : α) (s : σ) : Ends (pure a : Step σ α) s s (.ok a) := ⟨[], rfl⟩

theorem ends_fail (fault : Fault) (s : σ) : Ends (fail fault : Step σ α) s s (.error fault) :=
  ⟨[], rfl⟩

theorem ends_log (level : Level) (message : Text) (s : σ) : Ends (log level message) s s (.ok ()) :=
  ⟨_, rfl⟩

theorem ends_modify (f : σ → σ) (s : σ) : Ends (modify f) s (f s) (.ok ()) := ⟨[], rfl⟩

theorem ends_ofExcept (r : Except Fault α) (s : σ) : Ends (ofExcept r) s s r := by
  cases r with
  | error fault => exact ends_fail fault s
  | ok a => exact ends_pure a s

theorem ends_ofExcept_of_eq {e : Except Fault α} (h : e = r) (s : σ) : Ends (ofExcept e) s s r :=
  h ▸ ends_ofExcept e s

theorem Ends.bind {f : α → Step σ β} {a : α} {r : Except Fault β} (hx : Ends x s s' (.ok a))
    (hf : Ends (f a) s' t r) : Ends (x >>= f) s t r := by
  obtain ⟨first, hx⟩ := hx
  obtain ⟨rest, hf⟩ := hf
  exact ⟨first ++ rest, by rw [run_bind, hx, Outcome.andThen_ok, hf]⟩

theorem Ends.bind_of_fault (hx : Ends x s t (.error fault)) (f : α → Step σ β) :
    Ends (x >>= f) s t (.error fault) := by
  obtain ⟨events, hx⟩ := hx
  exact ⟨events, by rw [run_bind, hx, Outcome.andThen_error]⟩

theorem Ends.read_bind {f : σ → Step σ β} {r : Except Fault β} (h : Ends (f s) s t r) :
    Ends (read >>= f) s t r := by
  obtain ⟨events, h⟩ := h
  exact ⟨events, by rw [run_bind, run_read, Outcome.andThen_ok, h, List.nil_append]⟩

/-! ### Rows -/

variable {f : α → Step σ β} {a : α} {as : List α} {b : β} {bs : List β}

theorem ends_mapList_nil (f : α → Step σ β) (s : σ) : Ends (mapList f []) s s (.ok []) :=
  ends_pure [] s

theorem Ends.mapList_cons (ha : Ends (f a) s s' (.ok b)) (has : Ends (mapList f as) s' t (.ok bs)) :
    Ends (mapList f (a :: as)) s t (.ok (b :: bs)) :=
  ha.bind (has.bind (ends_pure (b :: bs) t))

/-- A row stops where one of its steps fails. -/
theorem Ends.mapList_append_cons (has : Ends (mapList f as) s s' (.ok bs))
    (ha : Ends (f a) s' t (.error fault)) (rest : List α) :
    Ends (mapList f (as ++ a :: rest)) s t (.error fault) := by
  obtain ⟨first, has⟩ := has
  obtain ⟨last, ha⟩ := ha
  have hp := run_mapList_eq_ok_iff.1 has
  exact ⟨first ++ last,
    run_mapList_eq_error_iff.2 ⟨as, a, rest, first, last, bs, s', rfl, hp, ha, rfl⟩⟩

/-! ### Where a step can lead -/

/-- Wherever a step starts and however it ends, the state before and the state after are related. -/
def Moves (R : σ → σ → Prop) (x : Step σ α) : Prop := ∀ s, R s (x.run s).state

variable {R : σ → σ → Prop}

theorem Moves.bind (ht : ∀ s₁ s₂ s₃, R s₁ s₂ → R s₂ s₃ → R s₁ s₃) {g : α → Step σ β}
    (hx : Moves R x) (hg : ∀ a, Moves R (g a)) : Moves R (x >>= g) := by
  intro s
  have hx := hx s
  rw [run_bind]
  rcases hr : x.run s with ⟨first, s', fault | a⟩ <;> rw [hr] at hx
  · exact hx
  · exact ht _ _ _ hx (hg a s')

theorem moves_pure (hr : ∀ s, R s s) (a : α) : Moves R (pure a : Step σ α) := fun s => hr s

theorem moves_fail (hr : ∀ s, R s s) (fault : Fault) : Moves R (fail fault : Step σ α) :=
  fun s => hr s

theorem moves_read (hr : ∀ s, R s s) : Moves R (read : Step σ σ) := fun s => hr s

theorem moves_log (hr : ∀ s, R s s) (level : Level) (message : Text) :
    Moves R (log level message : Step σ Unit) := fun s => hr s

theorem moves_ofExcept (hr : ∀ s, R s s) (x : Except Fault α) :
    Moves R (ofExcept x : Step σ α) := by
  cases x with
  | error fault => exact moves_fail hr fault
  | ok a => exact moves_pure hr a

theorem moves_mapList (hr : ∀ s, R s s) (ht : ∀ s₁ s₂ s₃, R s₁ s₂ → R s₂ s₃ → R s₁ s₃)
    {g : α → Step σ β} (hg : ∀ a, Moves R (g a)) (as : List α) : Moves R (mapList g as) := by
  induction as with
  | nil => exact moves_pure hr []
  | cons a as ih => exact (hg a).bind ht fun b => ih.bind ht fun bs => moves_pure hr (b :: bs)

theorem moves_flatMapList (hr : ∀ s, R s s) (ht : ∀ s₁ s₂ s₃, R s₁ s₂ → R s₂ s₃ → R s₁ s₃)
    {g : α → Step σ (List β)} (hg : ∀ a, Moves R (g a)) (as : List α) :
    Moves R (flatMapList g as) :=
  (moves_mapList hr ht hg as).bind ht fun bss => moves_pure hr bss.flatten

theorem moves_forEach (hr : ∀ s, R s s) (ht : ∀ s₁ s₂ s₃, R s₁ s₂ → R s₂ s₃ → R s₁ s₃)
    {g : α → Step σ Unit} (hg : ∀ a, Moves R (g a)) (as : List α) : Moves R (forEach g as) := by
  induction as with
  | nil => exact fun s => hr s
  | cons a as ih => exact (hg a).bind ht fun _ => ih

/-- However a step ends, it leaves the state as it was. -/
abbrev Reads (x : Step σ α) : Prop := Moves Eq x

theorem Reads.bind {g : α → Step σ β} (hx : Reads x) (hg : ∀ a, Reads (g a)) : Reads (x >>= g) :=
  Moves.bind (fun _ _ _ h h' => h.trans h') hx hg

/-- What only reads keeps every relation of a state to itself. -/
theorem Reads.moves (hx : Reads x) (hr : ∀ s, R s s) : Moves R x := fun s => hx s ▸ hr s

theorem reads_pure (a : α) : Reads (pure a : Step σ α) := moves_pure (fun _ => rfl) a

theorem reads_read : Reads (read : Step σ σ) := moves_read fun _ => rfl

theorem reads_fail (fault : Fault) : Reads (fail fault : Step σ α) :=
  moves_fail (fun _ => rfl) fault

theorem reads_ofExcept (x : Except Fault α) : Reads (ofExcept x : Step σ α) :=
  moves_ofExcept (fun _ => rfl) x

/-- Steps in a row go well if each does wherever the ones before it can lead. -/
theorem result_forEach (ht : ∀ s₁ s₂ s₃, R s₁ s₂ → R s₂ s₃ → R s₁ s₃) {g : α → Step σ Unit}
    (hg : ∀ a, Moves R (g a)) {as : List α} (hs : R s s')
    (ha : ∀ a ∈ as, ∀ t, R s t → ((g a).run t).result = .ok ()) :
    ((forEach g as).run s').result = .ok () := by
  -- What the steps so far may have changed is carried along by the relation from the first state.
  induction as generalizing s' with
  | nil => rfl
  | cons a as ih =>
    rw [forEach, run_bind_of_result (ha a List.mem_cons_self s' hs)]
    exact ih (ht _ _ _ hs (hg a s')) fun a' ha' => ha a' (List.mem_cons_of_mem a ha')

/-! ### Sessions -/

/-- The state after some steps, each of them taken whatever has become of the ones before. -/
def after (xs : List (Step σ α)) (s : σ) : σ := xs.foldl (fun s x => (x.run s).state) s

@[simp] theorem after_nil (s : σ) : after ([] : List (Step σ α)) s = s := rfl

@[simp] theorem after_cons (x : Step σ α) (xs : List (Step σ α)) (s : σ) :
    after (x :: xs) s = after xs (x.run s).state := rfl

end Routing.Step
