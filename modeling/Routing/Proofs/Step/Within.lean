import Routing.Step

/-!
# What a step can report and fail with

`Within E F x` bounds a step, whatever state it starts from: all that it reports is in `E`, and the
fault, if it ends with one, is in `F`.  `FailsWithin F` is the same for what has no state.  Both go
over from the parts of a computation to the whole.
-/

namespace Routing

variable {α β σ τ : Type} {E : Event → Prop} {F G : Fault → Prop}

/-! ### Without a state -/

/-- What ends well has gone well at every step. -/
theorem exists_of_bind_eq_ok {ε α β : Type} {x : Except ε α} {f : α → Except ε β} {b : β}
    (h : x >>= f = .ok b) : ∃ a, x = .ok a ∧ f a = .ok b := by
  cases x with
  | error e => exact nomatch h
  | ok a => exact ⟨a, rfl, h⟩

/-- The fault of a computation, if there is one, is in `F`. -/
def FailsWithin (F : Fault → Prop) (x : Except Fault α) : Prop :=
  ∀ fault, x = .error fault → F fault

namespace FailsWithin

theorem ok (a : α) : FailsWithin F (.ok a) := fun _ h => nomatch h

theorem error {fault : Fault} (h : F fault) : FailsWithin F (.error fault : Except Fault α) := by
  intro fault' he
  obtain rfl := Except.error.inj he
  exact h

theorem mono {x : Except Fault α} (hx : FailsWithin F x) (h : ∀ fault, F fault → G fault) :
    FailsWithin G x := fun fault he => h fault (hx fault he)

theorem bind {x : Except Fault α} {f : α → Except Fault β} (hx : FailsWithin F x)
    (hf : ∀ a, FailsWithin F (f a)) : FailsWithin F (x >>= f) := by
  cases x with
  | error fault => exact error (hx fault rfl)
  | ok a => exact hf a

theorem mapM {f : α → Except Fault β} (hf : ∀ a, FailsWithin F (f a)) (as : List α) :
    FailsWithin F (as.mapM f) := by
  induction as with
  | nil => exact ok []
  | cons a as ih =>
    rw [List.mapM_cons]
    exact (hf a).bind fun b => ih.bind fun bs => ok (b :: bs)

theorem foldlM {f : β → α → Except Fault β} (hf : ∀ b a, FailsWithin F (f b a)) (b : β)
    (as : List α) : FailsWithin F (as.foldlM f b) := by
  induction as generalizing b with
  | nil => exact ok b
  | cons a as ih =>
    rw [List.foldlM_cons]
    exact (hf b a).bind fun b' => ih b'

end FailsWithin

/-! ### With a state -/

namespace Step

/-- Whatever state a step starts from, all that it reports is in `E`, and its fault is in `F`. -/
def Within (E : Event → Prop) (F : Fault → Prop) (x : Step σ α) : Prop :=
  ∀ s, (∀ event ∈ (x.run s).events, E event) ∧ ∀ fault, (x.run s).result = .error fault → F fault

theorem within_pure (a : α) : Within E F (pure a : Step σ α) :=
  fun _ => ⟨fun _ h => absurd h List.not_mem_nil, fun _ h => nomatch h⟩

theorem within_fail {fault : Fault} (h : F fault) : Within E F (fail fault : Step σ α) :=
  fun _ => ⟨fun _ h => absurd h List.not_mem_nil, FailsWithin.error h⟩

theorem within_read : Within E F (read : Step σ σ) :=
  fun _ => ⟨fun _ h => absurd h List.not_mem_nil, fun _ h => nomatch h⟩

theorem within_modify (f : σ → σ) : Within E F (modify f) :=
  fun _ => ⟨fun _ h => absurd h List.not_mem_nil, fun _ h => nomatch h⟩

theorem within_log {level : Level} {message : Text} (h : E (.logged level message)) :
    Within E F (log level message : Step σ Unit) := by
  refine fun s => ⟨fun event he => ?_, fun _ h => nomatch h⟩
  obtain rfl := List.mem_singleton.1 he
  exact h

theorem within_ofExcept {x : Except Fault α} (h : FailsWithin F x) :
    Within E F (ofExcept x : Step σ α) := by
  cases x with
  | error fault => exact within_fail (h fault rfl)
  | ok a => exact within_pure a

theorem Within.bind {x : Step σ α} {f : α → Step σ β} (hx : Within E F x)
    (hf : ∀ a, Within E F (f a)) : Within E F (x >>= f) := by
  intro s
  have hx := hx s
  rw [run_bind]
  rcases hr : x.run s with ⟨first, s', fault | a⟩ <;> rw [hr] at hx
  · exact ⟨hx.1, FailsWithin.error (hx.2 fault rfl)⟩
  · obtain ⟨he, hr⟩ := hf a s'
    refine ⟨fun event hm => ?_, hr⟩
    rcases List.mem_append.1 hm with hm | hm
    · exact hx.1 event hm
    · exact he event hm

theorem Within.on {x : Step τ α} (hx : Within E F x) (part : Part σ τ) : Within E F (on part x) :=
  fun s => hx (part.get s)

theorem within_forEach {f : α → Step σ Unit} (h : ∀ a, Within E F (f a)) (as : List α) :
    Within E F (forEach f as) := by
  induction as with
  | nil => exact within_pure ()
  | cons a as ih => exact (h a).bind fun _ => ih

theorem within_mapList {f : α → Step σ β} (h : ∀ a, Within E F (f a)) (as : List α) :
    Within E F (mapList f as) := by
  induction as with
  | nil => exact within_pure []
  | cons a as ih => exact (h a).bind fun b => ih.bind fun bs => within_pure (b :: bs)

theorem within_flatMapList {f : α → Step σ (List β)} (h : ∀ a, Within E F (f a)) (as : List α) :
    Within E F (flatMapList f as) :=
  (within_mapList h as).bind fun bss => within_pure bss.flatten

end Step

end Routing
