import Mathlib.Data.List.Forall2
import Routing.Step

/-!
# Steps that go together

`Agrees R E Q x y` compares two steps that start from states related by `R`: they lead to related
states and end alike, with results related by `Q` or with the same fault.  The first may also end
with a fault in `E`, and then nothing is said of the second.  The relation goes over from the parts
of two computations to the whole, one lemma for each way of putting steps together.
-/

namespace Routing

variable {α β γ δ σ τ υ : Type}

/-- Two computations end alike: with related results, or with the same fault. -/
inductive SameEnd (Q : α → β → Prop) : Except Fault α → Except Fault β → Prop where
  | ok {a : α} {b : β} : Q a b → SameEnd Q (.ok a) (.ok b)
  | error (fault : Fault) : SameEnd Q (.error fault) (.error fault)

theorem sameEnd_refl (x : Except Fault α) : SameEnd Eq x x := by
  cases x with
  | error fault => exact .error fault
  | ok a => exact .ok rfl

theorem SameEnd.eq {x y : Except Fault α} (h : SameEnd Eq x y) : x = y := by
  cases h with
  | ok h => rw [h]
  | error fault => rfl

theorem SameEnd.eq_error {Q : α → β → Prop} {fault : Fault} {y : Except Fault β}
    (h : SameEnd Q (.error fault) y) : y = .error fault := by
  cases h
  rfl

theorem SameEnd.exists_eq_ok {Q : α → β → Prop} {a : α} {y : Except Fault β}
    (h : SameEnd Q (.ok a) y) : ∃ b, y = .ok b ∧ Q a b := by
  cases h with
  | ok h => exact ⟨_, rfl, h⟩

theorem SameEnd.exists_eq_ok_left {Q : α → β → Prop} {x : Except Fault α} {b : β}
    (h : SameEnd Q x (.ok b)) : ∃ a, x = .ok a ∧ Q a b := by
  cases h with
  | ok h => exact ⟨_, rfl, h⟩

theorem SameEnd.mapError {Q : α → β → Prop} {x : Except Fault α} {y : Except Fault β}
    (h : SameEnd Q x y) (f : Fault → Fault) : SameEnd Q (x.mapError f) (y.mapError f) := by
  cases h with
  | ok h => exact .ok h
  | error fault => exact .error (f fault)

theorem SameEnd.bind {Q : α → β → Prop} {P : γ → δ → Prop} {x : Except Fault α} {y : Except Fault β}
    {f : α → Except Fault γ} {g : β → Except Fault δ} (h : SameEnd Q x y)
    (hf : ∀ a b, Q a b → SameEnd P (f a) (g b)) : SameEnd P (x >>= f) (y >>= g) := by
  cases h with
  | ok h => exact hf _ _ h
  | error fault => exact .error fault

/-- A fold ends alike from related starts if each of its steps does. -/
theorem SameEnd.foldlM {Q : α → β → Prop} {f : α → γ → Except Fault α} {g : β → γ → Except Fault β}
    (hf : ∀ a b c, Q a b → SameEnd Q (f a c) (g b c)) {a : α} {b : β} (h : Q a b) (cs : List γ) :
    SameEnd Q (cs.foldlM f a) (cs.foldlM g b) := by
  induction cs generalizing a b with
  | nil => exact .ok h
  | cons c cs ih =>
    rw [List.foldlM_cons, List.foldlM_cons]
    exact (hf a b c h).bind fun _ _ h => ih h

namespace Step

/-- A step ends with a fault in `E`. -/
def EndsIn (E : Fault → Prop) (x : Step σ α) (s : σ) : Prop :=
  ∃ fault, (x.run s).result = .error fault ∧ E fault

theorem not_endsIn_of_isOk {E : Fault → Prop} {x : Step σ α} {s : σ}
    (h : (x.run s).result.isOk = true) : ¬ EndsIn E x s := by
  rintro ⟨fault, hf, -⟩
  rw [hf] at h
  exact nomatch h

/-- Started from related states, two steps lead to related states and end alike, unless the first
ends with a fault in `E`. -/
def Agrees (R : σ → τ → Prop) (E : Fault → Prop) (Q : α → β → Prop) (x : Step σ α) (y : Step τ β) :
    Prop :=
  ∀ s t, R s t → EndsIn E x s ∨ R (x.run s).state (y.run t).state ∧
    SameEnd Q (x.run s).result (y.run t).result

variable {R : σ → τ → Prop} {E : Fault → Prop} {Q : α → β → Prop} {P : γ → δ → Prop}

theorem agrees_pure {a : α} {b : β} (h : Q a b) : Agrees R E Q (pure a) (pure b) :=
  fun _ _ hr => .inr ⟨hr, .ok h⟩

theorem agrees_fail (fault : Fault) : Agrees R E Q (fail fault) (fail fault) :=
  fun _ _ hr => .inr ⟨hr, .error fault⟩

theorem agrees_ofExcept {x : Except Fault α} {y : Except Fault β} (h : SameEnd Q x y) :
    Agrees R E Q (ofExcept x) (ofExcept y) := by
  cases h with
  | ok h => exact agrees_pure h
  | error fault => exact agrees_fail fault

theorem agrees_log (level level' : Level) (message message' : Text) :
    Agrees R E Eq (log level message) (log level' message') :=
  fun _ _ hr => .inr ⟨hr, .ok rfl⟩

theorem agrees_modify {f : σ → σ} {g : τ → τ} (h : ∀ s t, R s t → R (f s) (g t)) :
    Agrees R E Eq (modify f) (modify g) :=
  fun s t hr => .inr ⟨h s t hr, .ok rfl⟩

theorem Agrees.bind {x : Step σ α} {y : Step τ β} {f : α → Step σ γ} {g : β → Step τ δ}
    (hx : Agrees R E Q x y) (hf : ∀ a b, Q a b → Agrees R E P (f a) (g b)) :
    Agrees R E P (x >>= f) (y >>= g) := by
  intro s t hr
  rcases hx s t hr with ⟨fault, hf, he⟩ | ⟨hr', hs⟩
  · refine .inl ⟨fault, ?_, he⟩
    rw [run_bind_of_fault hf]
  · cases ha : (x.run s).result with
    | error fault =>
      have hb : (y.run t).result = .error fault := (ha ▸ hs).eq_error
      rw [run_bind_of_fault ha, run_bind_of_fault hb]
      exact .inr ⟨hr', .error fault⟩
    | ok a =>
      obtain ⟨b, hb, hq⟩ := (ha ▸ hs).exists_eq_ok
      have hrest := hf a b hq _ _ hr'
      unfold EndsIn at hrest ⊢
      rw [run_bind_of_result ha, run_bind_of_result hb]
      exact hrest

theorem Agrees.map {x : Step σ α} {y : Step τ α} (h : Agrees R E Eq x y) {f : α → γ} {g : α → δ}
    (hp : ∀ a, P (f a) (g a)) :
    Agrees R E P (x >>= fun a => pure (f a)) (y >>= fun a => pure (g a)) := by
  refine h.bind ?_
  rintro a _ rfl
  exact agrees_pure (hp a)

/-- What follows reading the state may look at related states. -/
theorem agrees_read_bind {f : σ → Step σ γ} {g : τ → Step τ δ}
    (h : ∀ s t, R s t → Agrees R E P (f s) (g t)) : Agrees R E P (read >>= f) (read >>= g) := by
  have hread : Agrees R E R (read : Step σ σ) (read : Step τ τ) := fun _ _ hr => .inr ⟨hr, .ok hr⟩
  exact hread.bind h

theorem Agrees.mapFault {x : Step σ α} {y : Step τ β} (h : Agrees R E Q x y) {f : Fault → Fault}
    (hf : ∀ fault, E fault → E (f fault)) : Agrees R E Q (mapFault f x) (mapFault f y) := by
  intro s t hr
  rcases h s t hr with ⟨fault, hx, he⟩ | ⟨hr, hs⟩
  · refine .inl ⟨f fault, ?_, hf fault he⟩
    rw [run_mapFault, hx]
    rfl
  · exact .inr ⟨hr, hs.mapError f⟩

/-- The same step on parts that are the same. -/
theorem agrees_on {part : Part σ υ} {part' : Part τ υ} (x : Step υ α)
    (hg : ∀ s t, R s t → part'.get t = part.get s)
    (hs : ∀ s t u, R s t → R (part.set u s) (part'.set u t)) :
    Agrees R E Eq (on part x) (on part' x) := by
  intro s t hr
  have hp : part'.get t = part.get s := hg s t hr
  refine .inr ⟨?_, ?_⟩
  · have h := hs s t (x.run (part.get s)).state hr
    simp only [on, hp]
    exact h
  · simp only [on, hp]
    exact sameEnd_refl _

/-! ### Rows -/

theorem agrees_forEach {f : α → Step σ Unit} {g : β → Step τ Unit} {as : List α} {bs : List β}
    (h : List.Forall₂ (fun a b => Agrees R E Eq (f a) (g b)) as bs) :
    Agrees R E Eq (forEach f as) (forEach g bs) := by
  induction h with
  | nil => exact agrees_pure rfl
  | cons ha _ ih => exact ha.bind fun _ _ _ => ih

theorem agrees_mapList {f : α → Step σ γ} {g : α → Step τ δ}
    (h : ∀ a, Agrees R E P (f a) (g a)) (as : List α) :
    Agrees R E (List.Forall₂ P) (mapList f as) (mapList g as) := by
  induction as with
  | nil => exact agrees_pure .nil
  | cons a as ih =>
    refine (h a).bind fun c d hp => ?_
    exact ih.bind fun cs ds hps => agrees_pure (.cons hp hps)

theorem forall₂_flatten {css : List (List γ)} {dss : List (List δ)}
    (h : List.Forall₂ (List.Forall₂ P) css dss) : List.Forall₂ P css.flatten dss.flatten := by
  induction h with
  | nil => exact .nil
  | cons hp _ ih => exact List.rel_append hp ih

theorem agrees_flatMapList {f : α → Step σ (List γ)} {g : α → Step τ (List δ)}
    (h : ∀ a, Agrees R E (List.Forall₂ P) (f a) (g a)) (as : List α) :
    Agrees R E (List.Forall₂ P) (flatMapList f as) (flatMapList g as) :=
  (agrees_mapList h as).bind fun _ _ hps => agrees_pure (forall₂_flatten hps)

end Step

end Routing
