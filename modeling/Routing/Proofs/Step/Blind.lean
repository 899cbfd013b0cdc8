import Routing.Proofs.Step.Ends

/-!
# Steps that do not see a difference

A step is `Blind` to a relation between states if it cannot tell related states apart: from either it
reports the same and ends the same, and the states that it leads to are related again.  A computation
is blind if its parts are, one lemma for each way of putting steps together, and what is blind tells
nothing after any session of blind steps: `blind_after`.
-/

namespace Routing

variable {α β σ τ : Type} {R : σ → σ → Prop}

namespace Outcome

/-- What two outcomes let the outside see is the same, and the states are related. -/
structure Alike (R : σ → σ → Prop) (x y : Outcome σ α) : Prop where
  events : y.events = x.events
  state : R x.state y.state
  result : y.result = x.result

theorem Alike.andThen {x y : Outcome σ α} {f g : α → σ → Outcome σ β} (h : Alike R x y)
    (hf : ∀ a s t, R s t → Alike R (f a s) (g a t)) : Alike R (x.andThen f) (y.andThen g) := by
  obtain ⟨events, s, result⟩ := x
  obtain ⟨events', t, result'⟩ := y
  obtain ⟨he, hs, hr⟩ := h
  dsimp only at he hs hr
  subst he hr
  cases result' with
  | error fault => exact ⟨rfl, hs, rfl⟩
  | ok a =>
    have ha := hf a s t hs
    rw [andThen_ok, andThen_ok]
    exact ⟨congrArg (events' ++ ·) ha.events, ha.state, ha.result⟩

end Outcome

namespace Step

/-- From related states a step reports the same and ends the same, and it leads to related states.
-/
def Blind (R : σ → σ → Prop) (x : Step σ α) : Prop :=
  ∀ s t, R s t → Outcome.Alike R (x.run s) (x.run t)

theorem blind_pure (a : α) : Blind R (pure a) := fun _ _ hr => ⟨rfl, hr, rfl⟩

theorem blind_fail (fault : Fault) : Blind R (fail fault : Step σ α) := fun _ _ hr => ⟨rfl, hr, rfl⟩

theorem blind_emit (event : Event) : Blind R (emit event) := fun _ _ hr => ⟨rfl, hr, rfl⟩

theorem blind_log (level : Level) (message : Text) : Blind R (log level message) :=
  blind_emit _

theorem blind_ofExcept (x : Except Fault α) : Blind R (ofExcept x) := by
  cases x with
  | error fault => exact blind_fail fault
  | ok a => exact blind_pure a

theorem blind_modify {f : σ → σ} (h : ∀ s t, R s t → R (f s) (f t)) : Blind R (modify f) :=
  fun s t hr => ⟨rfl, h s t hr, rfl⟩

variable {x : Step σ α} {f : α → Step σ β}

theorem Blind.bind (hx : Blind R x) (hf : ∀ a, Blind R (f a)) : Blind R (x >>= f) :=
  fun s t hr => (hx s t hr).andThen fun a => hf a

theorem Blind.map (hx : Blind R x) (g : α → β) : Blind R (x >>= fun a => pure (g a)) :=
  hx.bind fun a => blind_pure (g a)

/-- What follows reading the state may look at what related states have in common. -/
theorem blind_read_bind {f : σ → Step σ β} (hf : ∀ s t, R s t → f t = f s)
    (h : ∀ s, Blind R (f s)) : Blind R (read >>= f) := by
  intro s t hr
  have hst : (f t).run t = (f s).run t := by rw [hf s t hr]
  rw [run_bind, run_bind, run_read, run_read, Outcome.andThen_ok, Outcome.andThen_ok, hst]
  exact h s s t hr

theorem Blind.mapFault (hx : Blind R x) (g : Fault → Fault) : Blind R (mapFault g x) :=
  fun s t hr => ⟨(hx s t hr).events, (hx s t hr).state, congrArg (Except.mapError g) (hx s t hr).result⟩

theorem blind_on {part : Part σ τ} (x : Step τ α) (hg : ∀ s t, R s t → part.get t = part.get s)
    (hs : ∀ s t u, R s t → R (part.set u s) (part.set u t)) : Blind R (on part x) := by
  intro s t hr
  have ht : (on part x).run t = ⟨(x.run (part.get s)).events,
      part.set (x.run (part.get s)).state t, (x.run (part.get s)).result⟩ := by
    rw [← hg s t hr]
    rfl
  rw [ht]
  exact ⟨rfl, hs s t _ hr, rfl⟩

/-! ### Rows -/

theorem blind_forEach {f : α → Step σ Unit} (h : ∀ a, Blind R (f a)) (as : List α) :
    Blind R (forEach f as) := by
  induction as with
  | nil => exact blind_pure ()
  | cons a as ih => exact (h a).bind fun _ => ih

theorem blind_mapList (h : ∀ a, Blind R (f a)) (as : List α) : Blind R (mapList f as) := by
  induction as with
  | nil => exact blind_pure []
  | cons a as ih => exact (h a).bind fun b => ih.bind fun bs => blind_pure (b :: bs)

theorem blind_flatMapList {f : α → Step σ (List β)} (h : ∀ a, Blind R (f a)) (as : List α) :
    Blind R (flatMapList f as) :=
  (blind_mapList h as).map List.flatten

/-- Sessions of blind steps leave related states related. -/
theorem blind_after {xs : List (Step σ α)} (h : ∀ x ∈ xs, Blind R x) {s t : σ} (hr : R s t) :
    R (after xs s) (after xs t) := by
  induction xs generalizing s t with
  | nil => exact hr
  | cons x xs ih =>
    have hx : Blind R x := h x List.mem_cons_self
    exact ih (fun y hy => h y (List.mem_cons_of_mem _ hy)) (hx s t hr).state

end Step

end Routing
