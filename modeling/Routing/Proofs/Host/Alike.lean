import Routing.Host
import Routing.Proofs.Step.Agrees

/-!
# Hosts that were asked for the same

A layer shows in what a host keeps: it is part of a handler, and may give the handler its name.  Two
hosts are `Alike` if that is all they differ in, the second having the handlers without layers.
Whatever a host is asked for comes to the same for two that are alike: `sameEnd_expose`,
`sameEnd_serve`, `sameEnd_register`.
-/

namespace Routing

/-! ### Tables with related values -/

namespace Assoc

variable {α β : Type} {R S : α → β → Prop} {t : Assoc α} {u : Assoc β} {key : Text} {a : α} {b : β}

/-- Two tables have the same keys in the same order, and related values under them. -/
def Matches (R : α → β → Prop) : Assoc α → Assoc β → Prop :=
  List.Forall₂ fun p q => q.1 = p.1 ∧ R p.2 q.2

theorem Matches.imp (h : ∀ a b, R a b → S a b) (ht : Matches R t u) : Matches S t u :=
  List.Forall₂.imp (fun p q hpq => ⟨hpq.1, h p.2 q.2 hpq.2⟩) ht

/-- What is found under a key in tables that match. -/
theorem Matches.get?_cases (h : Matches R t u) (key : Text) :
    (get? key t = none ∧ get? key u = none) ∨
      ∃ a b, get? key t = some a ∧ get? key u = some b ∧ R a b := by
  induction h with
  | nil => exact .inl ⟨rfl, rfl⟩
  | @cons p q t u hp _ ih =>
    obtain ⟨k, a⟩ := p
    obtain ⟨k', b⟩ := q
    obtain ⟨rfl, hr⟩ := hp
    by_cases hk : k' = key
    · exact .inr ⟨a, b, if_pos hk, if_pos hk, hr⟩
    · simpa [get?, hk] using ih

theorem Matches.set (h : Matches R t u) (hr : R a b) (key : Text) :
    Matches R (set key a t) (set key b u) := by
  induction h with
  | nil => exact .cons ⟨rfl, hr⟩ .nil
  | @cons p q t u hp ht ih =>
    obtain ⟨k, a'⟩ := p
    obtain ⟨k', b'⟩ := q
    obtain ⟨rfl, hr'⟩ := hp
    unfold Assoc.set
    by_cases hk : k' = key
    · rw [if_pos hk, if_pos hk]
      exact .cons ⟨rfl, hr⟩ ht
    · rw [if_neg hk, if_neg hk]
      exact .cons ⟨rfl, hr'⟩ ih

end Assoc

/-! ### Without layers -/

/-- A handler without its layers. -/
def Handler.bare (h : Handler) : Handler := { h with layers := [] }

/-- A route with the handler without its layers. -/
def Route.bare (r : Route) : Route := { r with handler := r.handler.bare }

/-- What was asked of a host, but for the name of the handler. -/
def HostCall.unnamed : HostCall → HostCall
  | .register verb pattern _ => .register verb pattern none
  | .registerVerb verb pattern _ => .registerVerb verb pattern none
  | .serve pattern directory => .serve pattern directory

namespace Host

/-- The second host is as the first, was asked for the same but for the names of handlers, and has
its handlers without their layers. -/
def Alike (h g : Host) : Prop :=
  ∃ calls : List HostCall, calls.map HostCall.unnamed = h.calls.map HostCall.unnamed ∧
    g = { h with calls, handlers := h.handlers.map Handler.bare }

/-- Alike, and no handler has more layers than that. -/
def AlikeWithin (most : Nat) (h g : Host) : Prop :=
  h.Alike g ∧ ∀ handler ∈ h.handlers, handler.layers.length ≤ most

variable {most : Nat} {h g : Host}

theorem alikeWithin_self (hh : h.handlers = []) (most : Nat) : AlikeWithin most h h := by
  refine ⟨⟨h.calls, rfl, ?_⟩, fun handler hm => ?_⟩
  · rw [hh, List.map_nil, ← hh]
  · rw [hh] at hm
    exact absurd hm List.not_mem_nil

theorem sameEnd_expose (ha : AlikeWithin most h g) (key : Value) :
    SameEnd (AlikeWithin most) (h.expose key) (g.expose key) := by
  obtain ⟨⟨calls, hc, rfl⟩, hf⟩ := ha
  unfold expose
  cases h.context with
  | some keys =>
    dsimp only
    split
    · exact .ok ⟨⟨calls, hc, rfl⟩, hf⟩
    · exact .error _
  | none =>
    cases h.locals with
    | some keys =>
      dsimp only
      split
      · exact .ok ⟨⟨calls, hc, rfl⟩, hf⟩
      · exact .error _
    | none => exact .error _

theorem sameEnd_serve (ha : AlikeWithin most h g) (pattern directory : Text) :
    SameEnd (AlikeWithin most) (h.serve pattern directory) (g.serve pattern directory) := by
  obtain ⟨⟨calls, hc, rfl⟩, hf⟩ := ha
  unfold serve
  dsimp only
  split
  · refine .ok ⟨⟨calls ++ [.serve pattern directory], ?_, rfl⟩, hf⟩
    rw [List.map_append, List.map_append, hc]
  · exact .error _

theorem sameEnd_register (ha : AlikeWithin most h g) {r : Route}
    (hr : r.handler.layers.length ≤ most) :
    SameEnd (AlikeWithin most) (h.register r) (g.register r.bare) := by
  obtain ⟨⟨calls, hc, rfl⟩, hf⟩ := ha
  -- Both ways of registering add one call, which differs by a name, and the handler.
  have hadded : ∀ call call' : HostCall, call'.unnamed = call.unnamed →
      AlikeWithin most
        { h with calls := h.calls ++ [call], handlers := h.handlers ++ [r.handler] }
        { h with
          calls := calls ++ [call']
          handlers := h.handlers.map Handler.bare ++ [r.handler.bare] } := by
    intro call call' hn
    refine ⟨⟨calls ++ [call'], ?_, ?_⟩, fun handler hm => ?_⟩
    · simp only [List.map_append, List.map_singleton, hc, hn]
    · simp only [List.map_append, List.map_singleton]
    · rcases List.mem_append.1 hm with hm | hm
      · exact hf handler hm
      · obtain rfl := List.mem_singleton.1 hm
        exact hr
  unfold register Route.bare
  dsimp only
  split
  · exact .ok (hadded _ _ rfl)
  · split
    · exact .ok (hadded _ _ rfl)
    · exact .error _

theorem AlikeWithin.handlerAt? (ha : AlikeWithin most h g) (index : Int) :
    g.handlerAt? index = (h.handlerAt? index).map Handler.bare := by
  obtain ⟨⟨calls, -, rfl⟩, -⟩ := ha
  cases index with
  | ofNat n => exact List.getElem?_map
  | negSucc n =>
    unfold Host.handlerAt?
    rw [← List.map_reverse]
    exact List.getElem?_map

theorem AlikeWithin.layers_le {index : Int} {handler : Handler} (ha : AlikeWithin most h g)
    (hh : h.handlerAt? index = some handler) : handler.layers.length ≤ most := by
  refine ha.2 handler ?_
  cases index with
  | ofNat n => exact List.mem_of_getElem? hh
  | negSucc n => exact List.mem_reverse.1 (List.mem_of_getElem? hh)

end Host

end Routing
