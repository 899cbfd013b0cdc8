import Routing.Fault

/-!
# Steps

A step reads and changes a state, reports events as it goes, and ends with a result or a fault.
What was reported and changed before a fault stays reported and changed: `run_bind_of_fault`.  Steps
in a row are `forEach` and `mapList`; a step on a part of a state is lifted by `Step.on`.
-/

namespace Routing

inductive Level where
  | debug
  | info
  | warning
  deriving DecidableEq

/-- What a step lets the outside see. -/
inductive Event where
  | logged (level : Level) (message : Text)
  | printed (line : Text)
  /-- A record that went to a logger of the caller's own. -/
  | recorded (message : Text)
  /-- A call that a counting plugin let through, under its label. -/
  | counted (label : Text) (action : Text)
  /-- The source of a table was read. -/
  | sourceRead
  deriving DecidableEq

/-- How a step ends: what it reported, the state it reached, and its result. -/
structure Outcome (σ α : Type) where
  events : List Event
  state : σ
  result : Except Fault α

/-- A computation on a state `σ`. -/
structure Step (σ α : Type) where
  run : σ → Outcome σ α

/-- A part of a state that can be read and replaced. -/
structure Part (σ τ : Type) where
  get : σ → τ
  set : τ → σ → σ

variable {σ τ α β γ : Type}

namespace Outcome

@[ext] theorem ext {x y : Outcome σ α} (he : x.events = y.events) (hs : x.state = y.state)
    (hr : x.result = y.result) : x = y := by
  cases x; cases y; simp_all

/-- Goes on from where a step ended, unless it ended with a fault. -/
def andThen (x : Outcome σ α) (f : α → σ → Outcome σ β) : Outcome σ β :=
  match x with
  | ⟨events, s, .ok a⟩ => { f a s with events := events ++ (f a s).events }
  | ⟨events, s, .error fault⟩ => ⟨events, s, .error fault⟩

@[simp] theorem andThen_ok (events : List Event) (s : σ) (a : α) (f : α → σ → Outcome σ β) :
    andThen ⟨events, s, .ok a⟩ f = { f a s with events := events ++ (f a s).events } := rfl

@[simp] theorem andThen_error (events : List Event) (s : σ) (fault : Fault)
    (f : α → σ → Outcome σ β) : andThen ⟨events, s, .error fault⟩ f = ⟨events, s, .error fault⟩ :=
  rfl

theorem andThen_assoc (x : Outcome σ α) (f : α → σ → Outcome σ β) (g : β → σ → Outcome σ γ) :
    (x.andThen f).andThen g = x.andThen fun a s => (f a s).andThen g := by
  obtain ⟨events, s, result⟩ := x
  cases result with
  | error fault => rfl
  | ok a =>
    rcases h : f a s with ⟨events', s', _ | b⟩ <;> simp [h]

end Outcome

namespace Step

instance : Monad (Step σ) where
  pure a := ⟨fun s => ⟨[], s, .ok a⟩⟩
  bind x f := ⟨fun s => (x.run s).andThen fun a => (f a).run⟩

/-- Ends with a fault. -/
def fail (fault : Fault) : Step σ α := ⟨fun s => ⟨[], s, .error fault⟩⟩

def emit (event : Event) : Step σ Unit := ⟨fun s => ⟨[event], s, .ok ()⟩⟩

def log (level : Level) (message : Text) : Step σ Unit := emit (.logged level message)

/-- The state itself. -/
def read : Step σ σ := ⟨fun s => ⟨[], s, .ok s⟩⟩

def modify (f : σ → σ) : Step σ Unit := ⟨fun s => ⟨[], f s, .ok ()⟩⟩

def ofExcept : Except Fault α → Step σ α
  | .ok a => pure a
  | .error fault => fail fault

/-- A change of the state that is made or, if it is a fault, is not. -/
def alter (f : σ → Except Fault σ) : Step σ Unit := do
  let s ← ofExcept (f (← read))
  modify fun _ => s

/-- A step whose fault, if it ends with one, is passed on as another. -/
def mapFault (f : Fault → Fault) (x : Step σ α) : Step σ α :=
  ⟨fun s => { x.run s with result := (x.run s).result.mapError f }⟩

/-- A step on a part, as a step on the whole. -/
def on (part : Part σ τ) (x : Step τ α) : Step σ α :=
  ⟨fun s =>
    let inner := x.run (part.get s)
    ⟨inner.events, part.set inner.state s, inner.result⟩⟩

/-- One step for each element, in order, until one fails. -/
def forEach (f : α → Step σ Unit) : List α → Step σ Unit
  | [] => pure ()
  | a :: as => do f a; forEach f as

/-- The results of one step for each element, in order, if none fails. -/
def mapList (f : α → Step σ β) : List α → Step σ (List β)
  | [] => pure []
  | a :: as => do
    let b ← f a
    let bs ← mapList f as
    pure (b :: bs)

/-- The results of `mapList`, put together. -/
def flatMapList (f : α → Step σ (List β)) (as : List α) : Step σ (List β) := do
  let bss ← mapList f as
  pure bss.flatten

@[simp] theorem run_pure (a : α) (s : σ) : (pure a : Step σ α).run s = ⟨[], s, .ok a⟩ := rfl

@[simp] theorem run_bind (x : Step σ α) (f : α → Step σ β) (s : σ) :
    (x >>= f).run s = (x.run s).andThen fun a => (f a).run := rfl

@[simp] theorem run_fail (fault : Fault) (s : σ) :
    (fail fault : Step σ α).run s = ⟨[], s, .error fault⟩ := rfl

@[simp] theorem run_emit (event : Event) (s : σ) : (emit event).run s = ⟨[event], s, .ok ()⟩ := rfl

@[simp] theorem run_read (s : σ) : read.run s = ⟨[], s, .ok s⟩ := rfl

@[simp] theorem run_modify (f : σ → σ) (s : σ) : (modify f).run s = ⟨[], f s, .ok ()⟩ := rfl

@[simp] theorem run_mapFault (f : Fault → Fault) (x : Step σ α) (s : σ) :
    (mapFault f x).run s = { x.run s with result := (x.run s).result.mapError f } := rfl

theorem run_alter (f : σ → Except Fault σ) (s : σ) : (alter f).run s = match f s with
    | .ok s' => ⟨[], s', .ok ()⟩
    | .error fault => ⟨[], s, .error fault⟩ := by
  unfold alter
  rw [run_bind, run_read, Outcome.andThen_ok]
  dsimp only
  cases f s <;> rfl

/-- A step that ends with a result is the same whatever becomes of faults. -/
theorem run_mapFault_of_result {f : Fault → Fault} {x : Step σ α} {s : σ} {a : α}
    (h : (x.run s).result = .ok a) : (mapFault f x).run s = x.run s := by
  rw [run_mapFault]
  rcases hx : x.run s with ⟨events, s', result⟩
  rw [hx] at h
  subst h
  rfl

/-- A step that comes after a fault is not taken; what the failed one did stays done. -/
theorem run_bind_of_fault {x : Step σ α} {f : α → Step σ β} {s : σ} {fault : Fault}
    (h : (x.run s).result = .error fault) :
    (x >>= f).run s = ⟨(x.run s).events, (x.run s).state, .error fault⟩ := by
  rw [run_bind]
  rcases hx : x.run s with ⟨events, s', result⟩
  rw [hx] at h
  subst h
  rfl

/-- A step that comes after a result starts from the state reached, and its events follow. -/
theorem run_bind_of_result {x : Step σ α} {f : α → Step σ β} {s : σ} {a : α}
    (h : (x.run s).result = .ok a) :
    (x >>= f).run s = { (f a).run (x.run s).state with
      events := (x.run s).events ++ ((f a).run (x.run s).state).events } := by
  rw [run_bind]
  rcases hx : x.run s with ⟨events, s', result⟩
  rw [hx] at h
  subst h
  rfl

theorem bind_assoc (x : Step σ α) (f : α → Step σ β) (g : β → Step σ γ) :
    x >>= f >>= g = x >>= fun a => f a >>= g :=
  congrArg Step.mk (funext fun s => Outcome.andThen_assoc (x.run s) _ _)

end Step

end Routing
