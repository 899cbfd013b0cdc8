import Routing.Proofs.Step.Rows
import Routing.Proofs.Store.Targets

/-!
# Configuring in turn

A plugin is configured for several targets one after the other, and a step that fails would leave
what has been written before it.  But the settings are the same for each, whether they are accepted
depends on neither the target nor what is in the store, and a target that comes from a text can be
written for: if anything fails it is the first target, before anything has been written
(`configureAmong_eq`).  So going target by target is one change of the store, that is made or is
not: `configureInTurn_eq`.
-/

namespace Routing

namespace Step

variable {σ α β : Type}

theorem eq_of_run {x y : Step σ α} (h : ∀ s, x.run s = y.run s) : x = y :=
  congrArg Step.mk (funext h)

/-- What has to be found out before a change is made can be found out as it is made. -/
theorem ofExcept_bind_alter (x : Except Fault α) (f : α → σ → Except Fault σ) :
    (ofExcept x >>= fun a => alter (f a)) = alter fun s => x >>= fun a => f a s := by
  refine eq_of_run fun s => ?_
  rw [run_bind, run_ofExcept]
  cases x with
  | error fault => rw [Outcome.andThen_error, run_alter]; rfl
  | ok a => rfl

theorem ite_alter (c : Prop) [Decidable c] (f g : σ → Except Fault σ) :
    (if c then alter f else alter g) = alter fun s => if c then f s else g s := by
  split <;> rfl

/-- Two changes that end alike end in the same state or with the same fault. -/
theorem run_alter_inj {f g : σ → Except Fault σ} {s : σ} :
    (alter f).run s = (alter g).run s ↔ f s = g s := by
  rw [run_alter, run_alter]
  cases f s <;> cases g s <;> simp

theorem forEach_congr {f g : α → Step σ Unit} {as : List α} (h : ∀ a ∈ as, f a = g a) :
    forEach f as = forEach g as := by
  induction as with
  | nil => rfl
  | cons a as ih =>
    obtain ⟨ha, hrest⟩ := List.forall_mem_cons.1 h
    rw [forEach, forEach, ha, ih hrest]

/-- Changes that cannot fail are made one after the other. -/
theorem run_forEach_alter_ok (g : σ → α → σ) (as : List α) (s : σ) :
    (forEach (fun a => alter fun s => .ok (g s a)) as).run s = ⟨[], as.foldl g s, .ok ()⟩ := by
  induction as generalizing s with
  | nil => rfl
  | cons a as ih => rw [forEach, run_bind, run_alter, Outcome.andThen_ok, ih]; rfl

/-- Changes that all fail, wherever they are tried, or none of which does, come to one. -/
theorem foldlM_of_map {f : σ → α → Except Fault σ} {x : Except Fault β} {g : β → σ → α → σ}
    (h : ∀ s a, f s a = x.map fun b => g b s a) {as : List α} (hne : as ≠ []) (s : σ) :
    as.foldlM f s = x.map fun b => as.foldl (g b) s := by
  cases x with
  | error fault =>
    obtain ⟨a, as, rfl⟩ := List.exists_cons_of_ne_nil hne
    rw [List.foldlM_cons, h]
    rfl
  | ok b =>
    obtain rfl : f = fun s a => .ok (g b s a) := funext fun s => funext fun a => h s a
    exact List.foldlM_pure

/-- They can be made one after the other. -/
theorem forEach_alter {f : σ → α → Except Fault σ} {x : Except Fault β} {g : β → σ → α → σ}
    (h : ∀ s a, f s a = x.map fun b => g b s a) (as : List α) :
    forEach (fun a => alter fun s => f s a) as = alter fun s => as.foldlM f s := by
  refine eq_of_run fun s => ?_
  cases as with
  | nil => rfl
  | cons a as =>
    rw [run_alter, foldlM_of_map h (List.cons_ne_nil a as)]
    cases x with
    | error fault =>
      rw [forEach, run_bind, run_alter, h]
      rfl
    | ok b =>
      obtain rfl : f = fun s a => .ok (g b s a) := funext fun s => funext fun a => h s a
      exact run_forEach_alter_ok (g b) (a :: as) s

end Step

/-! ### Writing for a target -/

namespace Store

variable {store : Store} {plugin : Text} {target : Value} {settings : Settings}

/-- The store with settings written for a target of a plugin. -/
def put (plugin : Text) (target : Value) (settings : Settings) (store : Store) : Store :=
  if settings = [] then store
  else Assoc.adjust plugin (Scopes.write target settings) (store.withScopes plugin)

theorem write_of_isKey (h : target.isKey = true) :
    store.write plugin target settings = .ok (store.put plugin target settings) := by
  unfold write put
  rw [if_pos h]
  split <;> rfl

/-- Settings can be written for any text. -/
theorem write_text (plugin t : Text) (settings : Settings) (store : Store) :
    store.write plugin (.text t) settings = .ok (store.put plugin (.text t) settings) :=
  write_of_isKey (by simp [Value.isKey])

/-- The store with the same settings written for several targets, in order. -/
def putEach (plugin : Text) (targets : List Text) (settings : Settings) (store : Store) : Store :=
  targets.foldl (fun store target => store.put plugin (.text target) settings) store

end Store

/-! ### Configuring -/

namespace Plugin

variable {plugin : Text} {acceptance : Acceptance} {settings given : Settings} {store : Store}

/-- What is written for each of several targets, or what is wrong with the settings. -/
def amongSeveral (acceptance : Acceptance) (settings : Settings) : Except Fault Settings := do
  if (Assoc.get? Settings.ownName settings).isSome ∨ (Assoc.get? targetName settings).isSome then
    throw .settingGivenTwice
  let more ← flagSettings (Assoc.get? flagsName settings)
  let all := Assoc.merge (Assoc.erase flagsName settings) more
  Settings.check acceptance all
  return all

/-- Whether one of several targets is configured depends on neither the target nor the store. -/
theorem configureAmong_eq (plugin : Text) (acceptance : Acceptance) (settings : Settings)
    (store : Store) (target : Text) : configureAmong plugin acceptance settings store target =
      (amongSeveral acceptance settings).map fun all => store.put plugin (.text target) all := by
  unfold configureAmong amongSeveral configureOne
  split
  · rfl
  · cases flagSettings (Assoc.get? flagsName settings) with
    | error fault => rfl
    | ok more =>
      change (Settings.check acceptance _ >>= fun _ => _) =
        Except.map _ (Settings.check acceptance _ >>= _)
      cases Settings.check acceptance (Assoc.merge (Assoc.erase flagsName settings) more) with
      | error fault => rfl
      | ok _ => exact Store.write_text plugin target _ store

/-- What is written for all of them is the same. -/
theorem foldlM_configureAmong (plugin : Text) (acceptance : Acceptance) (settings : Settings)
    {targets : List Text} (h : targets ≠ []) (store : Store) :
    targets.foldlM (configureAmong plugin acceptance settings) store =
      (amongSeveral acceptance settings).map fun all => store.putEach plugin targets all :=
  Step.foldlM_of_map (configureAmong_eq plugin acceptance settings) h store

/-- Configuring a plugin target by target is configuring it for all of them or for none. -/
theorem configureInTurn_eq (cls : PluginClass) (given : Settings) :
    configureInTurn cls given = Step.alter (configure cls given) := by
  unfold configureInTurn configure
  split
  · refine Step.eq_of_run fun s => ?_
    rw [Step.run_alter]
    rfl
  · split
    · rename_i acceptance _
      unfold configureAccepting configureEach
      simp only [Step.forEach_alter (configureAmong_eq _ _ _), Step.ofExcept_bind_alter,
        Step.ite_alter]
    · rfl

end Plugin

end Routing
