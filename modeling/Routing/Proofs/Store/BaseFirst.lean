import Routing.Proofs.Store.Targets

/-!
# The base scope comes first

The scopes of a plugin are only ever written after the base scope has been made sure of.  So wherever
a plugin has scopes at all, that of the base level is the first of them, and it says from the start
whether the plugin is enabled; no other target comes before it, and it is never written a second
time (`baseFirst_update`).  In a store this is so of every plugin, whether it has been attached or
its settings were refused; `HoldsBase` says in addition which plugins have scopes.
-/

namespace Routing

/-- Settings say something under every key they did before others are merged into them. -/
theorem Assoc.isSome_get?_merge {α : Type} {key : Text} {t : Assoc α}
    (h : (get? key t).isSome = true) (new : Assoc α) : (get? key (merge t new)).isSome = true := by
  induction new generalizing t with
  | nil => exact h
  | cons p new ih =>
    refine ih ?_
    by_cases hk : key = p.1
    · rw [hk, get?_set_self]
      rfl
    · rw [get?_set_of_ne hk]
      exact h

namespace Scopes

/-- A scope says whether the plugin is enabled. -/
def SaysEnabled (scope : Scope) : Prop := (Assoc.get? "enabled" scope.settings).isSome = true

/-- The first scope is that of the base level and says whether the plugin is enabled, and no other
scope is of the base level. -/
def BaseFirst (scopes : Scopes) : Prop :=
  ∃ scope rest, scopes = (.text baseLevel, scope) :: rest ∧ SaysEnabled scope ∧
    ∀ p ∈ rest, p.1 ≠ .text baseLevel

variable {scopes : Scopes}

theorem baseFirst_base : BaseFirst [(.text baseLevel, Scope.base)] :=
  ⟨Scope.base, [], rfl, rfl, fun _ hp => absurd hp List.not_mem_nil⟩

/-- Whichever scope is changed, the base scope stays first, if the change leaves a scope saying
whether the plugin is enabled. -/
theorem baseFirst_update (h : scopes.BaseFirst) {f : Scope → Scope}
    (hf : ∀ scope, SaysEnabled scope → SaysEnabled (f scope)) (target : Value) (start : Scope) :
    BaseFirst (Keyed.update target start f scopes) := by
  obtain ⟨scope, rest, rfl, hsays, hrest⟩ := h
  unfold Keyed.update
  split
  · exact ⟨f scope, rest, rfl, hf scope hsays, hrest⟩
  · rename_i hother
    have ht : target ≠ .text baseLevel := by
      rintro rfl
      simp at hother
    exact ⟨scope, _, rfl, hsays, Keyed.forall_mem_update hrest ht fun _ hp => hp⟩

theorem baseFirst_write (h : scopes.BaseFirst) (target : Value) (settings : Settings) :
    BaseFirst (write target settings scopes) := by
  unfold write
  split
  · exact h
  · refine baseFirst_update h (fun scope hs => ?_) target Scope.empty
    exact Assoc.isSome_get?_merge hs settings

theorem baseFirst_setSwitch (h : scopes.BaseFirst) (target : Text) (on : Bool) :
    BaseFirst (setSwitch target on scopes) := by
  refine baseFirst_update h (fun scope hs => ?_) (.text target) Scope.empty
  exact hs

/-- Scopes in which the base scope comes first are not written when it is made sure of. -/
theorem BaseFirst.update_id (h : scopes.BaseFirst) :
    Keyed.update (.text baseLevel) Scope.base id scopes = scopes := by
  obtain ⟨scope, rest, rfl, -, -⟩ := h
  simp [Keyed.update]

end Scopes

namespace Store

variable {names : List Text} {store store' : Store} {plugin other : Text} {target : Value}
  {settings : Settings}

/-- Wherever a plugin has scopes the base scope comes first, and the plugins of some names have. -/
def HoldsBase (names : List Text) (store : Store) : Prop :=
  ∀ plugin, (store.owned plugin).BaseFirst ∨ plugin ∉ names ∧ store.owned plugin = []

theorem holdsBase_nil : HoldsBase [] [] := fun _ => .inr ⟨List.not_mem_nil, rfl⟩

/-- Once the base scope has been made sure of, it comes first. -/
theorem HoldsBase.scopes (h : store.HoldsBase names) (plugin : Text) :
    (store.scopes plugin).BaseFirst := by
  rw [scopes_eq]
  rcases h plugin with hbase | ⟨-, hnone⟩
  · rwa [hbase.update_id]
  · rw [hnone]
    exact Scopes.baseFirst_base

/-- Changing the scopes of a plugin, which it then has, leaves the base scope first. -/
theorem HoldsBase.adjust (h : store.HoldsBase names) {f : Scopes → Scopes}
    (hf : ∀ scopes : Scopes, scopes.BaseFirst → (f scopes).BaseFirst) (plugin : Text) :
    HoldsBase names (Assoc.adjust plugin f (store.withScopes plugin)) := by
  intro other
  by_cases ho : other = plugin
  · subst ho
    rw [owned_adjust_self]
    exact .inl (hf _ (h.scopes other))
  · rw [owned_adjust_of_ne ho]
    exact h other

/-- A plugin that has been given scopes is one of those that have them. -/
theorem HoldsBase.withScopes (h : store.HoldsBase names) (plugin : Text) :
    (store.withScopes plugin).HoldsBase (names ++ [plugin]) := by
  intro other
  by_cases ho : other = plugin
  · subst ho
    rw [owned_withScopes_self]
    exact .inl (h.scopes other)
  · rw [owned_withScopes_of_ne ho]
    refine (h other).imp id fun ⟨hn, hnone⟩ => ⟨?_, hnone⟩
    intro hm
    exact (List.mem_append.1 hm).elim hn fun hm => ho (List.mem_singleton.1 hm)

theorem HoldsBase.mono (h : store.HoldsBase names) {fewer : List Text}
    (hf : ∀ name ∈ fewer, name ∈ names) : store.HoldsBase fewer := by
  intro plugin
  exact (h plugin).imp id fun ⟨hn, hnone⟩ => ⟨fun hm => hn (hf plugin hm), hnone⟩

theorem HoldsBase.setSwitch (h : store.HoldsBase names) (plugin target : Text) (on : Bool) :
    (store.setSwitch plugin target on).HoldsBase names :=
  h.adjust (fun _ hs => Scopes.baseFirst_setSwitch hs target on) plugin

theorem HoldsBase.write (h : store.HoldsBase names)
    (hw : store.write plugin target settings = .ok store') : store'.HoldsBase names := by
  unfold Store.write at hw
  split at hw
  · obtain rfl := Except.ok.inj hw
    exact h
  · split at hw
    · obtain rfl := Except.ok.inj hw
      exact h.adjust (fun _ hs => Scopes.baseFirst_write hs target settings) plugin
    · exact nomatch hw

/-- However a plugin is configured, the base scope stays first. -/
theorem HoldsBase.configure (h : store.HoldsBase names) {cls : PluginClass} {given : Settings}
    (hc : Plugin.configure cls given store = .ok store') : store'.HoldsBase names :=
  Plugin.configure_induction (P := HoldsBase names) hc h fun _ _ _ _ _ hs hw => hs.write hw

/-- A plugin that has to have scopes has them in the store, and the base scope comes first. -/
theorem HoldsBase.exists_scopes (h : store.HoldsBase names) (hn : plugin ∈ names) :
    ∃ scopes, Assoc.get? plugin store = some scopes ∧ scopes.BaseFirst := by
  rcases h plugin with hbase | ⟨hn', -⟩
  · unfold owned at hbase
    cases hg : Assoc.get? plugin store with
    | some scopes =>
      rw [hg] at hbase
      exact ⟨scopes, rfl, hbase⟩
    | none =>
      rw [hg] at hbase
      obtain ⟨scope, rest, he, -⟩ := hbase
      exact nomatch he
  · exact absurd hn hn'

end Store

end Routing
