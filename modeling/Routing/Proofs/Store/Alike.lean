import Routing.Proofs.Step.Agrees
import Routing.Proofs.Store.Targets

/-!
# Stores that look alike

A store is only ever read through the scopes of its plugins, the base scope among them.  Two stores
in which every plugin has the same scopes are `Alike`: scopes that have been made sure of show
nowhere (`alike_withScopes`), and whatever is written into both leaves them alike.  Configuring a
plugin keeps any relation between two stores that every write keeps: `sameEnd_configure`.
-/

namespace Routing

theorem Keyed.update_id_update_id {α : Type} (s : Text) (start : α) (t : Keyed α) :
    update (.text s) start id (update (.text s) start id t) = update (.text s) start id t := by
  induction t with
  | nil => simp [update]
  | cons p t ih =>
    obtain ⟨k, a⟩ := p
    by_cases h : k = .text s <;> simp [update, h, ih]

namespace Store

variable {store store' : Store} {plugin : Text} {target : Value} {settings : Settings}

/-- Every plugin has the same scopes in both. -/
def Alike (store store' : Store) : Prop := ∀ plugin, store'.scopes plugin = store.scopes plugin

theorem alike_refl (store : Store) : store.Alike store := fun _ => rfl

/-- The scopes that a plugin has are there all the same if they have not been written. -/
theorem alike_withScopes (store : Store) (plugin : Text) : store.Alike (store.withScopes plugin) := by
  intro other
  by_cases ho : other = plugin
  · subst ho
    rw [scopes_eq, owned_withScopes_self, scopes_eq, Keyed.update_id_update_id]
  · rw [scopes_eq, owned_withScopes_of_ne ho, scopes_eq]

theorem scopes_adjust_self (f : Scopes → Scopes) (store : Store) :
    scopes plugin (Assoc.adjust plugin f (store.withScopes plugin)) =
      Keyed.update (.text baseLevel) Scope.base id (f (store.scopes plugin)) := by
  rw [scopes_eq, owned_adjust_self]

theorem scopes_adjust_of_ne {other : Text} (h : other ≠ plugin) (f : Scopes → Scopes)
    (store : Store) : scopes other (Assoc.adjust plugin f (store.withScopes plugin)) =
      store.scopes other := by
  rw [scopes_eq, owned_adjust_of_ne h, scopes_eq]

theorem Alike.withScopes (h : store.Alike store') (plugin : Text) :
    (store.withScopes plugin).Alike (store'.withScopes plugin) := by
  intro other
  rw [alike_withScopes store' plugin other, alike_withScopes store plugin other]
  exact h other

theorem Alike.adjust (h : store.Alike store') (plugin : Text) (f : Scopes → Scopes) :
    Alike (Assoc.adjust plugin f (store.withScopes plugin))
      (Assoc.adjust plugin f (store'.withScopes plugin)) := by
  intro other
  by_cases ho : other = plugin
  · subst ho
    rw [scopes_adjust_self, scopes_adjust_self, h]
  · rw [scopes_adjust_of_ne ho, scopes_adjust_of_ne ho, h]

theorem Alike.sameEnd_write (h : store.Alike store') :
    SameEnd Alike (store.write plugin target settings) (store'.write plugin target settings) := by
  unfold write
  split
  · exact .ok h
  · split
    · exact .ok (h.adjust plugin _)
    · exact .error _

theorem Alike.setSwitch (h : store.Alike store') (plugin target : Text) (on : Bool) :
    (store.setSwitch plugin target on).Alike (store'.setSwitch plugin target on) :=
  h.adjust plugin _

end Store

/-! ### Configuring in two stores -/

namespace Plugin

variable {S : Store → Store → Prop} {plugin : Text} {acceptance : Acceptance} {settings : Settings}
  {store store' : Store}

/-- Writing for a plugin ends alike in related stores. -/
def WritesAlike (S : Store → Store → Prop) (plugin : Text) : Prop :=
  ∀ store store' target settings, S store store' →
    SameEnd S (store.write plugin target settings) (store'.write plugin target settings)

theorem sameEnd_configureOne (hw : WritesAlike S plugin) (hs : S store store') (target : Value) :
    SameEnd S (configureOne plugin acceptance target settings store)
      (configureOne plugin acceptance target settings store') :=
  (sameEnd_refl _).bind fun _ _ _ => hw _ _ _ _ hs

theorem sameEnd_configureAmong (hw : WritesAlike S plugin) (hs : S store store') (target : Text) :
    SameEnd S (configureAmong plugin acceptance settings store target)
      (configureAmong plugin acceptance settings store' target) := by
  unfold configureAmong
  split
  · exact .error _
  · refine (sameEnd_refl _).bind ?_
    rintro more _ rfl
    exact sameEnd_configureOne hw hs _

theorem sameEnd_configure {cls : PluginClass} (hw : WritesAlike S cls.code) (given : Settings)
    (hs : S store store') : SameEnd S (configure cls given store) (configure cls given store') := by
  unfold configure
  split
  · exact .error _
  · split
    · unfold configureAccepting
      refine (sameEnd_refl _).bind ?_
      rintro flags _ rfl
      refine (sameEnd_refl _).bind ?_
      rintro several _ rfl
      cases several with
      | false => exact sameEnd_configureOne hw hs _
      | true =>
        refine (sameEnd_refl _).bind ?_
        rintro targets _ rfl
        exact SameEnd.foldlM (fun _ _ target hs => sameEnd_configureAmong hw hs target) hs targets
    · unfold configurePlain
      split
      · exact .error _
      · refine (sameEnd_refl _).bind ?_
        rintro flags _ rfl
        exact hw _ _ _ _ hs

end Plugin

end Routing
