import Routing.Plugin
import Routing.Proofs.Assoc
import Routing.Proofs.Step.Within

/-!
# Targets that can be compared with actions

Settings can be written for any target that is a key, but not every target can be compared with an
action; a text always can.  If all targets of a plugin can be, its settings for an action can be
told (`exists_merged`), and configuring it for such a target keeps that so.  Configuring a plugin is
some writes into its own scopes, of settings that its class accepts (`configure_induction`), and
leaves the scopes of the others alone (`owned_of_configure_of_ne`).
-/

namespace Routing

/-- What is so of everything in a table stays so when what stands under a key is changed. -/
theorem Keyed.forall_mem_update {α : Type} {P : Value × α → Prop} {key : Value} {start : α}
    {f : α → α} {t : Keyed α} (h : ∀ p ∈ t, P p) (hstart : P (key, f start))
    (hf : ∀ p, P p → P (p.1, f p.2)) : ∀ p ∈ update key start f t, P p := by
  induction t with
  | nil => exact List.forall_mem_singleton.2 hstart
  | cons q t ih =>
    obtain ⟨hq, hrest⟩ := List.forall_mem_cons.1 h
    unfold update
    split
    · exact List.forall_mem_cons.2 ⟨hf q hq, hrest⟩
    · exact List.forall_mem_cons.2 ⟨hq, ih hrest⟩

/-! ### The scopes of one plugin -/

namespace Scopes

/-- A target can be compared with every action. -/
def IsComparable (target : Value) : Prop := ∀ action, ∃ b, speaksOf action target = .ok b

theorem isComparable_text (s : Text) : IsComparable (.text s) := fun _ => ⟨_, rfl⟩

/-- All targets can be compared with actions. -/
def Comparable (scopes : Scopes) : Prop := ∀ p ∈ scopes, IsComparable p.1

variable {scopes : Scopes}

/-- The settings for an action can be told if all targets can be compared with it. -/
theorem exists_merged (h : scopes.Comparable) (action : Option Text) :
    ∃ settings, scopes.merged action = .ok settings := by
  unfold merged
  split
  · exact ⟨_, rfl⟩
  · exact ⟨_, rfl⟩
  · rename_i action _
    generalize scopes.baseSettings = start
    induction scopes generalizing start with
    | nil => exact ⟨start, rfl⟩
    | cons p scopes ih =>
      obtain ⟨b, hb⟩ := h p List.mem_cons_self action
      have hm : mergeScope action start p =
          .ok (if b then Assoc.merge start p.2.settings else start) := by
        unfold mergeScope
        rw [hb]
        cases b <;> rfl
      rw [List.foldlM_cons, hm]
      exact ih (fun q hq => h q (List.mem_cons_of_mem _ hq)) _

theorem comparable_update {target : Value} (ht : IsComparable target) (h : scopes.Comparable)
    (start : Scope) (f : Scope → Scope) : Comparable (Keyed.update target start f scopes) :=
  Keyed.forall_mem_update h ht fun _ hp => hp

theorem comparable_write {target : Value} (ht : IsComparable target) (h : scopes.Comparable)
    (settings : Settings) : Comparable (write target settings scopes) := by
  unfold write
  split
  · exact h
  · exact comparable_update ht h _ _

end Scopes

/-! ### The scopes of all plugins -/

namespace Store

variable {store store' : Store} {plugin other : Text} {target : Value} {settings : Settings}

/-- The scopes that a plugin owns. -/
def owned (plugin : Text) (store : Store) : Scopes := (Assoc.get? plugin store).getD []

theorem get?_withScopes_self (plugin : Text) (store : Store) :
    Assoc.get? plugin (store.withScopes plugin) =
      some (Keyed.update (.text baseLevel) Scope.base id (store.owned plugin)) := by
  unfold withScopes
  rw [Assoc.get?_adjust_self, Assoc.get?_ensure_self]
  rfl

theorem scopes_eq (plugin : Text) (store : Store) : store.scopes plugin =
    Keyed.update (.text baseLevel) Scope.base id (store.owned plugin) := by
  unfold scopes
  rw [get?_withScopes_self]
  rfl

theorem owned_withScopes_self : (store.withScopes plugin).owned plugin = store.scopes plugin := by
  unfold owned
  rw [get?_withScopes_self, scopes_eq]
  rfl

theorem owned_withScopes_of_ne (h : other ≠ plugin) :
    (store.withScopes plugin).owned other = store.owned other := by
  unfold owned withScopes
  rw [Assoc.get?_adjust_of_ne h, Assoc.get?_ensure_of_ne h]

theorem owned_adjust_self (f : Scopes → Scopes) :
    owned plugin (Assoc.adjust plugin f (store.withScopes plugin)) = f (store.scopes plugin) := by
  unfold owned
  rw [Assoc.get?_adjust_self, get?_withScopes_self, scopes_eq]
  rfl

theorem owned_adjust_of_ne (h : other ≠ plugin) (f : Scopes → Scopes) :
    owned other (Assoc.adjust plugin f (store.withScopes plugin)) = store.owned other := by
  have ha : owned other (Assoc.adjust plugin f (store.withScopes plugin)) =
      (store.withScopes plugin).owned other := by
    unfold owned
    rw [Assoc.get?_adjust_of_ne h]
  rw [ha, owned_withScopes_of_ne h]

theorem owned_of_write_of_ne (h : other ≠ plugin)
    (hw : store.write plugin target settings = .ok store') :
    store'.owned other = store.owned other := by
  unfold write at hw
  split at hw
  · obtain rfl := Except.ok.inj hw
    rfl
  · split at hw
    · obtain rfl := Except.ok.inj hw
      exact owned_adjust_of_ne h _
    · exact nomatch hw

/-! ### Comparing -/

/-- All targets of all plugins can be compared with actions. -/
def Comparable (store : Store) : Prop := ∀ plugin, (store.owned plugin).Comparable

theorem comparable_nil : Comparable [] := fun _ _ hp => absurd hp List.not_mem_nil

theorem Comparable.scopes (h : store.Comparable) (plugin : Text) :
    (store.scopes plugin).Comparable := by
  rw [scopes_eq]
  exact Scopes.comparable_update (Scopes.isComparable_text baseLevel) (h plugin) _ _

theorem Comparable.withScopes (h : store.Comparable) (plugin : Text) :
    (store.withScopes plugin).Comparable := by
  intro other
  by_cases ho : other = plugin
  · subst ho
    rw [owned_withScopes_self]
    exact h.scopes other
  · rw [owned_withScopes_of_ne ho]
    exact h other

theorem Comparable.adjust (h : store.Comparable) {f : Scopes → Scopes}
    (hf : ∀ scopes : Scopes, scopes.Comparable → (f scopes).Comparable) (plugin : Text) :
    Comparable (Assoc.adjust plugin f (store.withScopes plugin)) := by
  intro other
  by_cases ho : other = plugin
  · subst ho
    rw [owned_adjust_self]
    exact hf _ (h.scopes other)
  · rw [owned_adjust_of_ne ho]
    exact h other

theorem Comparable.setSwitch (h : store.Comparable) (plugin target : Text) (on : Bool) :
    (store.setSwitch plugin target on).Comparable :=
  h.adjust (fun _ hs => Scopes.comparable_update (Scopes.isComparable_text target) hs _ _) plugin

theorem Comparable.write (h : store.Comparable) (ht : Scopes.IsComparable target)
    (hw : store.write plugin target settings = .ok store') : store'.Comparable := by
  unfold Store.write at hw
  split at hw
  · obtain rfl := Except.ok.inj hw
    exact h
  · split at hw
    · obtain rfl := Except.ok.inj hw
      exact h.adjust (fun _ hs => Scopes.comparable_write ht hs settings) plugin
    · exact nomatch hw

end Store

/-! ### Configuring -/

namespace Plugin

variable {cls : PluginClass} {given : Settings} {store store' : Store} {P : Store → Prop}

/-- What configuring a plugin of a class can write: settings that the class accepts, for the given
target or for a text. -/
structure Writes (cls : PluginClass) (given : Settings) (target : Value) (settings : Settings) :
    Prop where
  target : target = targetOf given ∨ ∃ t, target = .text t
  accepted : ∀ acceptance, cls.acceptance = some acceptance →
    Settings.check acceptance settings = .ok ()
  distinct : given.keys.Nodup → settings.keys.Nodup

theorem nodup_keys_flagSettings {v : Option Value} {flags : Settings}
    (h : flagSettings v = .ok flags) : flags.keys.Nodup := by
  unfold flagSettings at h
  split at h
  · obtain rfl := Except.ok.inj h
    exact List.nodup_nil
  · split at h
    · split at h
      · obtain rfl := Except.ok.inj h
        exact Assoc.nodup_keys_merge (t := []) List.nodup_nil _
      · exact nomatch h
      · exact nomatch h
    · obtain rfl := Except.ok.inj h
      exact List.nodup_nil

theorem nodup_keys_meant (h : given.keys.Nodup) : (meant given).keys.Nodup :=
  h.sublist (List.filter_sublist.map Prod.fst)

theorem configureOne_eq_ok {plugin : Text} {acceptance : Acceptance} {target : Value}
    {settings : Settings} (h : configureOne plugin acceptance target settings store = .ok store') :
    Settings.check acceptance settings = .ok () ∧ store.write plugin target settings = .ok store' := by
  obtain ⟨⟨⟩, hc, h⟩ := exists_of_bind_eq_ok h
  exact ⟨hc, h⟩

theorem configureAmong_eq_ok {plugin target : Text} {acceptance : Acceptance}
    {settings : Settings} (h : configureAmong plugin acceptance settings store target = .ok store') :
    ∃ more, (settings.keys.Nodup → more.keys.Nodup) ∧ Settings.check acceptance more = .ok () ∧
      store.write plugin (.text target) more = .ok store' := by
  unfold configureAmong at h
  split at h
  · exact nomatch h
  · obtain ⟨more, -, h⟩ := exists_of_bind_eq_ok h
    exact ⟨_, fun hd => Assoc.nodup_keys_merge (Assoc.nodup_keys_erase hd _) _,
      configureOne_eq_ok h⟩

theorem configureAmong_fold_induction {plugin : Text} {acceptance : Acceptance}
    {settings : Settings} {targets : List Text}
    (h : targets.foldlM (configureAmong plugin acceptance settings) store = .ok store') (hs : P store)
    (hw : ∀ target more s s', (settings.keys.Nodup → more.keys.Nodup) →
      Settings.check acceptance more = .ok () → P s →
        s.write plugin (.text target) more = .ok s' → P s') :
    P store' := by
  induction targets generalizing store with
  | nil =>
    obtain rfl := Except.ok.inj h
    exact hs
  | cons target targets ih =>
    rw [List.foldlM_cons] at h
    obtain ⟨s, hone, h⟩ := exists_of_bind_eq_ok h
    obtain ⟨more, hd, hc, hwr⟩ := configureAmong_eq_ok hone
    exact ih h (hw target more _ _ hd hc hs hwr)

/-- What is kept by every write that configuring a plugin can make is kept when it is configured. -/
theorem configure_induction (h : configure cls given store = .ok store') (hs : P store)
    (hw : ∀ target settings s s', Writes cls given target settings → P s →
      s.write cls.code target settings = .ok s' → P s') : P store' := by
  unfold configure at h
  split at h
  · exact nomatch h
  · split at h
    · rename_i acceptance hacceptance
      have hone : ∀ {settings}, Settings.check acceptance settings = .ok () →
          ∀ ds, cls.acceptance = some ds → Settings.check ds settings = .ok () := by
        intro settings hc ds hds
        obtain rfl := Option.some.inj (hacceptance.symm.trans hds)
        exact hc
      unfold configureAccepting at h
      obtain ⟨flags, -, h⟩ := exists_of_bind_eq_ok h
      obtain ⟨several, -, h⟩ := exists_of_bind_eq_ok h
      have hd : given.keys.Nodup → (Assoc.merge (meant given) flags).keys.Nodup :=
        fun hg => Assoc.nodup_keys_merge (nodup_keys_meant hg) flags
      cases several with
      | false =>
        obtain ⟨hc, hwr⟩ := configureOne_eq_ok h
        exact hw _ _ _ _ ⟨.inl rfl, hone hc, hd⟩ hs hwr
      | true =>
        obtain ⟨targets, -, h⟩ := exists_of_bind_eq_ok h
        refine configureAmong_fold_induction h hs fun target more s s' hmore hc => ?_
        exact hw _ _ _ _ ⟨.inr ⟨target, rfl⟩, hone hc, fun hg => hmore (hd hg)⟩
    · rename_i hacceptance
      unfold configurePlain at h
      split at h
      · exact nomatch h
      · obtain ⟨flags, hf, h⟩ := exists_of_bind_eq_ok h
        refine hw _ _ _ _ ⟨.inl rfl, fun ds hds => ?_, fun _ => nodup_keys_flagSettings hf⟩ hs h
        exact nomatch hacceptance.symm.trans hds

/-- Configuring a plugin leaves the scopes of the others alone. -/
theorem owned_of_configure_of_ne {other : Text} (ho : other ≠ cls.code)
    (h : configure cls given store = .ok store') : store'.owned other = store.owned other := by
  refine configure_induction (P := fun s => s.owned other = store.owned other) h rfl ?_
  intro target settings s s' _ hs hw
  exact (Store.owned_of_write_of_ne ho hw).trans hs

/-- Configuring a plugin for a target that can be compared leaves all targets so. -/
theorem comparable_of_configure (ht : Scopes.IsComparable (targetOf given)) (hs : store.Comparable)
    (h : configure cls given store = .ok store') : store'.Comparable := by
  refine configure_induction (P := Store.Comparable) h hs fun target settings s s' hwr hs hw => ?_
  rcases hwr.target with rfl | ⟨t, rfl⟩
  · exact hs.write ht hw
  · exact hs.write (Scopes.isComparable_text t) hw

end Plugin

end Routing
