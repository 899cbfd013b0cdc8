import Routing.Proofs.Store.Alike

/-!
# Settings and switches in one store

A plugin's scopes hold settings and switches, in the order in which their targets were first written
by either.  A switch changes no settings (`settingsAt_setSwitch`), but it gives a target a place.
`Scopes.settled` are the scopes that hold settings, without their switches: nothing else counts for
what is merged (`merged_settled`), and writing settings goes over to them if no scope of the target
has only been switched so far (`settled_write`).
-/

namespace Routing

namespace Keyed

variable {α : Type} {s : Text} {key : Value} {start : α} {f : α → α} {t : Keyed α}

theorem get?_update_of_ne_text (h : key ≠ .text s) :
    get? (.text s) (update key start f t) = get? (.text s) t := by
  induction t with
  | nil => simp [update, get?, h]
  | cons p t ih =>
    obtain ⟨k, a⟩ := p
    by_cases hk : k.sameKey key = true
    · have hs : k ≠ .text s := by
        rintro rfl
        rw [Value.text_sameKey, decide_eq_true_eq] at hk
        exact h hk
      simp [update, get?, hk, hs]
    · by_cases hs : k = .text s
      · subst hs
        simp [update, get?, hk]
      · simp [update, get?, hk, hs, ih]

theorem isSome_get?_update (h : (get? (.text s) t).isSome = true) :
    (get? (.text s) (update key start f t)).isSome = true := by
  by_cases hk : key = .text s
  · rw [hk, get?_update_self]
    rfl
  · rwa [get?_update_of_ne_text hk]

theorem update_id_of_isSome (h : (get? (.text s) t).isSome = true) :
    update (.text s) start id t = t := by
  induction t with
  | nil => exact nomatch h
  | cons p t ih =>
    obtain ⟨k, a⟩ := p
    by_cases hk : k = .text s
    · simp [update, hk]
    · have ht : (get? (.text s) t).isSome = true := by simpa [get?, hk] using h
      simp [update, hk, ih ht]

end Keyed

/-! ### Scopes -/

namespace Scopes

variable {scopes : Scopes} {target : Value} {settings : Settings} {action : Text}

/-- The settings written for a target. -/
def settingsAt (target : Text) (scopes : Scopes) : Settings :=
  ((Keyed.get? (.text target) scopes).map Scope.settings).getD []

theorem baseSettings_eq (scopes : Scopes) : scopes.baseSettings = scopes.settingsAt baseLevel := by
  unfold baseSettings settingsAt
  cases Keyed.get? (.text baseLevel) scopes <;> rfl

theorem settingsAt_write_self (target : Text) (settings : Settings) (scopes : Scopes) :
    settingsAt target (write (.text target) settings scopes) =
      Assoc.merge (scopes.settingsAt target) settings := by
  unfold write settingsAt
  split
  · rename_i h
    rw [h]
    rfl
  · rw [Keyed.get?_update_self]
    cases Keyed.get? (.text target) scopes <;> rfl

theorem settingsAt_write_of_ne {other : Text} (h : target ≠ .text other) (settings : Settings)
    (scopes : Scopes) : settingsAt other (write target settings scopes) = scopes.settingsAt other := by
  unfold write settingsAt
  split
  · rfl
  · rw [Keyed.get?_update_of_ne_text h]

/-- Writing settings takes none away. -/
theorem settingsAt_write_ne_nil {other : Text} (h : scopes.settingsAt other ≠ []) :
    settingsAt other (write target settings scopes) ≠ [] := by
  by_cases ht : target = .text other
  · rw [ht, settingsAt_write_self]
    exact Assoc.merge_ne_nil (.inl h)
  · rwa [settingsAt_write_of_ne ht]

/-- A switch changes no settings. -/
theorem settingsAt_setSwitch (target other : Text) (on : Bool) (scopes : Scopes) :
    settingsAt other (setSwitch target on scopes) = scopes.settingsAt other := by
  unfold setSwitch settingsAt
  by_cases h : other = target
  · subst h
    rw [Keyed.get?_update_self]
    cases Keyed.get? (.text other) scopes <;> rfl
  · rw [Keyed.get?_update_of_ne h]

/-! ### Without switches -/

/-- The scopes that hold settings, without their switches. -/
def settled (scopes : Scopes) : Scopes :=
  (scopes.filter fun p => p.2.settings ≠ []).map fun p => (p.1, { p.2 with switch := none })

variable {p : Value × Scope}

theorem settled_cons_of_bare (h : p.2.settings = []) : settled (p :: scopes) = scopes.settled := by
  unfold settled
  rw [List.filter_cons_of_neg (by simp [h])]

theorem settled_cons_of_ne (h : p.2.settings ≠ []) :
    settled (p :: scopes) = (p.1, { p.2 with switch := none }) :: scopes.settled := by
  unfold settled
  rw [List.filter_cons_of_pos (by simp [h]), List.map_cons]

/-- Scopes that have only been switched are of these targets. -/
def BareWithin (P : Text → Prop) (scopes : Scopes) : Prop :=
  ∀ p ∈ scopes, p.2.settings = [] → ∃ t, p.1 = .text t ∧ P t

variable {P : Text → Prop}

theorem bareWithin_write (h : scopes.BareWithin P) (target : Value) (settings : Settings) :
    BareWithin P (write target settings scopes) := by
  unfold write
  split
  · exact h
  · rename_i hs
    induction scopes with
    | nil =>
      refine List.forall_mem_singleton.2 fun he => absurd he ?_
      exact Assoc.merge_ne_nil (.inr hs)
    | cons p scopes ih =>
      obtain ⟨hp, hrest⟩ := List.forall_mem_cons.1 h
      unfold Keyed.update
      split
      · refine List.forall_mem_cons.2 ⟨fun he => absurd he ?_, hrest⟩
        exact Assoc.merge_ne_nil (.inr hs)
      · exact List.forall_mem_cons.2 ⟨hp, ih hrest⟩

theorem bareWithin_setSwitch {target : Text} (h : scopes.BareWithin P)
    (ht : P target ∨ scopes.settingsAt target ≠ []) (on : Bool) :
    BareWithin P (setSwitch target on scopes) := by
  unfold setSwitch
  induction scopes with
  | nil =>
    refine List.forall_mem_singleton.2 fun _ => ⟨target, rfl, ?_⟩
    exact ht.resolve_right fun hne => hne rfl
  | cons p scopes ih =>
    obtain ⟨hp, hrest⟩ := List.forall_mem_cons.1 h
    unfold Keyed.update
    split
    · exact List.forall_mem_cons.2 ⟨hp, hrest⟩
    · rename_i hk
      have hne : p.1 ≠ .text target := by simpa using hk
      have hs : settingsAt target (p :: scopes) = settingsAt target scopes := by
        simp [settingsAt, Keyed.get?, hne]
      rw [hs] at ht
      exact List.forall_mem_cons.2 ⟨hp, ih hrest ht⟩

theorem settingsAt_settled {target : Text} (h : scopes.settingsAt target ≠ []) :
    scopes.settled.settingsAt target = scopes.settingsAt target := by
  induction scopes with
  | nil => rfl
  | cons p scopes ih =>
    obtain ⟨k, scope⟩ := p
    by_cases hk : k = .text target
    · have hs : settingsAt target ((k, scope) :: scopes) = scope.settings := by
        simp [settingsAt, Keyed.get?, hk]
      rw [hs] at h ⊢
      rw [settled_cons_of_ne h]
      simp [settingsAt, Keyed.get?, hk]
    · have hs : settingsAt target ((k, scope) :: scopes) = settingsAt target scopes := by
        simp [settingsAt, Keyed.get?, hk]
      rw [hs] at h ⊢
      rw [← ih h]
      by_cases hb : scope.settings = []
      · rw [settled_cons_of_bare hb]
      · rw [settled_cons_of_ne hb]
        simp [settingsAt, Keyed.get?, hk]

theorem mergeScope_text (settings : Settings) (t : Text) (scope : Scope)
    (h : scope.settings = []) : mergeScope action settings (.text t, scope) = .ok settings := by
  have hspeaks : speaksOf action (.text t) = .ok (t != baseLevel && Glob.isMatch t action) := rfl
  unfold mergeScope
  rw [hspeaks, h]
  cases t != baseLevel && Glob.isMatch t action <;> rfl

/-- Nothing but scopes that hold settings counts for what is merged. -/
theorem merged_settled (hb : scopes.BareWithin P) (hs : scopes.baseSettings ≠ [])
    (action : Option Text) : scopes.settled.merged action = scopes.merged action := by
  have hbase : scopes.settled.baseSettings = scopes.baseSettings := by
    rw [baseSettings_eq] at hs
    rw [baseSettings_eq, baseSettings_eq, settingsAt_settled hs]
  unfold merged
  rw [hbase]
  split
  · rfl
  · rfl
  · rename_i action _
    generalize scopes.baseSettings = start
    clear hbase hs
    induction scopes generalizing start with
    | nil => rfl
    | cons p scopes ih =>
      obtain ⟨hp, hrest⟩ := List.forall_mem_cons.1 hb
      by_cases h : p.2.settings = []
      · obtain ⟨t, ht, -⟩ := hp h
        obtain ⟨k, scope⟩ := p
        obtain rfl : k = .text t := ht
        rw [settled_cons_of_bare h, List.foldlM_cons, mergeScope_text start t scope h]
        exact ih hrest start
      · have hm : mergeScope action start (p.1, { p.2 with switch := none }) =
            mergeScope action start p := rfl
        rw [settled_cons_of_ne h, List.foldlM_cons, List.foldlM_cons, hm]
        cases mergeScope action start p with
        | error fault => rfl
        | ok settings => exact ih hrest settings

/-- Settings are written among the settled scopes as they are among all, unless the target has only
been switched so far. -/
theorem settled_write (hs : settings ≠ [])
    (hb : ∀ p ∈ scopes, p.2.settings = [] → p.1.sameKey target = false) :
    (write target settings scopes).settled = write target settings scopes.settled := by
  unfold write
  rw [if_neg hs, if_neg hs]
  induction scopes with
  | nil =>
    have hm : Assoc.merge [] settings ≠ [] := Assoc.merge_ne_nil (.inr hs)
    exact settled_cons_of_ne hm
  | cons p scopes ih =>
    obtain ⟨hp, hrest⟩ := List.forall_mem_cons.1 hb
    obtain ⟨k, scope⟩ := p
    by_cases hk : k.sameKey target = true
    · have hne : scope.settings ≠ [] := fun he => nomatch hk.symm.trans (hp he)
      have hm : Assoc.merge scope.settings settings ≠ [] := Assoc.merge_ne_nil (.inl hne)
      rw [settled_cons_of_ne hne]
      simp only [Keyed.update, hk, if_true]
      exact settled_cons_of_ne hm
    · by_cases hne : scope.settings = []
      · rw [settled_cons_of_bare hne, ← ih hrest]
        simp only [Keyed.update, hk]
        exact settled_cons_of_bare hne
      · rw [settled_cons_of_ne hne]
        simp only [Keyed.update, hk]
        rw [← ih hrest]
        exact settled_cons_of_ne hne

/-- A switch does not show among the settled scopes. -/
theorem settled_setSwitch (target : Text) (on : Bool) (scopes : Scopes) :
    (setSwitch target on scopes).settled = scopes.settled := by
  unfold setSwitch
  induction scopes with
  | nil => exact settled_cons_of_bare rfl
  | cons p scopes ih =>
    obtain ⟨k, scope⟩ := p
    by_cases hk : k.sameKey (.text target) = true
    · simp only [Keyed.update, hk, if_true]
      by_cases hne : scope.settings = []
      · exact (settled_cons_of_bare hne).trans (settled_cons_of_bare (p := (k, scope)) hne).symm
      · exact (settled_cons_of_ne hne).trans (settled_cons_of_ne (p := (k, scope)) hne).symm
    · simp only [Keyed.update, hk]
      by_cases hne : scope.settings = []
      · rw [settled_cons_of_bare hne, ← ih]
        exact settled_cons_of_bare hne
      · rw [settled_cons_of_ne hne, ← ih]
        exact settled_cons_of_ne hne

end Scopes

/-! ### Stores -/

namespace Store

variable {store store' : Store} {plugin other target : Text} {settings : Settings}

theorem scopes_nil (plugin : Text) : scopes plugin [] = [(.text baseLevel, Scope.base)] := by
  rw [scopes_eq]
  rfl

theorem isSome_base (plugin : Text) (store : Store) :
    (Keyed.get? (.text baseLevel) (store.scopes plugin)).isSome = true := by
  rw [scopes_eq, Keyed.get?_update_self]
  rfl

/-- What is written for a plugin is written into its scopes, and into no other's. -/
theorem scopes_write {target : Value} (h : store.write plugin target settings = .ok store')
    (other : Text) : store'.scopes other =
      if other = plugin then Scopes.write target settings (store.scopes other)
      else store.scopes other := by
  unfold write at h
  split at h
  · rename_i hs
    obtain rfl := Except.ok.inj h
    have hw : Scopes.write target settings (store.scopes other) = store.scopes other := if_pos hs
    rw [hw, ite_self]
  · rename_i hs
    split at h
    · obtain rfl := Except.ok.inj h
      split
      · rename_i ho
        subst ho
        rw [scopes_adjust_self, Keyed.update_id_of_isSome]
        unfold Scopes.write
        rw [if_neg hs]
        exact Keyed.isSome_get?_update (isSome_base other store)
      · rename_i ho
        exact scopes_adjust_of_ne ho _ _
    · exact nomatch h

theorem scopes_setSwitch (plugin target : Text) (on : Bool) (store : Store) (other : Text) :
    (store.setSwitch plugin target on).scopes other =
      if other = plugin then Scopes.setSwitch target on (store.scopes other)
      else store.scopes other := by
  unfold setSwitch
  split
  · rename_i ho
    subst ho
    rw [scopes_adjust_self, Keyed.update_id_of_isSome]
    exact Keyed.isSome_get?_update (isSome_base other store)
  · rename_i ho
    exact scopes_adjust_of_ne ho _ _

/-- Whether something can be written does not depend on what is there. -/
theorem sameEnd_write {S : Store → Store → Prop} {target : Value} (hs : S store store')
    (h : ∀ after after', store.write plugin target settings = .ok after →
      store'.write plugin target settings = .ok after' → S after after') :
    SameEnd S (store.write plugin target settings) (store'.write plugin target settings) := by
  unfold write at h ⊢
  split
  · exact .ok hs
  · rename_i hne
    rw [if_neg hne, if_neg hne] at h
    split
    · rename_i hk
      exact .ok (h _ _ (if_pos hk) (if_pos hk))
    · exact .error _

/-! ### The same settings -/

/-- Every target has the same settings in both. -/
def SameSettings (store store' : Store) : Prop :=
  ∀ plugin target, (store'.scopes plugin).settingsAt target = (store.scopes plugin).settingsAt target

theorem SameSettings.withScopes (h : store.SameSettings store') (plugin : Text) :
    (store.withScopes plugin).SameSettings (store'.withScopes plugin) := by
  intro other target
  rw [alike_withScopes store' plugin other, alike_withScopes store plugin other]
  exact h other target

theorem sameSettings_writesAlike (plugin : Text) : Plugin.WritesAlike SameSettings plugin := by
  intro store store' target settings h
  refine sameEnd_write h fun after after' hw hw' other t => ?_
  rw [scopes_write hw, scopes_write hw']
  split
  · by_cases ht : target = .text t
    · rw [ht, Scopes.settingsAt_write_self, Scopes.settingsAt_write_self, h]
    · rw [Scopes.settingsAt_write_of_ne ht, Scopes.settingsAt_write_of_ne ht, h]
  · exact h other t

theorem SameSettings.setSwitch (h : store.SameSettings store') (plugin target : Text) (on : Bool) :
    (store.setSwitch plugin target on).SameSettings store' := by
  intro other t
  rw [scopes_setSwitch]
  split
  · rw [Scopes.settingsAt_setSwitch]
    exact h other t
  · exact h other t

/-! ### The same settings in the same order -/

/-- Settings have been written for a target that was to have none. -/
def Astray (Spared : Text → Text → Prop) (store : Store) : Prop :=
  ∃ plugin target, Spared plugin target ∧ (store.scopes plugin).settingsAt target ≠ []

/-- Only targets that are to have no settings have only been switched, and but for these and for all
switches the scopes of the first store are those of the second, in their order. -/
structure Settles (Spared : Text → Text → Prop) (store store' : Store) : Prop where
  bare : ∀ plugin, (store.scopes plugin).BareWithin (Spared plugin)
  base : ∀ plugin, (store.scopes plugin).baseSettings ≠ []
  settled : ∀ plugin, store'.scopes plugin = (store.scopes plugin).settled

/-- The same, unless settings have gone astray. -/
def SettlesUnless (Spared : Text → Text → Prop) (store store' : Store) : Prop :=
  store.Astray Spared ∨ store.Settles Spared store'

variable {Spared : Text → Text → Prop}

theorem settles_nil (Spared : Text → Text → Prop) : Settles Spared [] [] := by
  have hscopes : ∀ plugin, scopes plugin [] = [(.text baseLevel, Scope.base)] := scopes_nil
  refine ⟨fun plugin => ?_, fun plugin => ?_, fun plugin => ?_⟩
  · rw [hscopes]
    intro p hp he
    obtain rfl := List.mem_singleton.1 hp
    exact nomatch he
  · rw [hscopes]
    exact nofun
  · rw [hscopes]
    rfl

theorem SettlesUnless.withScopes (h : store.SettlesUnless Spared store') (plugin : Text) :
    (store.withScopes plugin).SettlesUnless Spared (store'.withScopes plugin) := by
  rcases h with ⟨p, t, hf, hs⟩ | ⟨hbare, hbase, hsettled⟩
  · refine .inl ⟨p, t, hf, ?_⟩
    rwa [alike_withScopes store plugin p]
  · refine .inr ⟨fun p => ?_, fun p => ?_, fun p => ?_⟩
    · rw [alike_withScopes store plugin p]
      exact hbare p
    · rw [alike_withScopes store plugin p]
      exact hbase p
    · rw [alike_withScopes store' plugin p, alike_withScopes store plugin p]
      exact hsettled p

theorem settlesUnless_writesAlike (Spared : Text → Text → Prop) (plugin : Text) :
    Plugin.WritesAlike (SettlesUnless Spared) plugin := by
  intro store store' target settings h
  refine sameEnd_write h fun after after' hw hw' => ?_
  rcases h with ⟨p, t, hf, hs⟩ | ⟨hbare, hbase, hsettled⟩
  · refine .inl ⟨p, t, hf, ?_⟩
    rw [scopes_write hw]
    split
    · exact Scopes.settingsAt_write_ne_nil hs
    · exact hs
  · by_cases hne : settings = []
    · have hsame : ∀ s : Store, s.write plugin target settings = .ok s := fun s => if_pos hne
      obtain rfl := Except.ok.inj ((hsame store).symm.trans hw)
      obtain rfl := Except.ok.inj ((hsame store').symm.trans hw')
      exact .inr ⟨hbare, hbase, hsettled⟩
    · by_cases hspared : ∃ t, target = .text t ∧ Spared plugin t
      · obtain ⟨t, rfl, hf⟩ := hspared
        refine .inl ⟨plugin, t, hf, ?_⟩
        rw [scopes_write hw, if_pos rfl, Scopes.settingsAt_write_self]
        exact Assoc.merge_ne_nil (.inr hne)
      · -- What has only been switched is spared, so it is not the target.
        have hother : ∀ p ∈ store.scopes plugin, p.2.settings = [] → p.1.sameKey target = false := by
          intro p hp he
          obtain ⟨t, ht, hf⟩ := hbare plugin p hp he
          rw [ht, Value.text_sameKey, decide_eq_false_iff_not]
          exact fun h => hspared ⟨t, h, hf⟩
        refine .inr ⟨fun p => ?_, fun p => ?_, fun p => ?_⟩
        · rw [scopes_write hw]
          split
          · exact Scopes.bareWithin_write (hbare p) _ _
          · exact hbare p
        · rw [scopes_write hw]
          split
          · rw [Scopes.baseSettings_eq]
            exact Scopes.settingsAt_write_ne_nil (Scopes.baseSettings_eq _ ▸ hbase p)
          · exact hbase p
        · rw [scopes_write hw, scopes_write hw']
          split
          · rename_i hp
            subst hp
            rw [hsettled p, Scopes.settled_write hne hother]
          · exact hsettled p

/-- A switch keeps the order if its target is spared, or has its place already. -/
theorem SettlesUnless.setSwitch (h : store.SettlesUnless Spared store') {plugin target : Text}
    (ht : Spared plugin target ∨ (store.scopes plugin).settingsAt target ≠ []) (on : Bool) :
    (store.setSwitch plugin target on).SettlesUnless Spared store' := by
  rcases h with ⟨p, t, hf, hs⟩ | ⟨hbare, hbase, hsettled⟩
  · refine .inl ⟨p, t, hf, ?_⟩
    rw [scopes_setSwitch]
    split
    · rwa [Scopes.settingsAt_setSwitch]
    · exact hs
  · refine .inr ⟨fun p => ?_, fun p => ?_, fun p => ?_⟩
    · rw [scopes_setSwitch]
      split
      · rename_i hp
        subst hp
        exact Scopes.bareWithin_setSwitch (hbare p) ht on
      · exact hbare p
    · rw [scopes_setSwitch]
      split
      · rw [Scopes.baseSettings_eq, Scopes.settingsAt_setSwitch, ← Scopes.baseSettings_eq]
        exact hbase p
      · exact hbase p
    · rw [scopes_setSwitch]
      split
      · rw [Scopes.settled_setSwitch]
        exact hsettled p
      · exact hsettled p

end Store

end Routing
