import Routing.Proofs.Store.InTurn
import Routing.Proofs.Store.Settled

/-!
# What configuring changes

If a plugin of a class is configured for a text, what comes of it is the same settings written for
each target that the class makes of the text: `exists_flags_of_configure`.  That changes the scopes
of these targets and nothing else (`Updates`).
-/

namespace Routing

/-! ### Scopes -/

/-- Entries other than the one that is changed stay as they are, in their order. -/
theorem Keyed.filter_update {α : Type} {P : Value → Bool} {s : Text} (h : P (.text s) = false)
    (start : α) (f : α → α) (t : Keyed α) :
    (update (.text s) start f t).filter (fun p => P p.1) = t.filter fun p => P p.1 := by
  induction t with
  | nil => exact List.filter_cons_of_neg (by simp [h])
  | cons p t ih =>
    obtain ⟨k, a⟩ := p
    by_cases hk : k = .text s
    · subst hk
      simp [update, h]
    · have hne : k.sameKey (.text s) = false := by simp [hk]
      rw [update, hne]
      simp only [Bool.false_eq_true, if_false, List.filter_cons, ih]

/-- The scope with settings merged in. -/
def Scope.updated (settings : Settings) (scope : Scope) : Scope :=
  { scope with settings := Assoc.merge scope.settings settings }

theorem Scope.updated_updated {settings : Settings} (h : settings.keys.Nodup) (scope : Scope) :
    (scope.updated settings).updated settings = scope.updated settings := by
  unfold updated
  rw [Assoc.merge_merge_self h]

namespace Scopes

variable {scopes : Scopes} {targets : List Text} {settings : Settings}

/-- The scopes with the same settings written for several targets, in order. -/
def writeEach (targets : List Text) (settings : Settings) (scopes : Scopes) : Scopes :=
  targets.foldl (fun scopes target => write (.text target) settings scopes) scopes

@[simp] theorem writeEach_nil (settings : Settings) (scopes : Scopes) :
    writeEach [] settings scopes = scopes := rfl

@[simp] theorem writeEach_cons (target : Text) (targets : List Text) (settings : Settings)
    (scopes : Scopes) : writeEach (target :: targets) settings scopes =
      writeEach targets settings (write (.text target) settings scopes) := rfl

theorem get?_write_self (h : settings ≠ []) (target : Text) (scopes : Scopes) :
    Keyed.get? (.text target) (write (.text target) settings scopes) =
      some (((Keyed.get? (.text target) scopes).getD Scope.empty).updated settings) := by
  unfold write
  rw [if_neg h, Keyed.get?_update_self]
  rfl

theorem get?_write_of_ne {target other : Text} (h : other ≠ target) (settings : Settings)
    (scopes : Scopes) : Keyed.get? (.text other) (write (.text target) settings scopes) =
      Keyed.get? (.text other) scopes := by
  unfold write
  split
  · rfl
  · exact Keyed.get?_update_of_ne h _ _ _

/-- Every target that is named is updated once, also if it is named twice. -/
theorem get?_writeEach (h : settings ≠ []) (hd : settings.keys.Nodup) (target : Text) :
    Keyed.get? (.text target) (writeEach targets settings scopes) =
      if target ∈ targets then
        some (((Keyed.get? (.text target) scopes).getD Scope.empty).updated settings)
      else Keyed.get? (.text target) scopes := by
  induction targets generalizing scopes with
  | nil => rfl
  | cons first targets ih =>
    rw [writeEach_cons, ih]
    by_cases ht : target = first
    · subst ht
      rw [get?_write_self h, if_pos List.mem_cons_self, Option.getD_some, Scope.updated_updated hd,
        ite_self]
    · rw [get?_write_of_ne ht]
      simp only [List.mem_cons, ht, false_or]

/-- The scopes of other targets stay as they are, in their order. -/
theorem filter_writeEach {P : Value → Bool} (h : ∀ target ∈ targets, P (.text target) = false) :
    (writeEach targets settings scopes).filter (fun p => P p.1) = scopes.filter fun p => P p.1 := by
  induction targets generalizing scopes with
  | nil => rfl
  | cons target targets ih =>
    obtain ⟨ht, hrest⟩ := List.forall_mem_cons.1 h
    rw [writeEach_cons, ih hrest]
    unfold write
    split
    · rfl
    · exact Keyed.filter_update ht _ _ _

end Scopes

/-! ### Stores -/

namespace Store

variable {store store' : Store} {plugin other : Text} {targets : List Text} {settings : Settings}

@[simp] theorem put_nil (plugin : Text) (target : Value) (store : Store) :
    store.put plugin target [] = store := if_pos rfl

@[simp] theorem putEach_nil (plugin : Text) (settings : Settings) (store : Store) :
    store.putEach plugin [] settings = store := rfl

@[simp] theorem putEach_cons (plugin target : Text) (targets : List Text) (settings : Settings)
    (store : Store) : store.putEach plugin (target :: targets) settings =
      (store.put plugin (.text target) settings).putEach plugin targets settings := rfl

theorem putEach_no_settings (plugin : Text) (targets : List Text) (store : Store) :
    store.putEach plugin targets [] = store := by
  induction targets with
  | nil => rfl
  | cons target targets ih => rw [putEach_cons, put_nil, ih]

theorem scopes_putEach (plugin : Text) (targets : List Text) (settings : Settings) (store : Store)
    (other : Text) : (store.putEach plugin targets settings).scopes other =
      if other = plugin then Scopes.writeEach targets settings (store.scopes other)
      else store.scopes other := by
  induction targets generalizing store with
  | nil => exact (ite_self _).symm
  | cons target targets ih =>
    rw [putEach_cons, ih, scopes_write (write_text plugin target settings store)]
    split <;> rfl

theorem get?_put_of_ne (h : other ≠ plugin) (target : Value) (settings : Settings) (store : Store) :
    Assoc.get? other (store.put plugin target settings) = Assoc.get? other store := by
  unfold put withScopes
  split
  · rfl
  · rw [Assoc.get?_adjust_of_ne h, Assoc.get?_adjust_of_ne h, Assoc.get?_ensure_of_ne h]

theorem keys_put (h : (Assoc.get? plugin store).isSome = true) (target : Value)
    (settings : Settings) : (store.put plugin target settings).keys = store.keys := by
  obtain ⟨scopes, hs⟩ := Option.isSome_iff_exists.1 h
  unfold put withScopes
  split
  · rfl
  · rw [Assoc.keys_adjust, Assoc.keys_adjust, Assoc.ensure_of_get?_eq_some hs]

theorem isSome_get?_put (h : (Assoc.get? plugin store).isSome = true) (target : Value)
    (settings : Settings) :
    (Assoc.get? plugin (store.put plugin target settings)).isSome = true := by
  unfold put withScopes
  split
  · exact h
  · rw [Assoc.get?_adjust_self, Option.isSome_map, Assoc.get?_adjust_self, Option.isSome_map,
      Assoc.get?_ensure_self]
    rfl

/-- Whether a key is none of some texts. -/
def isOutside (targets : List Text) (key : Value) : Bool := !(targets.map Value.text).contains key

/-- Nothing has changed but the scopes of some targets of a plugin, and into each of these the same
settings have been merged. -/
structure Updates (plugin : Text) (targets : List Text) (settings : Settings)
    (store store' : Store) : Prop where
  /-- The plugins that have scopes, and their order. -/
  plugins : (Assoc.get? plugin store).isSome = true → store'.keys = store.keys
  others : ∀ other, other ≠ plugin → Assoc.get? other store' = Assoc.get? other store
  /-- The scopes of the plugin that are not meant, and their order. -/
  outside : (store'.scopes plugin).filter (fun p => isOutside targets p.1) =
    (store.scopes plugin).filter fun p => isOutside targets p.1
  inside : settings ≠ [] → ∀ target ∈ targets,
    Keyed.get? (.text target) (store'.scopes plugin) =
      some (((Keyed.get? (.text target) (store.scopes plugin)).getD Scope.empty).updated settings)
  nothing : settings = [] → store' = store

theorem updates_putEach (hd : settings.keys.Nodup) (plugin : Text) (targets : List Text)
    (store : Store) :
    store.Updates plugin targets settings (store.putEach plugin targets settings) where
  plugins h := by
    induction targets generalizing store with
    | nil => rfl
    | cons target targets ih =>
      rw [putEach_cons, ih _ (isSome_get?_put h _ _), keys_put h]
  others other ho := by
    induction targets generalizing store with
    | nil => rfl
    | cons target targets ih => rw [putEach_cons, ih, get?_put_of_ne ho]
  outside := by
    rw [scopes_putEach, if_pos rfl, Scopes.filter_writeEach]
    intro target ht
    simp [isOutside, ht]
  inside hs target ht := by
    rw [scopes_putEach, if_pos rfl, Scopes.get?_writeEach hs hd, if_pos ht]
  nothing hs := by
    rw [hs, putEach_no_settings]

end Store

/-! ### Classes -/

/-- The targets that a class makes of a text: one with an acceptance of its own cuts it at its commas.
-/
def PluginClass.targets (cls : PluginClass) (target : Text) : List Text :=
  if cls.acceptance.isSome = true ∧ ',' ∈ target then Settings.chunks target else [target]

/-- What a class writes for the targets that it makes of a text: settings and, over them, those that
flags have spelled. -/
def PluginClass.written (cls : PluginClass) (target : Text) (settings flags : Settings) :
    Settings :=
  if cls.acceptance.isSome = true ∧ ',' ∈ target then
    Assoc.erase Plugin.flagsName (Assoc.merge settings flags)
  else Assoc.merge settings flags

namespace Plugin

variable {cls : PluginClass} {given flags settings : Settings} {store store' : Store}
  {target : Text}

/-- Neither the target nor flags are meant for the plugin. -/
theorem get?_meant_eq_none {name : Text} (h : name = targetName ∨ name = flagsName)
    (given : Settings) : Assoc.get? name (meant given) = none := by
  rw [Assoc.get?_eq_none_iff]
  intro hm
  obtain ⟨p, hp, hn⟩ := List.mem_map.1 hm
  have := (List.mem_filter.1 hp).2
  rcases h with h | h <;> simp [hn, h] at this

/-- Unless the flags name flags again, all that they spell is written. -/
theorem written_of_get?_eq_none (hf : flags.keys.Nodup)
    (h : Assoc.get? flagsName flags = none) (cls : PluginClass) (target : Text) :
    cls.written target (meant given) flags = Assoc.merge (meant given) flags := by
  have hnone : Assoc.get? flagsName (Assoc.merge (meant given) flags) = none := by
    rw [Assoc.get?_merge hf, h, get?_meant_eq_none (.inr rfl), Option.or_none]
  unfold PluginClass.written
  split
  · exact Assoc.erase_of_get?_eq_none hnone
  · rfl

/-- Flags spell truth values. -/
theorem exists_bool_of_flagSettings {v : Option Value} (h : flagSettings v = .ok flags) :
    ∀ p ∈ flags, ∃ b, p.2 = .bool b := by
  unfold flagSettings at h
  split at h
  · obtain rfl := Except.ok.inj h
    exact fun p hp => absurd hp List.not_mem_nil
  · split at h
    · split at h
      · obtain rfl := Except.ok.inj h
        refine Assoc.forall_mem_merge (t := []) (fun p hp => absurd hp List.not_mem_nil) ?_
        intro p hp
        obtain ⟨chunk, -, rfl⟩ := List.mem_map.1 hp
        exact ⟨_, rfl⟩
      · exact nomatch h
      · exact nomatch h
    · obtain rfl := Except.ok.inj h
      exact fun p hp => absurd hp List.not_mem_nil

theorem written_of_amongSeveral {v : Option Value} {acceptance : Acceptance} {all : Settings}
    (hf : flagSettings v = .ok flags)
    (h : amongSeveral acceptance (Assoc.merge (meant given) flags) = .ok all) :
    all = Assoc.erase flagsName (Assoc.merge (meant given) flags) := by
  unfold amongSeveral at h
  split at h
  · exact nomatch h
  · obtain ⟨more, hm, h⟩ := exists_of_bind_eq_ok h
    obtain ⟨⟨⟩, -, h⟩ := exists_of_bind_eq_ok h
    obtain rfl := Except.ok.inj h
    rw [Assoc.get?_merge (nodup_keys_flagSettings hf), get?_meant_eq_none (.inr rfl),
      Option.or_none] at hm
    -- Flags that are named by flags are a truth value, and only a false one spells settings: none.
    have hmore : more = [] := by
      cases hv : Assoc.get? flagsName flags with
      | none =>
        rw [hv] at hm
        exact (Except.ok.inj hm).symm
      | some v =>
        obtain ⟨b, rfl⟩ := exists_bool_of_flagSettings hf _ (Assoc.mem_of_get? hv)
        rw [hv] at hm
        cases b with
        | true => exact nomatch hm
        | false => exact (Except.ok.inj hm).symm
    rw [hmore]
    rfl

/-- Commas in a text divide it. -/
theorem configureAccepting_of_text (ht : targetOf given = .text target) (plugin : Text)
    (acceptance : Acceptance) (store : Store) : configureAccepting plugin acceptance given store =
      flagSettings (Assoc.get? flagsName given) >>= fun flags =>
        if ',' ∈ target then
          (Settings.chunks target).foldlM
            (configureAmong plugin acceptance (Assoc.merge (meant given) flags)) store
        else
          configureOne plugin acceptance (.text target) (Assoc.merge (meant given) flags) store := by
  unfold configureAccepting
  rw [ht]
  cases flagSettings (Assoc.get? flagsName given) with
  | error fault => rfl
  | ok flags =>
    change (if decide (',' ∈ target) = true then _ else _) = if ',' ∈ target then _ else _
    by_cases hcomma : ',' ∈ target
    · rw [if_pos hcomma, if_pos (decide_eq_true hcomma)]
      rfl
    · rw [if_neg hcomma, if_neg fun h => hcomma (of_decide_eq_true h)]

/-- A plugin that is configured for a text has had the same settings written for all targets. -/
theorem exists_flags_of_configure (ht : targetOf given = .text target)
    (h : configure cls given store = .ok store') :
    ∃ flags, flagSettings (Assoc.get? flagsName given) = .ok flags ∧
      store' =
        store.putEach cls.code (cls.targets target) (cls.written target (meant given) flags) := by
  unfold configure at h
  split at h
  · exact nomatch h
  · unfold PluginClass.targets PluginClass.written
    cases hacceptance : cls.acceptance with
    | none =>
      rw [hacceptance] at h
      dsimp only at h
      unfold configurePlain at h
      split at h
      · exact nomatch h
      · rename_i hmeant
        obtain ⟨flags, hf, h⟩ := exists_of_bind_eq_ok h
        rw [ht, Store.write_text] at h
        refine ⟨flags, hf, ?_⟩
        rw [not_not.1 hmeant, Assoc.merge_nil (nodup_keys_flagSettings hf)]
        exact (Except.ok.inj h).symm
    | some acceptance =>
      rw [hacceptance] at h
      dsimp only at h
      rw [configureAccepting_of_text ht] at h
      obtain ⟨flags, hf, h⟩ := exists_of_bind_eq_ok h
      refine ⟨flags, hf, ?_⟩
      by_cases hcomma : ',' ∈ target
      · rw [if_pos hcomma] at h
        rw [if_pos ⟨rfl, hcomma⟩, if_pos ⟨rfl, hcomma⟩]
        by_cases hchunks : Settings.chunks target = []
        · rw [hchunks] at h ⊢
          exact (Except.ok.inj h).symm
        · rw [foldlM_configureAmong _ _ _ hchunks] at h
          cases hall : amongSeveral acceptance (Assoc.merge (meant given) flags) with
          | ok all =>
            rw [hall] at h
            rw [← written_of_amongSeveral hf hall]
            exact (Except.ok.inj h).symm
          | error fault =>
            rw [hall] at h
            exact nomatch h
      · rw [if_neg hcomma] at h
        obtain ⟨-, h⟩ := configureOne_eq_ok h
        rw [Store.write_text] at h
        rw [if_neg fun hc => hcomma hc.2, if_neg fun hc => hcomma hc.2]
        exact (Except.ok.inj h).symm

end Plugin

end Routing
