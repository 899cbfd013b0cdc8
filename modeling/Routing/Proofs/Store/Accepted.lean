import Routing.Proofs.Store.Settled

/-!
# Settings that have been accepted

What is written for a plugin has been checked by its class, and what is merged for an action has
been written: a setting under whose name the class accepts nothing but truth values reads as one
wherever it has been given (`Scopes.takes_merged`, `Store.takenBy_configure`).  Reading it as a
truth value is not asking whether it counts as true, but the two agree on everything except the
words for false, which count as true like any text: `SettingKind.isTrue_eq_iff_of_readBool`.
-/

namespace Routing

/-! ### Truth values -/

namespace Decimal.Double

variable {x : Double}

/-- A double is zero if it has no mantissa. -/
theorem isZero_iff_signedMantissa : x.isZero = true ↔ x.signedMantissa = 0 := by
  have hpow : Nat.pow 2 52 ≠ 0 := by decide
  unfold isZero signedMantissa mantissa
  constructor
  · intro h
    simp only [Bool.and_eq_true, beq_iff_eq] at h
    simp [h.1, h.2]
  · intro h
    by_cases he : x.exponentField = 0
    · rw [if_pos he] at h
      have hf : x.fractionField = 0 := by
        split at h <;> omega
      simp [he, hf]
    · rw [if_neg he] at h
      split at h <;> omega

/-- A double that is an integer is zero if the integer is. -/
theorem isZero_eq_of_integer? {n : Int} (h : x.integer? = some n) : x.isZero = decide (n = 0) := by
  unfold integer? at h
  dsimp only at h
  split at h
  · exact nomatch h
  · split at h
    · rename_i hdiv
      have hunit : Int.pow 2 (-x.exponent).toNat ≠ 0 := Int.pow_ne_zero (by decide)
      have hscale : Int.pow 2 x.exponent.toNat ≠ 0 := Int.pow_ne_zero (by decide)
      obtain rfl := Option.some.inj h
      rw [Bool.eq_iff_iff, isZero_iff_signedMantissa, decide_eq_true_eq, Int.mul_eq_zero,
        or_iff_left hscale]
      constructor
      · intro hz
        rw [hz, Int.zero_ediv]
      · intro hz
        rw [← Int.ediv_mul_cancel_of_emod_eq_zero hdiv, hz, Int.zero_mul]
    · exact nomatch h

end Decimal.Double

/-- The word that a value is, as a text or as UTF-8. -/
def Value.spelling? : Value → Option Text
  | .scalar (.text word) => some word
  | .scalar (.bytes data) => Text.ofUtf8? data
  | _ => none

/-- Whether a value is a word for false. -/
def Value.spellsFalse (v : Value) : Bool := v.spelling?.bind SettingKind.boolOfWord? == some false

namespace SettingKind

variable {v : Value} {b : Bool}

theorem boolOfWord?_nil : boolOfWord? [] = none := by decide

theorem ofUtf8?_nil : Text.ofUtf8? [] = some [] := by decide +kernel

theorem readWord_eq_ok {word : Text} (h : readWord word = .ok b) : boolOfWord? word = some b := by
  unfold readWord at h
  split at h
  · rename_i b' hb
    obtain rfl := Except.ok.inj h
    exact hb
  · exact nomatch h

theorem readInt_eq_ok {n : Int} (h : readInt n = .ok b) : (n = 0 ∧ b = false) ∨ (n = 1 ∧ b = true) := by
  unfold readInt at h
  split at h
  · rename_i hn
    obtain rfl := Except.ok.inj h
    exact .inl ⟨hn, rfl⟩
  · split at h
    · rename_i hn
      obtain rfl := Except.ok.inj h
      exact .inr ⟨hn, rfl⟩
    · exact nomatch h

/-- Words that read as truth values count as true all of them. -/
theorem isTrue_iff_of_word (hw : v.spelling?.bind boolOfWord? = some b) (ht : v.isTrue = true) :
    v.isTrue = b ↔ v.spellsFalse = false := by
  unfold Value.spellsFalse
  rw [hw, ht]
  cases b <;> decide

/-- A value that reads as a truth value counts as what it reads as, unless it is a word for false. -/
theorem isTrue_eq_iff_of_readBool (h : readBool v = .ok b) :
    v.isTrue = b ↔ v.spellsFalse = false := by
  cases v with
  | scalar s =>
    cases s with
    | bool c =>
      obtain rfl := Except.ok.inj h
      exact iff_of_true rfl rfl
    | int n =>
      rw [readBool] at h
      split at h
      · rcases readInt_eq_ok h with ⟨rfl, rfl⟩ | ⟨rfl, rfl⟩ <;> exact iff_of_true rfl rfl
      · exact nomatch h
    | float x =>
      rw [readBool] at h
      split at h
      · rename_i n hn
        split at h
        · have hz : (Value.scalar (.float x)).isTrue = !decide (n = 0) :=
            congrArg (!·) (Decimal.Double.isZero_eq_of_integer? hn)
          rw [hz]
          rcases readInt_eq_ok h with ⟨rfl, rfl⟩ | ⟨rfl, rfl⟩ <;> exact iff_of_true rfl rfl
        · exact nomatch h
      · exact nomatch h
    | text word =>
      have hw := readWord_eq_ok h
      refine isTrue_iff_of_word hw ?_
      cases word with
      | nil => exact nomatch boolOfWord?_nil.symm.trans hw
      | cons c word => rfl
    | bytes data =>
      rw [readBool] at h
      split at h
      · rename_i word hword
        have hw : (Value.scalar (.bytes data)).spelling?.bind boolOfWord? = some b := by
          rw [Value.spelling?, hword]
          exact readWord_eq_ok h
        refine isTrue_iff_of_word hw ?_
        cases data with
        | nil =>
          obtain rfl := Option.some.inj (ofUtf8?_nil.symm.trans hword)
          exact nomatch boolOfWord?_nil.symm.trans (readWord_eq_ok h)
        | cons byte data => rfl
      · exact nomatch h
  | _ => exact nomatch h

end SettingKind

/-! ### What a class takes -/

/-- Whatever is accepted under a name reads as a truth value. -/
def Acceptance.ReadsBool (acceptance : Acceptance) (name : Text) : Prop :=
  ∀ given v, acceptance given = [] → Assoc.get? name given = some v →
    ∃ b, SettingKind.readBool v = .ok b

/-- What is declared as a truth value has to read as one. -/
theorem Settings.readsBool_faults {declared : List Declared} {d : Declared} (hd : d ∈ declared)
    (hkind : d.kind = .bool) : Acceptance.ReadsBool (Settings.faults declared) d.name := by
  intro given v hfaults hv
  unfold Settings.faults at hfaults
  have hnone : Settings.declaredFault? given d = none :=
    List.filterMap_eq_nil_iff.1 (List.append_eq_nil_iff.1 (List.append_eq_nil_iff.1 hfaults).1).2 d hd
  unfold Settings.declaredFault? SettingKind.fault? at hnone
  rw [hv, hkind] at hnone
  cases hr : SettingKind.readBool v with
  | ok b => exact ⟨b, rfl⟩
  | error fault =>
    dsimp only at hnone
    rw [hr] at hnone
    exact nomatch hnone

/-- A setting is one that the class could have accepted: it reads as a truth value if the class
accepts nothing else under its name. -/
def PluginClass.Takes (cls : PluginClass) (p : Text × Value) : Prop :=
  ∀ acceptance, cls.acceptance = some acceptance → acceptance.ReadsBool p.1 →
    ∃ b, SettingKind.readBool p.2 = .ok b

variable {cls : PluginClass}

/-- Settings that pass the check of a class are such that it takes them. -/
theorem Plugin.Writes.takes {given settings : Settings} {target : Value}
    (h : Writes cls given target settings) (hg : given.keys.Nodup) :
    ∀ p ∈ settings, cls.Takes p := by
  intro p hp acceptance hacceptance hreads
  exact hreads settings p.2 (Settings.check_eq_ok_iff.1 (h.accepted acceptance hacceptance))
    (Assoc.get?_of_mem (h.distinct hg) hp)

namespace Scopes

variable {scopes : Scopes}

/-- The class of a plugin takes all that its scopes hold. -/
def TakenBy (cls : PluginClass) (scopes : Scopes) : Prop :=
  ∀ q ∈ scopes, ∀ p ∈ q.2.settings, cls.Takes p

/-- At first there is only the base scope, and every class takes that. -/
theorem takenBy_base (cls : PluginClass) : TakenBy cls [(.text baseLevel, Scope.base)] := by
  intro q hq p hp _ _ _
  obtain rfl := List.mem_singleton.1 hq
  obtain rfl := List.mem_singleton.1 hp
  exact ⟨true, rfl⟩

theorem takenBy_update {target : Value} {f : Scope → Scope} (h : scopes.TakenBy cls)
    (hf : ∀ scope : Scope, (∀ p ∈ scope.settings, cls.Takes p) → ∀ p ∈ (f scope).settings, cls.Takes p) :
    TakenBy cls (Keyed.update target Scope.empty f scopes) := by
  refine Keyed.forall_mem_update h (hf Scope.empty ?_) fun q hq => hf q.2 hq
  exact fun p hp => absurd hp List.not_mem_nil

theorem takenBy_write {settings : Settings} (h : scopes.TakenBy cls)
    (hs : ∀ p ∈ settings, cls.Takes p) (target : Value) : TakenBy cls (write target settings scopes) := by
  unfold write
  split
  · exact h
  · exact takenBy_update h fun scope hscope => Assoc.forall_mem_merge hscope hs

theorem takenBy_setSwitch (h : scopes.TakenBy cls) (target : Text) (on : Bool) :
    TakenBy cls (setSwitch target on scopes) :=
  takenBy_update h fun _ hscope => hscope

theorem takes_baseSettings (h : scopes.TakenBy cls) : ∀ p ∈ scopes.baseSettings, cls.Takes p := by
  have hget : ∀ scope, Keyed.get? (.text baseLevel) scopes = some scope →
      ∀ p ∈ scope.settings, cls.Takes p := by
    induction scopes with
    | nil => exact fun _ hs => nomatch hs
    | cons q scopes ih =>
      obtain ⟨hq, hrest⟩ := List.forall_mem_cons.1 h
      intro scope hs
      unfold Keyed.get? at hs
      split at hs
      · obtain rfl := Option.some.inj hs
        exact hq
      · exact ih hrest scope hs
  unfold baseSettings
  split
  · exact hget _ ‹_›
  · exact fun p hp => absurd hp List.not_mem_nil

/-- Merging brings in nothing that has not been written. -/
theorem takes_merged (h : scopes.TakenBy cls) {action : Option Text} {settings : Settings}
    (hm : scopes.merged action = .ok settings) : ∀ p ∈ settings, cls.Takes p := by
  have hbase := takes_baseSettings h
  unfold merged at hm
  split at hm
  · obtain rfl := Except.ok.inj hm
    exact hbase
  · obtain rfl := Except.ok.inj hm
    exact hbase
  · rename_i action _
    generalize scopes.baseSettings = start at hm hbase
    induction scopes generalizing start with
    | nil =>
      obtain rfl := Except.ok.inj hm
      exact hbase
    | cons q scopes ih =>
      obtain ⟨hq, hrest⟩ := List.forall_mem_cons.1 h
      rw [List.foldlM_cons] at hm
      obtain ⟨next, hone, hm⟩ := exists_of_bind_eq_ok hm
      refine ih hrest next hm ?_
      unfold mergeScope at hone
      obtain ⟨speaks, -, hone⟩ := exists_of_bind_eq_ok hone
      cases speaks with
      | false =>
        obtain rfl := Except.ok.inj hone
        exact hbase
      | true =>
        obtain rfl := Except.ok.inj hone
        exact Assoc.forall_mem_merge hbase hq

end Scopes

/-- Configuring a plugin leaves the scopes of the others as they are. -/
theorem Store.scopes_of_configure_of_ne {given : Settings} {store store' : Store} {other : Text}
    (ho : other ≠ cls.code) (h : Plugin.configure cls given store = .ok store') :
    store'.scopes other = store.scopes other := by
  rw [scopes_eq, scopes_eq, Plugin.owned_of_configure_of_ne ho h]

/-- Configuring a plugin leaves in its scopes only what its class takes. -/
theorem Store.takenBy_configure {given : Settings} {store store' : Store}
    (h : Plugin.configure cls given store = .ok store') (hg : given.keys.Nodup)
    (hs : (store.scopes cls.code).TakenBy cls) : (store'.scopes cls.code).TakenBy cls := by
  refine Plugin.configure_induction (P := fun s => (s.scopes cls.code).TakenBy cls) h hs ?_
  intro target settings s s' hw hs hwr
  rw [Store.scopes_write hwr, if_pos rfl]
  exact Scopes.takenBy_write hs (hw.takes hg) target

end Routing
