import Routing.Proofs.Plugin.Configuring
import Routing.Proofs.Text.Trimming

/-!
# Several targets at once

Several targets can be given in one text, with commas between them.  That comes to configuring the
plugin for one of them after the other unless settings that are spelled by flags get in the way, or
the class has no acceptance of its own: then the text is a target of its own.  Main statement:
`configures_several_as_each`.
-/

namespace Routing

/-! ### Targets in one text -/

namespace Settings

/-- A text that can stand among others with commas between them, and is told from the blanks around
it. -/
structure IsTarget (t : Text) : Prop where
  nonempty : t ≠ []
  uncut : ',' ∉ t
  trimmed : Text.trim Text.isBlank t = t

instance decidableIsTarget (t : Text) : Decidable (IsTarget t) :=
  decidable_of_iff (t ≠ [] ∧ ',' ∉ t ∧ Text.trim Text.isBlank t = t)
    ⟨fun h => ⟨h.1, h.2.1, h.2.2⟩, fun h => ⟨h.nonempty, h.uncut, h.trimmed⟩⟩

/-- The targets in one text. -/
def together (ts : List Text) : Text := Text.joinWith ", " ts

variable {ts : List Text} {t : Text}

theorem chunks_joinWith {pieces : List Text} (h : ∀ piece ∈ pieces, ',' ∉ piece) :
    chunks (Text.joinWith "," pieces) =
      (pieces.map (Text.trim Text.isBlank)).filter (!·.isEmpty) := by
  unfold chunks
  by_cases hne : pieces = []
  · subst hne
    rfl
  · have hsplit : Text.splitAt ',' (Text.joinWith "," pieces) = pieces :=
      Text.splitAt_joinWith hne h
    rw [hsplit]

/-- The blanks between targets are in front of all but the first. -/
theorem together_cons (t : Text) (ts : List Text) :
    together (t :: ts) = Text.joinWith "," (t :: ts.map (' ' :: ·)) := by
  induction ts generalizing t with
  | nil => rfl
  | cons t' ts ih =>
    have hblank : Text.joinWith "," ((' ' :: t') :: ts.map (' ' :: ·)) =
        ' ' :: Text.joinWith "," (t' :: ts.map (' ' :: ·)) := by
      cases ts <;> rfl
    unfold together at ih ⊢
    rw [Text.joinWith_cons _ _ (List.cons_ne_nil _ _), ih, List.map_cons,
      Text.joinWith_cons _ _ (List.cons_ne_nil _ _), hblank, List.append_assoc, List.append_assoc]
    rfl

/-- What has been put together is taken apart again. -/
theorem chunks_together (hne : ts ≠ []) (h : ∀ t ∈ ts, IsTarget t) : chunks (together ts) = ts := by
  obtain ⟨t, ts, rfl⟩ := List.exists_cons_of_ne_nil hne
  obtain ⟨ht, hrest⟩ := List.forall_mem_cons.1 h
  have huncut : ∀ piece ∈ t :: ts.map (' ' :: ·), ',' ∉ piece := by
    refine List.forall_mem_cons.2 ⟨ht.uncut, List.forall_mem_map.2 fun t' ht' => ?_⟩
    simp [(hrest t' ht').uncut]
  have htrimmed : (ts.map (' ' :: ·)).map (Text.trim Text.isBlank) = ts := by
    rw [List.map_map]
    refine (List.map_congr_left fun t' ht' => ?_).trans (List.map_id ts)
    have hblank : ∀ c ∈ [' '], Text.isBlank c = true := List.all_eq_true.1 (by decide)
    exact (Text.trim_append_left hblank t').trans (hrest t' ht').trimmed
  rw [together_cons, chunks_joinWith huncut, List.map_cons, ht.trimmed, htrimmed,
    List.filter_eq_self]
  intro t' ht'
  simpa using (h t' ht').nonempty

theorem comma_mem_together (h : 2 ≤ ts.length) : ',' ∈ together ts := by
  match ts, h with
  | t :: t' :: ts, _ =>
    unfold together
    rw [Text.joinWith_cons _ _ (List.cons_ne_nil _ _)]
    exact List.mem_append_left _ (List.mem_append_right _ List.mem_cons_self)

/-! ### Faults by name -/

variable {declared : List Declared} {given : Settings} {name : Text} {fault : SettingFault}

theorem name_of_declaredFault? {d : Declared} {p : Text × SettingFault}
    (h : declaredFault? given d = some p) : p.1 = d.name := by
  unfold declaredFault? at h
  split at h
  · obtain ⟨fault, -, rfl⟩ := Option.map_eq_some_iff.1 h
    rfl
  · split at h
    · rw [← Option.some.inj h]
    · exact nomatch h

/-- A setting that is not declared is at fault if it is given. -/
theorem exists_mem_faults_iff (hd : name ∉ declared.map Declared.name) :
    (∃ fault, (name, fault) ∈ faults declared given) ↔ (Assoc.get? name given).isSome = true := by
  unfold faults
  constructor
  · rintro ⟨fault, h⟩
    rcases List.mem_append.1 h with h | h
    · rcases List.mem_append.1 h with h | h
      · obtain ⟨v, hv, he⟩ := List.mem_map.1 h
        rw [← (Prod.mk.inj he).1, Option.mem_toList.1 hv]
        rfl
      · obtain ⟨d, hm, hf⟩ := List.mem_filterMap.1 h
        exact absurd (List.mem_map.2 ⟨d, hm, (name_of_declaredFault? hf).symm⟩) hd
    · obtain ⟨p, hp, he⟩ := List.mem_map.1 h
      rw [Option.isSome_iff_ne_none, Ne, Assoc.get?_eq_none_iff, not_not]
      exact List.mem_map.2 ⟨p, (List.mem_filter.1 hp).1, (Prod.mk.inj he).1⟩
  · intro h
    obtain ⟨v, hv⟩ := Option.isSome_iff_exists.1 h
    by_cases hn : name = ownName
    · subst hn
      refine ⟨.givenTwice, List.mem_append_left _ (List.mem_append_left _ ?_)⟩
      rw [hv]
      exact List.mem_singleton.2 rfl
    · refine ⟨.unexpected, List.mem_append_right _ (List.mem_map.2 ⟨(name, v), ?_, rfl⟩)⟩
      refine List.mem_filter.2 ⟨Assoc.mem_of_get? hv, ?_⟩
      simp [hn, hd]

end Settings

/-- Settings with something under a name are refused, and not for what is wrong with the others. -/
structure Acceptance.Refuses (acceptance : Acceptance) (name : Text) : Prop where
  ne_nil {given : Settings} : (Assoc.get? name given).isSome = true → acceptance given ≠ []
  erase_ne {given : Settings} : given.keys.Nodup → (Assoc.get? name given).isSome = true →
    acceptance (Assoc.erase name given) ≠ acceptance given

/-- A name that is not declared is refused. -/
theorem Settings.refuses_faults {declared : List Declared} {name : Text}
    (hd : name ∉ declared.map Declared.name) :
    Acceptance.Refuses (Settings.faults declared) name where
  ne_nil h hnil := by
    obtain ⟨fault, hfault⟩ := (exists_mem_faults_iff hd).2 h
    rw [hnil] at hfault
    exact absurd hfault List.not_mem_nil
  erase_ne hn h hsame := by
    obtain ⟨fault, hfault⟩ := (exists_mem_faults_iff hd).2 h
    rw [← hsame] at hfault
    have hsome := (exists_mem_faults_iff hd).1 ⟨fault, hfault⟩
    rw [Assoc.get?_erase_self hn] at hsome
    exact absurd hsome Bool.false_ne_true

/-- What is refused is not accepted. -/
theorem Acceptance.Refuses.check_eq {acceptance : Acceptance} {name : Text} {given : Settings}
    (h : acceptance.Refuses name) (hg : (Assoc.get? name given).isSome = true) :
    Settings.check acceptance given = .error (.invalidSettings (acceptance given)) := by
  unfold Settings.check
  split
  · rename_i hnil
    exact absurd hnil (h.ne_nil hg)
  · rfl

/-! ### Configuring for one target and for several -/

/-- For a text that is none of some targets nothing is written if settings are written for these. -/
theorem Store.putEach_singleton_ne {settings : Settings} {t : Text} {ts : List Text}
    (hs : settings ≠ []) (hd : settings.keys.Nodup) (ht : t ∉ ts) (hb : t ≠ baseLevel)
    (plugin : Text) :
    Store.putEach plugin [t] settings [] ≠ Store.putEach plugin ts settings [] := by
  intro h
  have hget := congrArg (fun store => Keyed.get? (.text t) (store.scopes plugin)) h
  have hbase : Keyed.get? (.text t) (scopes plugin []) = none := by
    rw [scopes_nil]
    simp [Keyed.get?, Ne.symm hb]
  rw [scopes_putEach, scopes_putEach, if_pos rfl, if_pos rfl, Scopes.get?_writeEach hs hd,
    Scopes.get?_writeEach hs hd, if_pos List.mem_cons_self, if_neg ht, hbase] at hget
  exact absurd hget (Option.some_ne_none _)

namespace Plugin

variable {cls : PluginClass} {given flags settings : Settings} {acceptance : Acceptance}
  {store : Store} {t target name : Text} {ts : List Text}

/-- The settings with a text for their target. -/
def aimed (t : Text) (given : Settings) : Settings := Assoc.set targetName (.text t) given

theorem get?_aimed_of_ne (h : name ≠ targetName) (t : Text) (given : Settings) :
    Assoc.get? name (aimed t given) = Assoc.get? name given := Assoc.get?_set_of_ne h _ _

@[simp] theorem get?_ownName_aimed (t : Text) (given : Settings) :
    Assoc.get? Settings.ownName (aimed t given) = Assoc.get? Settings.ownName given :=
  get?_aimed_of_ne (by decide) t given

@[simp] theorem get?_flagsName_aimed (t : Text) (given : Settings) :
    Assoc.get? flagsName (aimed t given) = Assoc.get? flagsName given :=
  get?_aimed_of_ne (by decide) t given

@[simp] theorem targetOf_aimed (t : Text) (given : Settings) :
    targetOf (aimed t given) = .text t := by
  unfold targetOf aimed
  rw [Assoc.get?_set_self]
  rfl

/-- Neither a target nor flags are meant for the plugin. -/
theorem meant_set (h : name = targetName ∨ name = flagsName) (v : Value) (given : Settings) :
    meant (Assoc.set name v given) = meant given := by
  induction given with
  | nil => rcases h with rfl | rfl <;> rfl
  | cons p given ih =>
    obtain ⟨k, w⟩ := p
    unfold Assoc.set
    split
    · rename_i hk
      rcases h with h | h <;> simp [meant, hk, h]
    · unfold meant at ih ⊢
      rw [List.filter_cons, List.filter_cons, ih]

@[simp] theorem meant_aimed (t : Text) (given : Settings) :
    meant (aimed t given) = meant given := meant_set (.inl rfl) (.text t) given

/-- What is written for a single target, or what is wrong. -/
def accepted (cls : PluginClass) (given : Settings) : Except Fault Settings :=
  if (Assoc.get? Settings.ownName given).isSome then .error .settingGivenTwice
  else
    match cls.acceptance with
    | some acceptance => do
      let flags ← flagSettings (Assoc.get? flagsName given)
      Settings.check acceptance (Assoc.merge (meant given) flags)
      return Assoc.merge (meant given) flags
    | none => do
      if meant given ≠ [] then throw .unexpectedSetting
      flagSettings (Assoc.get? flagsName given)

/-- What is written for each of several targets in one text, or what is wrong. -/
def acceptedTogether (cls : PluginClass) (given : Settings) : Except Fault Settings :=
  if (Assoc.get? Settings.ownName given).isSome then .error .settingGivenTwice
  else
    match cls.acceptance with
    | some acceptance => do
      let flags ← flagSettings (Assoc.get? flagsName given)
      amongSeveral acceptance (Assoc.merge (meant given) flags)
    | none => accepted cls given

/-- A plugin that is configured for a text without commas writes for it what it accepts. -/
theorem configure_aimed (h : ',' ∉ t) (cls : PluginClass) (given : Settings) (store : Store) :
    configure cls (aimed t given) store =
      (accepted cls given).map fun settings => store.put cls.code (.text t) settings := by
  unfold configure accepted
  rw [get?_ownName_aimed]
  split
  · rfl
  · cases cls.acceptance with
    | none =>
      dsimp only
      unfold configurePlain
      rw [meant_aimed, get?_flagsName_aimed, targetOf_aimed]
      split
      · rfl
      · cases flagSettings (Assoc.get? flagsName given) with
        | error fault => rfl
        | ok flags => exact Store.write_text cls.code t flags store
    | some acceptance =>
      dsimp only
      rw [configureAccepting_of_text (targetOf_aimed t given), meant_aimed, get?_flagsName_aimed]
      cases flagSettings (Assoc.get? flagsName given) with
      | error fault => rfl
      | ok flags =>
        change (if ',' ∈ t then _ else configureOne cls.code acceptance _ _ store) =
          (Settings.check acceptance _ >>= fun _ => _).map _
        rw [if_neg h]
        unfold configureOne
        cases Settings.check acceptance (Assoc.merge (meant given) flags) with
        | error fault => rfl
        | ok _ => exact Store.write_text cls.code t _ store

/-- A plugin that is configured for several targets in one text writes the same for all of them. -/
theorem configure_together (hlength : 2 ≤ ts.length) (hts : ∀ t ∈ ts, Settings.IsTarget t)
    (cls : PluginClass) (given : Settings) (store : Store) :
    configure cls (aimed (Settings.together ts) given) store =
      (acceptedTogether cls given).map fun settings =>
        store.putEach cls.code (cls.targets (Settings.together ts)) settings := by
  have hcomma := Settings.comma_mem_together hlength
  have hne : ts ≠ [] := by
    rintro rfl
    exact absurd hlength (by decide)
  unfold configure acceptedTogether accepted PluginClass.targets
  rw [get?_ownName_aimed]
  split
  · rfl
  · cases cls.acceptance with
    | none =>
      dsimp only
      rw [if_neg fun h => nomatch h.1]
      unfold configurePlain
      rw [meant_aimed, get?_flagsName_aimed, targetOf_aimed]
      split
      · rfl
      · cases flagSettings (Assoc.get? flagsName given) with
        | error fault => rfl
        | ok flags => exact Store.write_text cls.code _ flags store
    | some acceptance =>
      dsimp only
      rw [if_pos ⟨rfl, hcomma⟩, Settings.chunks_together hne hts,
        configureAccepting_of_text (targetOf_aimed _ given), meant_aimed, get?_flagsName_aimed]
      cases flagSettings (Assoc.get? flagsName given) with
      | error fault => rfl
      | ok flags =>
        change (if ',' ∈ _ then List.foldlM _ store _ else _) = (amongSeveral acceptance _).map _
        rw [if_pos hcomma, Settings.chunks_together hne hts]
        exact foldlM_configureAmong cls.code acceptance _ hne store

/-! ### Settings that get in the way -/

/-- Names that a plugin is handed other things under when it is configured for several targets. -/
def reservedNames : List Text := [Settings.ownName, targetName, flagsName]

/-- Settings under no such name are accepted for several targets if they are for one. -/
theorem amongSeveral_of_free (h : ∀ name ∈ reservedNames, Assoc.get? name settings = none)
    (acceptance : Acceptance) :
    amongSeveral acceptance settings =
      (Settings.check acceptance settings >>= fun _ => pure settings) := by
  have hown : Assoc.get? Settings.ownName settings = none := h _ (by decide)
  have htarget : Assoc.get? targetName settings = none := h _ (by decide)
  have hflags : Assoc.get? flagsName settings = none := h _ (by decide)
  unfold amongSeveral
  rw [hown, htarget, hflags, Assoc.erase_of_get?_eq_none hflags, if_neg (by decide)]
  rfl

/-- Truth values under one of them are not taken alike. -/
theorem map_amongSeveral_ne {β : Type} (hd : acceptance.Refuses flagsName)
    (hn : settings.keys.Nodup) (h : ∃ name ∈ reservedNames, Assoc.get? name settings ≠ none)
    (hbool : ∀ v, Assoc.get? flagsName settings = some v → ∃ b, v = .bool b) (f g : Settings → β) :
    (amongSeveral acceptance settings).map f ≠
      (Settings.check acceptance settings >>= fun _ => pure settings).map g := by
  by_cases hclash : (Assoc.get? Settings.ownName settings).isSome = true ∨
      (Assoc.get? targetName settings).isSome = true
  · have hfault : amongSeveral acceptance settings = .error .settingGivenTwice := by
      unfold amongSeveral
      rw [if_pos hclash]
      rfl
    rw [hfault]
    unfold Settings.check
    split <;> exact nofun
  · obtain ⟨v, hv⟩ : ∃ v, Assoc.get? flagsName settings = some v := by
      obtain ⟨name, hname, hsome⟩ := h
      obtain ⟨v, hv⟩ := Option.ne_none_iff_exists'.1 hsome
      simp only [reservedNames, List.mem_cons, List.not_mem_nil, or_false] at hname
      rcases hname with rfl | rfl | rfl
      · exact absurd (.inl (hv ▸ rfl)) hclash
      · exact absurd (.inr (hv ▸ rfl)) hclash
      · exact ⟨v, hv⟩
    obtain ⟨b, rfl⟩ := hbool v hv
    -- For one target the name is at fault.  For several it is read as flags, and then dropped.
    have hgiven : (Assoc.get? flagsName settings).isSome = true := by
      rw [hv]
      rfl
    have hseveral : amongSeveral acceptance settings =
        (flagSettings (some (.bool b)) >>= fun more => do
          let all := Assoc.merge (Assoc.erase flagsName settings) more
          Settings.check acceptance all
          return all) := by
      unfold amongSeveral
      rw [hv, if_neg hclash]
    rw [hd.check_eq hgiven, hseveral]
    cases b with
    | true => exact nofun
    | false =>
      change (Settings.check acceptance (Assoc.erase flagsName settings) >>= fun _ => _).map f ≠ _
      unfold Settings.check
      split
      · exact nofun
      · intro he
        exact hd.erase_ne hn hgiven
          (Fault.invalidSettings.inj (Except.error.inj he))

/-- What is given does not tell several targets from one: it is refused before there is a target, or
the flags spell no setting under a reserved name, and none at all if the class cuts no text. -/
def Divides (cls : PluginClass) (given : Settings) : Prop :=
  (Assoc.get? Settings.ownName given).isSome = true ∨
    ∀ flags, flagSettings (Assoc.get? flagsName given) = .ok flags →
      match cls.acceptance with
      | some _ => ∀ name ∈ reservedNames, Assoc.get? name flags = none
      | none => meant given = [] → flags = []

theorem get?_ownName_meant (h : Assoc.get? Settings.ownName given = none) :
    Assoc.get? Settings.ownName (meant given) = none := by
  rw [Assoc.get?_eq_none_iff] at h ⊢
  exact fun hm => h (List.filter_sublist.map Prod.fst |>.subset hm)

/-- Nothing stands under a reserved name but what flags have spelled. -/
theorem get?_reserved_merge (hf : flags.keys.Nodup)
    (hown : Assoc.get? Settings.ownName given = none) (hname : name ∈ reservedNames) :
    Assoc.get? name (Assoc.merge (meant given) flags) = Assoc.get? name flags := by
  have hmeant : Assoc.get? name (meant given) = none := by
    simp only [reservedNames, List.mem_cons, List.not_mem_nil, or_false] at hname
    rcases hname with rfl | rfl | rfl
    · exact get?_ownName_meant hown
    · exact get?_meant_eq_none (.inl rfl) given
    · exact get?_meant_eq_none (.inr rfl) given
  rw [Assoc.get?_merge hf, hmeant, Option.or_none]

/-- Settings that divide are accepted for several targets if they are for one. -/
theorem acceptedTogether_eq (h : Divides cls given) :
    acceptedTogether cls given = accepted cls given := by
  unfold acceptedTogether accepted
  by_cases hown : (Assoc.get? Settings.ownName given).isSome = true
  · rw [if_pos hown, if_pos hown]
  · rw [if_neg hown, if_neg hown]
    cases hacceptance : cls.acceptance with
    | none => rfl
    | some acceptance =>
      dsimp only
      cases hf : flagSettings (Assoc.get? flagsName given) with
      | error fault => rfl
      | ok flags =>
        have hfree := h.resolve_left hown flags hf
        rw [hacceptance] at hfree
        refine amongSeveral_of_free (fun name hname => ?_) acceptance
        have hownNone : Assoc.get? Settings.ownName given = none := by simpa using hown
        rw [get?_reserved_merge (nodup_keys_flagSettings hf) hownNone hname]
        exact hfree name hname

/-- A text that the class does not cut is written for only if the settings do not divide. -/
theorem eq_nil_of_accepted (h : Divides cls given) (hplain : cls.acceptance = none)
    (ha : accepted cls given = .ok settings) : settings = [] := by
  unfold accepted at ha
  rw [hplain] at ha
  split at ha
  · exact nomatch ha
  · rename_i hown
    dsimp only at ha
    split at ha
    · exact nomatch ha
    · rename_i hmeant
      have hnil := h.resolve_left hown settings ha
      rw [hplain] at hnil
      exact hnil (not_not.1 hmeant)

/-- What is accepted for all is written for each. -/
theorem putEach_targets_together (h : Divides cls given) (hlength : 2 ≤ ts.length)
    (hts : ∀ t ∈ ts, Settings.IsTarget t) (ha : accepted cls given = .ok settings) (store : Store) :
    store.putEach cls.code (cls.targets (Settings.together ts)) settings =
      store.putEach cls.code ts settings := by
  cases hacceptance : cls.acceptance with
  | none =>
    rw [eq_nil_of_accepted h hacceptance ha, Store.putEach_no_settings, Store.putEach_no_settings]
  | some acceptance =>
    have hne : ts ≠ [] := by
      rintro rfl
      exact absurd hlength (by decide)
    have hcut : cls.acceptance.isSome = true ∧ ',' ∈ Settings.together ts :=
      ⟨by rw [hacceptance]; rfl, Settings.comma_mem_together hlength⟩
    rw [PluginClass.targets, if_pos hcut, Settings.chunks_together hne hts]

/-- Settings that do not divide are not accepted alike, or are written for other targets. -/
theorem not_same_of_not_divides (hgiven : given.keys.Nodup) (hlength : 2 ≤ ts.length)
    (hts : ∀ t ∈ ts, Settings.IsTarget t)
    (hrefuses : ∀ acceptance, cls.acceptance = some acceptance →
      acceptance.Refuses flagsName)
    (h : ¬ Divides cls given) :
    (acceptedTogether cls given).map
        (fun settings => Store.putEach cls.code (cls.targets (Settings.together ts)) settings []) ≠
      (accepted cls given).map fun settings => Store.putEach cls.code ts settings [] := by
  obtain ⟨hown, hflags⟩ := not_or.1 h
  obtain ⟨flags, hflags⟩ := not_forall.1 hflags
  obtain ⟨hf, hbad⟩ := Classical.not_imp.1 hflags
  have hnodup := nodup_keys_flagSettings hf
  unfold acceptedTogether accepted
  rw [if_neg hown, if_neg hown, hf]
  cases hacceptance : cls.acceptance with
  | some acceptance =>
    rw [hacceptance] at hbad
    dsimp only at hbad ⊢
    have hownNone : Assoc.get? Settings.ownName given = none := by simpa using hown
    have hmerge : ∀ name ∈ reservedNames, Assoc.get? name (Assoc.merge (meant given) flags) =
        Assoc.get? name flags := fun _ => get?_reserved_merge hnodup hownNone
    refine map_amongSeveral_ne (hrefuses acceptance hacceptance)
      (Assoc.nodup_keys_merge (nodup_keys_meant hgiven) flags) ?_ ?_ _ _
    · obtain ⟨name, hname⟩ := not_forall.1 hbad
      obtain ⟨hname, hsome⟩ := Classical.not_imp.1 hname
      exact ⟨name, hname, hmerge name hname ▸ hsome⟩
    · intro v hv
      rw [hmerge flagsName (by decide)] at hv
      exact exists_bool_of_flagSettings hf _ (Assoc.mem_of_get? hv)
  | none =>
    rw [hacceptance] at hbad
    obtain ⟨hmeant, hsome⟩ := Classical.not_imp.1 hbad
    dsimp only
    rw [hmeant, PluginClass.targets, hacceptance, if_neg fun h => nomatch h.1]
    intro he
    have hcomma := Settings.comma_mem_together hlength
    refine Store.putEach_singleton_ne hsome hnodup (fun hm => (hts _ hm).uncut hcomma) ?_ cls.code
      (Except.ok.inj he)
    intro hbase
    rw [hbase] at hcomma
    exact absurd hcomma (by decide)

end Plugin

namespace Application

variable {cls : PluginClass} {given : Settings} {ts : List Text}

theorem configureClass_eq_alter (cls : PluginClass) (given : Settings) :
    configureClass cls given =
      Step.alter fun app => (Plugin.configure cls given app.router.store).map app.withStore := by
  refine Step.eq_of_run fun app => ?_
  rw [run_configureClass, Step.run_alter]
  cases Plugin.configure cls given app.router.store <;> rfl

/-- Two stores that an application is left with are one if it is the same application. -/
theorem map_withStore_inj {app : Application} {x y : Except Fault Store} :
    x.map app.withStore = y.map app.withStore ↔ x = y := by
  refine ⟨fun h => ?_, congrArg _⟩
  cases x <;> cases y
  · exact congrArg Except.error (Except.error.inj h)
  · exact nomatch h
  · exact nomatch h
  · exact congrArg (fun app => Except.ok app.router.store) (Except.ok.inj h)

theorem foldl_withStore_put (plugin : Text) (settings : Settings) (ts : List Text)
    (app : Application) : ts.foldl
        (fun app t => app.withStore (app.router.store.put plugin (.text t) settings)) app =
      app.withStore (app.router.store.putEach plugin ts settings) := by
  induction ts generalizing app with
  | nil => rfl
  | cons t ts ih =>
    rw [List.foldl_cons, ih]
    rfl

/-- A plugin that is configured for one target after the other writes for all of them, or for
none. -/
theorem forEach_configureClass (hne : ts ≠ []) (hts : ∀ t ∈ ts, Settings.IsTarget t)
    (cls : PluginClass) (given : Settings) :
    Step.forEach (fun t => configureClass cls (Plugin.aimed t given)) ts =
      Step.alter fun app => ((Plugin.accepted cls given).map fun settings =>
        app.router.store.putEach cls.code ts settings).map app.withStore := by
  have hone : ∀ t ∈ ts, configureClass cls (Plugin.aimed t given) =
      Step.alter fun app => (Plugin.accepted cls given).map fun settings =>
        app.withStore (app.router.store.put cls.code (.text t) settings) := by
    intro t ht
    rw [configureClass_eq_alter]
    refine congrArg Step.alter (funext fun app => ?_)
    rw [Plugin.configure_aimed (hts t ht).uncut]
    cases Plugin.accepted cls given <;> rfl
  rw [Step.forEach_congr hone, Step.forEach_alter fun _ _ => rfl]
  refine congrArg Step.alter (funext fun app => ?_)
  rw [Step.foldlM_of_map (fun _ _ => rfl) hne]
  simp only [foldl_withStore_put]
  cases Plugin.accepted cls given <;> rfl

/-- To configure a plugin for two or more targets in one text is to configure it for one after the
other, from whatever store, and it fails with the same fault or leaves the same store, if the
settings divide.  If they do not it is not, from the empty store at least; but a class could accept a
setting under the name for flags. -/
theorem configures_several_as_each (hgiven : given.keys.Nodup) (hlength : 2 ≤ ts.length)
    (hts : ∀ t ∈ ts, Settings.IsTarget t) (cls : PluginClass) (app : Application) :
    let same := ∀ store,
      (configureClass cls (Plugin.aimed (Settings.together ts) given)).run (app.withStore store) =
        (Step.forEach (fun t => configureClass cls (Plugin.aimed t given)) ts).run
          (app.withStore store)
    (Plugin.Divides cls given → same) ∧
      ((∀ acceptance, cls.acceptance = some acceptance →
        acceptance.Refuses Plugin.flagsName) → same → Plugin.Divides cls given) := by
  intro same
  have hne : ts ≠ [] := by
    rintro rfl
    exact absurd hlength (by decide)
  have hsame : same ↔ ∀ store,
      (Plugin.acceptedTogether cls given).map (fun settings =>
          Store.putEach cls.code (cls.targets (Settings.together ts)) settings store) =
        (Plugin.accepted cls given).map fun settings =>
          Store.putEach cls.code ts settings store := by
    refine forall_congr' fun store => ?_
    rw [configureClass_eq_alter, forEach_configureClass hne hts, Step.run_alter_inj,
      Plugin.configure_together hlength hts]
    exact map_withStore_inj
  rw [hsame]
  refine ⟨fun h store => ?_, fun hrefuses h => ?_⟩
  · rw [Plugin.acceptedTogether_eq h]
    cases ha : Plugin.accepted cls given with
    | error fault => rfl
    | ok settings =>
      exact congrArg Except.ok (Plugin.putEach_targets_together h hlength hts ha store)
  · by_contra hd
    exact Plugin.not_same_of_not_divides hgiven hlength hts hrefuses hd (h [])

/-- Settings some of which are spelled by flags. -/
def withFlags (flags : Text) : Settings := [("before", .bool false), ("flags", .text flags)]

theorem nodup_withFlags (flags : Text) : (withFlags flags).keys.Nodup := by
  simp [withFlags, Assoc.keys]

/-- Some targets. -/
def twoTargets : List Text := ["a.*".toList, "b.c".toList]

theorem isTarget_twoTargets : ∀ t ∈ twoTargets, Settings.IsTarget t := by decide

/-- Two targets at once are one after the other, but not if flags are named by flags. -/
theorem configures_several_as_each_by_flags :
    let app := withRoutes [] []
    let atOnce := fun flags =>
      configureClass PluginClass.logging
        (Plugin.aimed (Settings.together twoTargets) (withFlags flags))
    let inTurn := fun flags => Step.forEach
      (fun t => configureClass PluginClass.logging (Plugin.aimed t (withFlags flags))) twoTargets
    (atOnce "after:off").run app = (inTurn "after:off").run app ∧
      ¬ ∀ store, (atOnce "flags:off").run (app.withStore store) =
        (inTurn "flags:off").run (app.withStore store) := by
  intro app atOnce inTurn
  constructor
  · obtain ⟨hsame, -⟩ := configures_several_as_each (nodup_withFlags "after:off") (by decide)
      isTarget_twoTargets PluginClass.logging app
    refine hsame (.inr fun flags hf => ?_) []
    obtain rfl : [("after".toList, .bool false)] = flags := Except.ok.inj hf
    change ∀ name ∈ Plugin.reservedNames,
      Assoc.get? name [("after".toList, Value.bool false)] = none
    decide
  · obtain ⟨-, hdivides⟩ := configures_several_as_each (nodup_withFlags "flags:off") (by decide)
      isTarget_twoTargets PluginClass.logging app
    intro h
    have hrefuses : ∀ acceptance, PluginClass.logging.acceptance = some acceptance →
        acceptance.Refuses Plugin.flagsName := by
      intro acceptance hacceptance
      obtain rfl := Option.some.inj hacceptance
      exact Settings.refuses_faults (by decide)
    rcases hdivides hrefuses h with hown | hfree
    · exact absurd hown (by decide)
    · have hnone := hfree [("flags", .bool false)] rfl Plugin.flagsName (by decide)
      exact absurd hnone (by decide)

/-- A class without an acceptance of its own takes several targets for one. -/
theorem not_forall_configures_several_as_each : ¬ ∀ (app : Application) (requests : List Request)
    (name : Text) (p : Plugin) (given : Settings) (ts : List Text),
    app.router.plugins = [] → app.router.store = [] →
      let now := asked requests app
      now.router.plugin? name = some p → given.keys.Nodup → 2 ≤ ts.length →
        (∀ t ∈ ts, Settings.IsTarget t) →
          (configureClass p.cls (Plugin.aimed (Settings.together ts) given)).run now =
            (Step.forEach (fun t => configureClass p.cls (Plugin.aimed t given)) ts).run now := by
  intro h
  have hsame := h ((registerClass (some PluginClass.plain) none).run (withRoutes [] [])).state
    [.call (.attach (.text "plain") [] none)] "plain" ⟨PluginClass.plain, .shared, [], []⟩
    [("flags", .text "x")] twoTargets rfl rfl rfl (by simp [Assoc.keys]) (by decide)
    isTarget_twoTargets
  replace hsame := congrArg (fun outcome => outcome.state.router.store) hsame
  revert hsame
  decide +kernel

end Application

end Routing
