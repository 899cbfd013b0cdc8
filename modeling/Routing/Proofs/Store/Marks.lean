import Mathlib.Data.List.Induction
import Mathlib.Data.List.Nodup
import Routing.Proofs.Store.Changes

/-!
# Scopes as the marks that made them

Settings that are written and switches that are set leave marks on the scopes of a plugin, and the
scopes are these marks replayed.  Whatever is looked up in them was left by the last mark that says
something of it (`found_foldl`): the settings of a target, its switch, and what is merged for an
action, where the order of the targets is that in which they were first marked
(`get?_merged_replay`).
-/

namespace Routing

/-! ### Lists -/

/-- If every step finds what it brings before what was there, in the end that is found which the
last step to bring anything has brought. -/
theorem found_foldl {σ α β : Type} {step : σ → α → σ} {f : σ → Option β} {brings : α → Option β}
    {as : List α} (h : ∀ a ∈ as, ∀ s, f (step s a) = (brings a).or (f s)) (s : σ) :
    f (as.foldl step s) = (as.filterMap brings).getLast?.or (f s) := by
  induction as generalizing s with
  | nil => rfl
  | cons a as ih =>
    obtain ⟨ha, hrest⟩ := List.forall_mem_cons.1 h
    rw [List.foldl_cons, ih hrest, ha, List.filterMap_cons]
    cases brings a with
    | none => rw [Option.none_or]
    | some b =>
      dsimp only
      rw [List.getLast?_cons, Option.some_or, Option.some_or]
      cases (as.filterMap brings).getLast? <;> rfl

section FirstOccurrences

variable {α : Type} [BEq α] [LawfulBEq α] {as : List α} {a : α}

theorem eraseDups_concat_of_mem (h : a ∈ as) : (as ++ [a]).eraseDups = as.eraseDups := by
  rw [List.eraseDups_append]
  simp [List.removeAll, h]

theorem eraseDups_concat_of_not_mem (h : a ∉ as) : (as ++ [a]).eraseDups = as.eraseDups ++ [a] := by
  rw [List.eraseDups_append]
  simp [List.removeAll, h, List.eraseDups_cons]

theorem nodup_eraseDups (as : List α) : as.eraseDups.Nodup := by
  induction as using List.reverseRecOn with
  | nil => exact List.nodup_nil
  | append_singleton as a ih =>
    by_cases h : a ∈ as
    · rwa [eraseDups_concat_of_mem h]
    · rw [eraseDups_concat_of_not_mem h]
      refine List.nodup_append.2 ⟨ih, List.pairwise_singleton _ a, fun b hb c hc he => h ?_⟩
      rw [← List.mem_singleton.1 hc, ← he]
      exact List.mem_eraseDups.1 hb

end FirstOccurrences

namespace Keyed

variable {α : Type} {s : Text} {a start : α} {f : α → α} {t : Keyed α}

theorem map_fst_update (s : Text) (start : α) (f : α → α) (t : Keyed α) :
    (update (.text s) start f t).map Prod.fst =
      if .text s ∈ t.map Prod.fst then t.map Prod.fst else t.map Prod.fst ++ [.text s] := by
  induction t with
  | nil => rfl
  | cons p t ih =>
    obtain ⟨k, a⟩ := p
    by_cases hk : k = .text s
    · simp [update, hk]
    · by_cases hm : .text s ∈ t.map Prod.fst <;>
        simp_all [update, Ne.symm hk]

/-- What stands under a key is all that does, if no key occurs twice. -/
theorem get?_of_mem (hd : (t.map Prod.fst).Nodup) (h : (.text s, a) ∈ t) :
    get? (.text s) t = some a := by
  induction t with
  | nil => exact absurd h List.not_mem_nil
  | cons p t ih =>
    obtain ⟨k, b⟩ := p
    obtain ⟨hk, hd⟩ := List.nodup_cons.1 hd
    rcases List.mem_cons.1 h with he | hm
    · obtain ⟨rfl, rfl⟩ := Prod.mk.inj he
      simp [get?]
    · have hne : k ≠ .text s := by
        rintro rfl
        exact hk (List.mem_map.2 ⟨_, hm, rfl⟩)
      rw [get?, Value.sameKey_text, decide_eq_false hne]
      exact ih hd hm

end Keyed

/-! ### Marks -/

/-- Something that is done to the scopes of a plugin. -/
inductive Mark where
  | written (target : Value) (settings : Settings)
  | switched (target : Text) (on : Bool)

namespace Mark

def leave (scopes : Scopes) : Mark → Scopes
  | .written target settings => Scopes.write target settings scopes
  | .switched target on => Scopes.setSwitch target on scopes

/-- The target that has a scope after that, if it is a text. -/
def place? : Mark → Option Text
  | .written (.scalar (.text target)) settings => if settings = [] then none else some target
  | .written .. => none
  | .switched target _ => some target

/-- What is written to an option of a target. -/
def value? (target option : Text) : Mark → Option Value
  | .written other settings => if other = .text target then Assoc.get? option settings else none
  | .switched .. => none

/-- What the switch of a target is set to. -/
def switch? (target : Text) : Mark → Option Bool
  | .written .. => none
  | .switched other on => if other = target then some on else none

/-- Settings are written for a text, and each under a name of its own. -/
def IsPlain : Mark → Prop
  | .written target settings => (∃ t, target = .text t) ∧ settings.keys.Nodup
  | .switched .. => True

/-- The base level and the targets, in the order in which they were first marked. -/
def places (marks : List Mark) : List Text := (baseLevel :: marks.filterMap place?).eraseDups

/-- The last value written to an option of a target. -/
def lastValue? (target option : Text) (marks : List Mark) : Option Value :=
  (marks.filterMap (value? target option)).getLast?

/-- The last that the switch of a target was set to. -/
def lastSwitch? (target : Text) (marks : List Mark) : Option Bool :=
  (marks.filterMap (switch? target)).getLast?

/-- A target that is not the base level and matches the action. -/
def SpeaksOf (action target : Text) : Prop :=
  target ≠ baseLevel ∧ Glob.isMatch target action = true

instance decidableSpeaksOf (action target : Text) : Decidable (SpeaksOf action target) :=
  inferInstanceAs (Decidable (_ ∧ _))

/-- What is in force of an option for an action: of the targets that match the action and for which
the option has been written, the last in the order of their places counts, and of its values the
last written.  Without such a target it is the last written at the base level, where a plugin is
enabled at first. -/
def inForce? (action option : Text) (marks : List Mark) : Option Value :=
  (((places marks).filterMap fun target =>
      if SpeaksOf action target then lastValue? target option marks else none).getLast?.or
    (lastValue? baseLevel option marks)).or
    (Assoc.get? option Scope.base.settings)

end Mark

namespace Scopes

/-- The scopes of a plugin that has come to some marks. -/
def replay (marks : List Mark) : Scopes := marks.foldl Mark.leave [(.text baseLevel, Scope.base)]

variable {marks : List Mark} {target option action : Text} {scopes : Scopes} {settings : Settings}

theorem replay_append (marks rest : List Mark) :
    replay (marks ++ rest) = rest.foldl Mark.leave (replay marks) := List.foldl_append

/-! ### Switches -/

theorem switch?_write (target : Value) (settings : Settings) (other : Text) (scopes : Scopes) :
    switch? other (write target settings scopes) = switch? other scopes := by
  unfold write switch?
  split
  · rfl
  · by_cases h : target = .text other
    · rw [h, Keyed.get?_update_self]
      cases Keyed.get? (.text other) scopes <;> rfl
    · rw [Keyed.get?_update_of_ne_text h]

theorem switch?_setSwitch (target other : Text) (on : Bool) (scopes : Scopes) :
    switch? other (setSwitch target on scopes) =
      (if target = other then some on else none).or (switch? other scopes) := by
  unfold setSwitch switch?
  by_cases h : target = other
  · rw [h, Keyed.get?_update_self, if_pos rfl]
    rfl
  · rw [Keyed.get?_update_of_ne (Ne.symm h), if_neg h, Option.none_or]

/-- Only switches count for a switch, and only those of the target itself. -/
theorem switch?_replay (target : Text) (marks : List Mark) :
    switch? target (replay marks) = Mark.lastSwitch? target marks := by
  have hstep : ∀ m ∈ marks, ∀ scopes : Scopes,
      switch? target (Mark.leave scopes m) = (m.switch? target).or (switch? target scopes) := by
    intro m _ scopes
    cases m with
    | written other settings => exact switch?_write other settings target scopes
    | switched other on => exact switch?_setSwitch other target on scopes
  have hstart : switch? target [(.text baseLevel, Scope.base)] = none := by
    unfold switch? Keyed.get?
    split <;> rfl
  unfold replay
  rw [found_foldl hstep, hstart, Option.or_none]
  rfl

/-! ### Settings -/

theorem get?_settingsAt_leave {m : Mark} (h : m.IsPlain) (target option : Text) (scopes : Scopes) :
    Assoc.get? option (settingsAt target (Mark.leave scopes m)) =
      (m.value? target option).or (Assoc.get? option (settingsAt target scopes)) := by
  cases m with
  | written other settings =>
    obtain ⟨-, hd⟩ := h
    simp only [Mark.leave, Mark.value?]
    by_cases ho : other = .text target
    · rw [if_pos ho, ho, settingsAt_write_self, Assoc.get?_merge hd]
    · rw [if_neg ho, settingsAt_write_of_ne ho, Option.none_or]
  | switched other on =>
    simp only [Mark.leave, Mark.value?]
    rw [settingsAt_setSwitch, Option.none_or]

/-- An option of a target is what was last written to it. -/
theorem get?_settingsAt_replay (h : ∀ m ∈ marks, m.IsPlain) (target option : Text) :
    Assoc.get? option (settingsAt target (replay marks)) = (Mark.lastValue? target option marks).or
      (if target = baseLevel then Assoc.get? option Scope.base.settings else none) := by
  have hstart : Assoc.get? option (settingsAt target [(.text baseLevel, Scope.base)]) =
      if target = baseLevel then Assoc.get? option Scope.base.settings else none := by
    by_cases ht : target = baseLevel
    · rw [if_pos ht, ht]
      rfl
    · rw [if_neg ht]
      simp [settingsAt, Keyed.get?, Ne.symm ht, Assoc.get?]
  have hstep : ∀ m ∈ marks, ∀ scopes : Scopes,
      Assoc.get? option (settingsAt target (Mark.leave scopes m)) =
        (m.value? target option).or (Assoc.get? option (settingsAt target scopes)) :=
    fun m hm => get?_settingsAt_leave (h m hm) target option
  unfold replay
  rw [found_foldl (f := fun scopes => Assoc.get? option (settingsAt target scopes)) hstep, hstart]
  rfl

theorem nodup_settingsAt_leave (h : (settingsAt target scopes).keys.Nodup) (m : Mark) :
    (settingsAt target (Mark.leave scopes m)).keys.Nodup := by
  cases m with
  | written other settings =>
    unfold Mark.leave
    by_cases ho : other = .text target
    · rw [ho, settingsAt_write_self]
      exact Assoc.nodup_keys_merge h settings
    · rwa [settingsAt_write_of_ne ho]
  | switched other on =>
    unfold Mark.leave
    rwa [settingsAt_setSwitch]

theorem nodup_settingsAt_replay (target : Text) (marks : List Mark) :
    (settingsAt target (replay marks)).keys.Nodup := by
  have hstart : (settingsAt target [(.text baseLevel, Scope.base)]).keys.Nodup := by
    unfold settingsAt Keyed.get?
    split
    · exact List.pairwise_singleton _ _
    · exact List.nodup_nil
  unfold replay
  generalize [(Value.text baseLevel, Scope.base)] = scopes at hstart ⊢
  induction marks generalizing scopes with
  | nil => exact hstart
  | cons m marks ih => exact ih _ (nodup_settingsAt_leave hstart m)

/-! ### The order of the targets -/

theorem map_fst_leave {m : Mark} (h : m.IsPlain) (scopes : Scopes) :
    (Mark.leave scopes m).map Prod.fst = match m.place? with
      | none => scopes.map Prod.fst
      | some t =>
        if .text t ∈ scopes.map Prod.fst then scopes.map Prod.fst
        else scopes.map Prod.fst ++ [.text t] := by
  cases m with
  | written target settings =>
    obtain ⟨⟨t, rfl⟩, -⟩ := h
    by_cases hs : settings = []
    · simp [Mark.leave, Mark.place?, Scopes.write, hs]
    · have hplace : (Mark.written (.text t) settings).place? = some t := if_neg hs
      rw [hplace]
      simp only [Mark.leave, Scopes.write, hs, if_false]
      exact Keyed.map_fst_update t _ _ scopes
  | switched target on => exact Keyed.map_fst_update target _ _ scopes

theorem map_fst_foldl_leave (h : ∀ m ∈ marks, m.IsPlain) {ts : List Text}
    (hs : scopes.map Prod.fst = ts.eraseDups.map Value.text) :
    (marks.foldl Mark.leave scopes).map Prod.fst =
      (ts ++ marks.filterMap Mark.place?).eraseDups.map Value.text := by
  induction marks generalizing scopes ts with
  | nil => rw [List.filterMap_nil, List.append_nil, List.foldl_nil, hs]
  | cons m marks ih =>
    obtain ⟨hm, hrest⟩ := List.forall_mem_cons.1 h
    have hleave := map_fst_leave hm scopes
    rw [List.foldl_cons, List.filterMap_cons]
    cases hp : m.place? with
    | none =>
      rw [hp] at hleave
      exact ih hrest (hleave.trans hs)
    | some t =>
      have hstep : (Mark.leave scopes m).map Prod.fst = (ts ++ [t]).eraseDups.map Value.text := by
        have hmem : Value.text t ∈ scopes.map Prod.fst ↔ t ∈ ts := by
          rw [hs]
          simp
        rw [hp] at hleave
        dsimp only at hleave
        rw [hleave]
        by_cases ht : t ∈ ts
        · rw [if_pos (hmem.2 ht), hs, eraseDups_concat_of_mem ht]
        · rw [if_neg fun hm => ht (hmem.1 hm), hs, eraseDups_concat_of_not_mem ht, List.map_append,
            List.map_singleton]
      dsimp only
      rw [ih hrest hstep, List.append_assoc]
      rfl

/-- The scopes stand in the order of their places. -/
theorem map_fst_replay (h : ∀ m ∈ marks, m.IsPlain) :
    (replay marks).map Prod.fst = (Mark.places marks).map Value.text := by
  have hstart : ([(.text baseLevel, Scope.base)] : Scopes).map Prod.fst =
    [baseLevel].eraseDups.map Value.text := rfl
  exact map_fst_foldl_leave h hstart

/-! ### What is merged -/

open Mark (SpeaksOf)

theorem mergeScope_of_text (action target : Text) (settings : Settings) (scope : Scope) :
    mergeScope action settings (.text target, scope) =
      .ok (if SpeaksOf action target then Assoc.merge settings scope.settings else settings) := by
  have hspeaks : speaksOf action (.text target) =
    .ok (target != baseLevel && Glob.isMatch target action) := rfl
  unfold mergeScope
  rw [hspeaks]
  by_cases h : SpeaksOf action target
  · have hb : (target != baseLevel && Glob.isMatch target action) = true := by
      simpa [SpeaksOf] using h
    rw [hb, if_pos h]
    rfl
  · have hb : (target != baseLevel && Glob.isMatch target action) = false := by
      simpa [SpeaksOf] using h
    rw [hb, if_neg h]
    rfl

/-- What is merged of scopes whose targets are texts: an option is what the last scope says of
it. -/
theorem exists_get?_foldlM {ts : List Text} {settingsOf : Text → Settings}
    (hd : ∀ t, (settingsOf t).keys.Nodup)
    (hs : ∀ p ∈ scopes, ∃ t, p.1 = .text t ∧ p.2.settings = settingsOf t)
    (hts : scopes.map Prod.fst = ts.map Value.text) (action : Text) (start : Settings) :
    ∃ settings, scopes.foldlM (mergeScope action) start = .ok settings ∧ ∀ option,
      Assoc.get? option settings = (ts.filterMap fun t =>
        if SpeaksOf action t then Assoc.get? option (settingsOf t) else none).getLast?.or
          (Assoc.get? option start) := by
  have hfold : ∀ start, scopes.foldlM (mergeScope action) start = .ok (ts.foldl
      (fun settings t =>
        if SpeaksOf action t then Assoc.merge settings (settingsOf t) else settings) start) := by
    induction scopes generalizing ts with
    | nil =>
      cases ts with
      | nil => exact fun _ => rfl
      | cons t ts => exact nomatch hts
    | cons p scopes ih =>
      obtain ⟨⟨t, ht, he⟩, hrest⟩ := List.forall_mem_cons.1 hs
      cases ts with
      | nil => exact nomatch hts
      | cons t' ts =>
        rw [List.map_cons, List.map_cons] at hts
        obtain ⟨hk, htail⟩ := List.cons.inj hts
        intro start
        obtain ⟨k, scope⟩ := p
        obtain rfl : k = .text t := ht
        obtain rfl : t = t' := by simpa using hk
        rw [List.foldlM_cons, mergeScope_of_text, List.foldl_cons, ← he]
        exact ih hrest htail _
  refine ⟨_, hfold start, fun option => ?_⟩
  refine found_foldl (f := fun settings => Assoc.get? option settings) (fun t _ settings => ?_)
    start
  by_cases h : SpeaksOf action t
  · rw [if_pos h, if_pos h, Assoc.get?_merge (hd t)]
  · rw [if_neg h, if_neg h, Option.none_or]

/-- What is merged for an action is, of each option, what the marks say is in force. -/
theorem get?_merged_replay (h : ∀ m ∈ marks, m.IsPlain) (ha : action ≠ []) :
    ∃ settings, (replay marks).merged (some action) = .ok settings ∧
      ∀ option, Assoc.get? option settings = Mark.inForce? action option marks := by
  have hkeys := map_fst_replay h
  have hdistinct : ((replay marks).map Prod.fst).Nodup := by
    rw [hkeys]
    refine List.Nodup.map (fun s t he => ?_) (nodup_eraseDups _)
    simpa using he
  have hscopes : ∀ p ∈ replay marks,
      ∃ t, p.1 = .text t ∧ p.2.settings = settingsAt t (replay marks) := by
    intro p hp
    obtain ⟨k, scope⟩ := p
    have hk : k ∈ (Mark.places marks).map Value.text := hkeys ▸ List.mem_map.2 ⟨_, hp, rfl⟩
    obtain ⟨t, -, rfl⟩ := List.mem_map.1 hk
    refine ⟨t, rfl, ?_⟩
    unfold settingsAt
    rw [Keyed.get?_of_mem hdistinct hp]
    rfl
  obtain ⟨settings, hm, hget⟩ := exists_get?_foldlM (fun t => nodup_settingsAt_replay t marks)
    hscopes hkeys action (replay marks).baseSettings
  refine ⟨settings, ?_, fun option => ?_⟩
  · cases action with
    | nil => exact absurd rfl ha
    | cons c cs => exact hm
  · rw [hget, baseSettings_eq, get?_settingsAt_replay h, if_pos rfl, ← Option.or_assoc]
    unfold Mark.inForce?
    congr 3
    refine List.filterMap_congr fun t _ => ?_
    by_cases ht : SpeaksOf action t
    · rw [if_pos ht, if_pos ht, get?_settingsAt_replay h, if_neg ht.1, Option.or_none]
    · rw [if_neg ht, if_neg ht]

end Scopes

/-! ### Configuring -/

namespace PluginClass

variable {cls : PluginClass} {given settings flags : Settings}

/-- Whether a plugin of a class can be configured with some settings, which depends on no store. -/
def accepts (cls : PluginClass) (given : Settings) : Bool := (Plugin.configure cls given []).isOk

/-- The marks of settings, and of those that flags have spelled over them, for a target. -/
def marksFor (cls : PluginClass) (settings flags : Settings) : Value → List Mark
  | .scalar (.text target) =>
    (cls.targets target).map fun t => .written (.text t) (cls.written target settings flags)
  | target => [.written target (Assoc.merge settings flags)]

/-- The marks that a plugin of a class comes to when it is configured. -/
def marks (cls : PluginClass) (given : Settings) : List Mark :=
  if cls.accepts given then
    match Plugin.flagSettings (Assoc.get? Plugin.flagsName given) with
    | .ok flags => cls.marksFor (Plugin.meant given) flags (Plugin.targetOf given)
    | .error _ => []
  else []

theorem marks_of_refused (h : cls.accepts given = false) : cls.marks given = [] := by
  unfold marks
  rw [h, if_neg nofun]

theorem nodup_written (hs : settings.keys.Nodup) (cls : PluginClass) (target : Text)
    (flags : Settings) : (cls.written target settings flags).keys.Nodup := by
  have hmerge := Assoc.nodup_keys_merge hs flags
  unfold written
  split
  · exact Assoc.nodup_keys_erase hmerge _
  · exact hmerge

/-- Settings under names of their own, given for a text, leave plain marks. -/
theorem isPlain_of_mem_marks (hgiven : given.keys.Nodup)
    (ht : ∃ target, Plugin.targetOf given = .text target) : ∀ m ∈ cls.marks given, m.IsPlain := by
  obtain ⟨target, ht⟩ := ht
  intro m hm
  unfold marks at hm
  split at hm
  · split at hm
    · rename_i flags _
      rw [ht] at hm
      obtain ⟨t, -, rfl⟩ := List.mem_map.1 hm
      exact ⟨⟨t, rfl⟩, nodup_written (Plugin.nodup_keys_meant hgiven) cls target flags⟩
    · exact absurd hm List.not_mem_nil
  · exact absurd hm List.not_mem_nil

/-- Configuring sets no switch. -/
theorem switch?_of_mem_marks {m : Mark} (hm : m ∈ cls.marks given) (target : Text) :
    m.switch? target = none := by
  unfold marks at hm
  split at hm
  · split at hm
    · unfold marksFor at hm
      split at hm
      · obtain ⟨t, -, rfl⟩ := List.mem_map.1 hm
        rfl
      · rw [List.mem_singleton.1 hm]
        rfl
    · exact absurd hm List.not_mem_nil
  · exact absurd hm List.not_mem_nil

end PluginClass

namespace Plugin

variable {cls : PluginClass} {given : Settings} {store store' : Store}

theorem isOk_configure (cls : PluginClass) (given : Settings) (store : Store) :
    (configure cls given store).isOk = cls.accepts given := by
  have hwrites : WritesAlike (fun _ _ => True) cls.code := fun store store' target settings _ =>
    Store.sameEnd_write trivial fun _ _ _ _ => trivial
  have hend : SameEnd (fun _ _ => True) (configure cls given store) (configure cls given []) :=
    sameEnd_configure hwrites given trivial
  unfold PluginClass.accepts
  generalize configure cls given store = x at hend ⊢
  generalize configure cls given [] = y at hend ⊢
  cases hend <;> rfl

/-- A plugin that is configured for something that is no text has had its settings written for
that. -/
theorem exists_flags_of_configure_other (ht : ∀ target, targetOf given ≠ .text target)
    (h : configure cls given store = .ok store') :
    ∃ flags, flagSettings (Assoc.get? flagsName given) = .ok flags ∧
      store.write cls.code (targetOf given) (Assoc.merge (meant given) flags) = .ok store' := by
  unfold configure at h
  split at h
  · exact nomatch h
  · split at h
    · unfold configureAccepting at h
      obtain ⟨flags, hf, h⟩ := exists_of_bind_eq_ok h
      obtain ⟨several, hs, h⟩ := exists_of_bind_eq_ok h
      refine ⟨flags, hf, ?_⟩
      cases several with
      | false => exact (configureOne_eq_ok h).2
      | true =>
        obtain ⟨targets, hd, -⟩ := exists_of_bind_eq_ok h
        unfold divided at hd
        split at hd
        · rename_i target he
          exact absurd he (ht target)
        · exact nomatch hd
    · unfold configurePlain at h
      split at h
      · exact nomatch h
      · rename_i hmeant
        obtain ⟨flags, hf, h⟩ := exists_of_bind_eq_ok h
        refine ⟨flags, hf, ?_⟩
        rwa [not_not.1 hmeant, Assoc.merge_nil (nodup_keys_flagSettings hf)]

theorem accepts_of_configure (h : configure cls given store = .ok store') :
    cls.accepts given = true := by
  rw [← isOk_configure cls given store, h]
  rfl

theorem not_accepts_of_configure {fault : Fault} (h : configure cls given store = .error fault) :
    cls.accepts given = false := by
  rw [← isOk_configure cls given store, h]
  rfl

end Plugin

namespace Store

variable {cls : PluginClass} {given : Settings} {store store' : Store}

theorem writeEach_eq_foldl (targets : List Text) (settings : Settings) (scopes : Scopes) :
    Scopes.writeEach targets settings scopes =
      (targets.map fun t => Mark.written (.text t) settings).foldl Mark.leave scopes := by
  rw [List.foldl_map]
  rfl

/-- A plugin that is configured comes to its marks. -/
theorem scopes_of_configure (h : Plugin.configure cls given store = .ok store') :
    store'.scopes cls.code = (cls.marks given).foldl Mark.leave (store.scopes cls.code) := by
  unfold PluginClass.marks
  rw [Plugin.accepts_of_configure h, if_pos rfl]
  by_cases ht : ∃ target, Plugin.targetOf given = .text target
  · obtain ⟨target, ht⟩ := ht
    obtain ⟨flags, hf, rfl⟩ := Plugin.exists_flags_of_configure ht h
    rw [hf, ht, scopes_putEach, if_pos rfl, writeEach_eq_foldl]
    rfl
  · have hother := not_exists.1 ht
    obtain ⟨flags, hf, hw⟩ := Plugin.exists_flags_of_configure_other hother h
    have hmarks : cls.marksFor (Plugin.meant given) flags (Plugin.targetOf given) =
        [.written (Plugin.targetOf given) (Assoc.merge (Plugin.meant given) flags)] := by
      unfold PluginClass.marksFor
      split
      · rename_i target he
        exact absurd he (hother target)
      · rfl
    rw [hf, scopes_write hw, if_pos rfl]
    dsimp only
    rw [hmarks]
    rfl

end Store

end Routing
