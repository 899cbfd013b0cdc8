import Routing.Proofs.Plugin.SeveralTargets
import Routing.Proofs.Store.Marks

/-!
# Flags for switches

Flags are a way to write settings that are on or off.  Each name stands in a chunk of its own, by
itself or with a word after a colon, with commas between the chunks and blanks wherever one likes
(`Spells`, `Renders`).  Reading takes away the blanks that writing has put in, so that it comes back
to the names and whether they are on, chunk by chunk: `map_ofFlag_chunks`.  Configuring a plugin with
flags is then configuring it with what they were written for.  Main statement:
`flags_encode_switches`.
-/

namespace Routing

/-! ### What is merged one after the other -/

namespace Assoc

variable {α : Type} {key : Text} {new : Assoc α}

/-- The last value that is given under a key. -/
def last? (key : Text) (new : Assoc α) : Option α :=
  (new.filterMap fun p => if p.1 = key then some p.2 else none).getLast?

theorem get?_merge_eq_last? (key : Text) (t new : Assoc α) :
    get? key (merge t new) = (last? key new).or (get? key t) := by
  refine found_foldl (f := get? key) (fun p _ t => ?_) t
  by_cases h : p.1 = key
  · rw [if_pos h, h, get?_set_self, Option.some_or]
  · rw [if_neg h, get?_set_of_ne (Ne.symm h), Option.none_or]

/-- The keys of what is merged are in the order in which they are first given. -/
theorem keys_merge_nil (new : Assoc α) : keys (merge [] new) = (keys new).eraseDups := by
  induction new using List.reverseRecOn with
  | nil => rfl
  | append_singleton new p ih =>
    have hstep : merge [] (new ++ [p]) = set p.1 p.2 (merge [] new) := List.foldl_concat ..
    have hkeys : keys (new ++ [p]) = keys new ++ [p.1] := List.map_append
    have hmem : p.1 ∈ keys (merge [] new) ↔ p.1 ∈ keys new := by rw [ih, List.mem_eraseDups]
    rw [hstep, hkeys, keys_set]
    by_cases h : p.1 ∈ keys new
    · rw [if_pos (hmem.2 h), ih, eraseDups_concat_of_mem h]
    · rw [if_neg fun hm => h (hmem.1 hm), ih, eraseDups_concat_of_not_mem h]

theorem last?_eq_none (h : ∀ p ∈ new, p.1 ≠ key) : last? key new = none := by
  unfold last?
  rw [List.filterMap_eq_nil_iff.2 fun p hp => if_neg (h p hp)]
  rfl

theorem last?_map {β : Type} (f : α → β) (key : Text) (new : Assoc α) :
    last? key (new.map fun p => (p.1, f p.2)) = (last? key new).map f := by
  unfold last?
  rw [List.filterMap_map, ← List.getLast?_map, List.map_filterMap]
  congr 2
  funext p
  by_cases h : p.1 = key <;> simp [h]

end Assoc

/-! ### Ways to write flags -/

namespace Settings

/-- The word after a name that is off. -/
def offWord : Text := "off"

def AllBlank (s : Text) : Prop := ∀ c ∈ s, Text.isBlank c = true

instance decidableAllBlank (s : Text) : Decidable (AllBlank s) :=
  decidable_of_iff (s.all Text.isBlank = true) List.all_eq_true

/-- A text with blanks around it, or without. -/
def Padded (inner s : Text) : Prop :=
  ∃ before after, AllBlank before ∧ AllBlank after ∧ s = before ++ inner ++ after

/-- A name that can be told from what stands around it in flags. -/
structure IsFlagName (name : Text) : Prop extends IsTarget name where
  unmarked : ':' ∉ name

/-- The ways to write a name and whether it is on. -/
inductive Spells (name : Text) : Bool → Text → Prop
  | bare {s : Text} (hs : Padded name s) : Spells name true s
  /-- With any word after a colon but the one for off, which may come with a colon itself. -/
  | on {s word : Text} (hs : Padded name s) (huncut : ',' ∉ word)
      (hword : (Text.trim Text.isBlank word).map Char.toLower ≠ offWord) :
      Spells name true (s ++ ':' :: word)
  /-- With the word for off, in capital letters or in small ones. -/
  | off {s word t : Text} (hs : Padded name s) (hword : word.map Char.toLower = offWord)
      (ht : Padded word t) : Spells name false (s ++ ':' :: t)

/-- The ways to write names and whether they are on, one after the other, as chunks of flags.  There
can be chunks of nothing or of blanks among them. -/
inductive Renders : Assoc Bool → List Text → Prop
  | nil : Renders [] []
  | blank {pairs : Assoc Bool} {chunk : Text} {chunks : List Text} (hblank : AllBlank chunk)
      (hrest : Renders pairs chunks) : Renders pairs (chunk :: chunks)
  | flag {pairs : Assoc Bool} {name chunk : Text} {on : Bool} {chunks : List Text}
      (hname : IsFlagName name) (hflag : Spells name on chunk) (hrest : Renders pairs chunks) :
      Renders ((name, on) :: pairs) (chunk :: chunks)

variable {name s word chunk : Text} {c : Char} {on : Bool} {pairs : Assoc Bool}
  {pieces : List Text}

theorem AllBlank.not_mem (h : AllBlank s) (hc : Text.isBlank c = false) : c ∉ s := by
  intro hm
  rw [h c hm] at hc
  exact nomatch hc

theorem AllBlank.trim_eq_nil (h : AllBlank s) : Text.trim Text.isBlank s = [] := by
  have := Text.trim_append_left h []
  rwa [List.append_nil] at this

theorem padded_self (s : Text) : Padded s s := ⟨[], [], by simp [AllBlank], by simp [AllBlank], by simp⟩

theorem Padded.trim_eq (h : Padded word s) :
    Text.trim Text.isBlank s = Text.trim Text.isBlank word := by
  obtain ⟨before, after, hb, ha, rfl⟩ := h
  rw [Text.trim_append_right ha, Text.trim_append_left hb]

theorem Padded.not_mem (h : Padded word s) (hc : Text.isBlank c = false) (hw : c ∉ word) :
    c ∉ s := by
  obtain ⟨before, after, hb, ha, rfl⟩ := h
  simp [hb.not_mem hc, hw, ha.not_mem hc]

/-- What is a letter of the word for off, as a capital letter or as a small one, is no blank. -/
theorem isBlank_of_toLower (h : c.toLower ∈ offWord) : Text.isBlank c = false := by
  rw [Bool.eq_false_iff]
  intro hblank
  unfold Char.toLower at h
  split at h
  · rename_i hupper
    have hlow : 65 ≤ c.toNat := hupper.1
    have hhigh : c.toNat ≤ 90 := hupper.2
    -- the capital letters lie between two ranges of blanks
    have hfar : ∀ r ∈ Text.blankRanges, r.2 < 65 ∨ 90 < r.1 := by decide
    obtain ⟨r, hr, hfirst, hlast⟩ := Text.exists_of_inRanges hblank
    have := hfar r hr
    omega
  · have hsmall : offWord.all (fun c => !Text.isBlank c) = true := by decide
    have := List.all_eq_true.1 hsmall c h
    simp [hblank] at this

theorem not_mem_of_map_toLower (h : word.map Char.toLower = offWord)
    (hc : c.toLower ∉ offWord) : c ∉ word := by
  intro hm
  rw [← h] at hc
  exact hc (List.mem_map_of_mem hm)

theorem trim_of_map_toLower (h : word.map Char.toLower = offWord) :
    Text.trim Text.isBlank word = word := by
  refine Text.trim_of_forall fun c hc => isBlank_of_toLower ?_
  rw [← h]
  exact List.mem_map_of_mem hc

/-! ### Reading them -/

theorem not_comma_mem (hname : IsFlagName name) (h : Spells name on chunk) : ',' ∉ chunk := by
  cases h with
  | bare hs => exact hs.not_mem (by decide) hname.uncut
  | on hs huncut _ =>
    have := hs.not_mem (by decide) hname.uncut
    simp [this, huncut]
  | off hs hword ht =>
    have hs := hs.not_mem (by decide) hname.uncut
    have ht := ht.not_mem (by decide) (not_mem_of_map_toLower (c := ',') hword (by decide))
    simp [hs, ht]

/-- A chunk with a colon in it is what comes before the colon and the word after it. -/
theorem ofFlag_trim (h : ':' ∉ s) (word : Text) :
    Text.trim Text.isBlank (s ++ ':' :: word) ≠ [] ∧
      ofFlag (Text.trim Text.isBlank (s ++ ':' :: word)) =
        (Text.trim Text.isBlank s,
          (Text.trim Text.isBlank word).map Char.toLower != offWord) := by
  have hcut : ':' ∉ s.dropWhile Text.isBlank := fun hm => h ((List.dropWhile_sublist _).subset hm)
  rw [Text.trim_append_cons (by decide)]
  constructor
  · simp
  · unfold ofFlag
    rw [if_pos (by simp), Text.cutAt_append_cons hcut]
    dsimp only
    rw [Text.trim_dropWhile, Text.trim_rdropWhile]
    rfl

/-- A chunk is read as what it spells, and is not left out. -/
theorem ofFlag_of_spells (hname : IsFlagName name) (h : Spells name on chunk) :
    Text.trim Text.isBlank chunk ≠ [] ∧ ofFlag (Text.trim Text.isBlank chunk) = (name, on) := by
  cases h with
  | bare hs =>
    rw [hs.trim_eq, hname.trimmed]
    refine ⟨hname.nonempty, ?_⟩
    unfold ofFlag
    rw [if_neg hname.unmarked]
  | on hs _ hword =>
    obtain ⟨hne, hread⟩ := ofFlag_trim (hs.not_mem (by decide) hname.unmarked) _
    refine ⟨hne, hread.trans ?_⟩
    rw [hs.trim_eq, hname.trimmed, bne_iff_ne.2 hword]
  | off hs hword ht =>
    obtain ⟨hne, hread⟩ := ofFlag_trim (hs.not_mem (by decide) hname.unmarked) _
    refine ⟨hne, hread.trans ?_⟩
    rw [hs.trim_eq, hname.trimmed, ht.trim_eq, trim_of_map_toLower hword, hword]
    rfl

theorem Renders.not_comma_mem (h : Renders pairs pieces) : ∀ piece ∈ pieces, ',' ∉ piece := by
  induction h with
  | nil => simp
  | blank hblank _ ih => exact List.forall_mem_cons.2 ⟨hblank.not_mem (by decide), ih⟩
  | flag hname hflag _ ih =>
    exact List.forall_mem_cons.2 ⟨Settings.not_comma_mem hname hflag, ih⟩

/-- What is written as flags is read as what it was written for. -/
theorem map_ofFlag_chunks (h : Renders pairs pieces) :
    (chunks (Text.joinWith "," pieces)).map ofFlag = pairs := by
  rw [chunks_joinWith h.not_comma_mem]
  induction h with
  | nil => rfl
  | blank hblank _ ih =>
    rw [List.map_cons, hblank.trim_eq_nil]
    exact ih
  | flag hname hflag _ ih =>
    obtain ⟨hne, hread⟩ := ofFlag_of_spells hname hflag
    rw [List.map_cons, List.filter_cons_of_pos (by simpa using hne), List.map_cons, hread, ih]

/-- The settings that flags spell are the names, each with whether it was last on. -/
theorem ofFlags_of_renders (h : Renders pairs pieces) :
    ofFlags (Text.joinWith "," pieces) = Assoc.merge [] (pairs.map fun p => (p.1, .bool p.2)) := by
  unfold ofFlags
  rw [← map_ofFlag_chunks h, List.map_map]
  rfl

end Settings

/-! ### Configuring with them -/

namespace Plugin

variable {cls : PluginClass} {acceptance : Acceptance} {given options : Settings}

/-- Settings with neither a target nor flags among them are all meant for the plugin. -/
theorem meant_of_free (htarget : Assoc.get? targetName given = none)
    (hflags : Assoc.get? flagsName given = none) : meant given = given := by
  rw [Assoc.get?_eq_none_iff] at htarget hflags
  unfold meant
  rw [List.filter_eq_self]
  intro p hp
  have ht : p.1 ≠ targetName := fun he => htarget (List.mem_map.2 ⟨p, hp, he⟩)
  have hf : p.1 ≠ flagsName := fun he => hflags (List.mem_map.2 ⟨p, hp, he⟩)
  simp [ht, hf]

/-- Flags in a text are read, and from an empty one there is nothing to be read. -/
theorem flagSettings_text (flags : Text) :
    flagSettings (some (.text flags)) = .ok (Settings.ofFlags flags) := by
  cases flags with
  | nil => rfl
  | cons c flags => rfl

/-- Settings can be given as flags or by their names, unless they have reserved names. -/
theorem configureInTurn_flags (hacceptance : cls.acceptance = some acceptance)
    (htarget : Assoc.get? targetName options = none) (hflags : Assoc.get? flagsName options = none)
    {flags : Text} (hfree : ∀ name ∈ reservedNames, Assoc.get? name (Settings.ofFlags flags) = none)
    (t : Text) :
    configureInTurn cls (aimed t (Assoc.set flagsName (.text flags) options)) =
      configureInTurn cls (aimed t (Assoc.merge options (Settings.ofFlags flags))) := by
  have hmerge : ∀ name ∈ reservedNames,
      Assoc.get? name (Assoc.merge options (Settings.ofFlags flags)) = Assoc.get? name options := by
    intro name hname
    rw [Assoc.get?_merge (nodup_keys_flagSettings (flagSettings_text flags)), hfree name hname,
      Option.none_or]
  have htarget' := (hmerge targetName (by decide)).trans htarget
  have hflags' := (hmerge flagsName (by decide)).trans hflags
  have hown : Assoc.get? Settings.ownName (Assoc.set flagsName (.text flags) options) =
      Assoc.get? Settings.ownName options := Assoc.get?_set_of_ne (by decide) _ _
  unfold configureInTurn
  simp only [get?_ownName_aimed, get?_flagsName_aimed, targetOf_aimed, meant_aimed, hacceptance, hown,
    hmerge Settings.ownName (by decide), Assoc.get?_set_self, flagSettings_text, hflags',
    meant_set (Or.inr rfl), meant_of_free htarget hflags, meant_of_free htarget' hflags']
  rfl

end Plugin

namespace Application

/-- Flags are a way to write settings that are on or off.  Whatever the way in which names, and
whether they are on, are written as flags, these spell each of the names once, in the order in which
they first come, and with whether it was last on.  So a plugin with an acceptance of its own is
configured with such flags just as if their settings had been given over the other ones by name, with
the same fault or the same store in the end, as long as no name is reserved: by its class, or as an
attached plugin that is found by attribute. -/
theorem flags_encode_switches {pairs : Assoc Bool} {pieces : List Text}
    (h : Settings.Renders pairs pieces) :
    let flags := Text.joinWith "," pieces
    let spelled := Settings.ofFlags flags
    (spelled.map Prod.fst = (pairs.map Prod.fst).eraseDups ∧
        ∀ name, Assoc.get? name spelled = (Assoc.last? name pairs).map Value.bool) ∧
      ((∀ p ∈ pairs, p.1 ∉ Plugin.reservedNames) →
        ∀ (cls : PluginClass) acceptance, cls.acceptance = some acceptance → ∀ t options,
          Assoc.get? Plugin.targetName options = none →
          Assoc.get? Plugin.flagsName options = none →
            let written := Plugin.aimed t (Assoc.set Plugin.flagsName (.text flags) options)
            let given := Plugin.aimed t (Assoc.merge options spelled)
            configureClass cls written = configureClass cls given ∧
              ∀ app name p, pluginFor name app = .ok p → p.cls = cls →
                (configure name written).run app = (configure name given).run app) := by
  intro flags spelled
  have hspelled : spelled = Assoc.merge [] (pairs.map fun p => (p.1, .bool p.2)) :=
    Settings.ofFlags_of_renders h
  have hget : ∀ name, Assoc.get? name spelled = (Assoc.last? name pairs).map Value.bool := by
    intro name
    rw [hspelled, Assoc.get?_merge_eq_last?, Assoc.last?_map]
    exact Option.or_none
  refine ⟨⟨?_, hget⟩, ?_⟩
  · have hkeys := Assoc.keys_merge_nil (pairs.map fun p => (p.1, Value.bool p.2))
    unfold Assoc.keys at hkeys
    rw [← hspelled, List.map_map] at hkeys
    exact hkeys
  · intro hnames cls acceptance hacceptance t options htarget hflags written given
    have hfree : ∀ name ∈ Plugin.reservedNames, Assoc.get? name spelled = none := by
      intro name hname
      rw [hget, Assoc.last?_eq_none fun p hp he => hnames p hp (he ▸ hname)]
      rfl
    have hclass : configureClass cls written = configureClass cls given := by
      unfold configureClass
      rw [Plugin.configureInTurn_flags hacceptance htarget hflags hfree t]
    refine ⟨hclass, ?_⟩
    rintro app name p hp rfl
    rw [run_configure hp, run_configure hp, hclass]

/-- What is written twice counts as it is written last, and in the place where it is written first. -/
theorem flags_encode_switches_logging :
    let flags : Text := " before : OFF ,,after:x:y,\tlog,log:oFf"
    let options : Settings := [("print", .bool true), ("before", .bool true)]
    let switched : Settings := [("print", .bool true), ("before", .bool false),
      ("after", .bool true), ("log", .bool false)]
    let spelled : Settings := [("before", .bool false), ("after", .bool true), ("log", .bool false)]
    Settings.ofFlags flags = spelled ∧
      configureClass PluginClass.logging
          (Plugin.aimed "a.b,c.*" (Assoc.set Plugin.flagsName (.text flags) options)) =
        configureClass PluginClass.logging (Plugin.aimed "a.b,c.*" switched) := by
  intro flags options switched spelled
  have hname : ∀ name ∈ ["before".toList, "after".toList, "log".toList],
      Settings.IsFlagName name := by
    intro name hname
    refine ⟨?_, ?_⟩ <;> revert name <;> decide
  have hbefore : Settings.Padded "before" " before " :=
    ⟨[' '], [' '], by decide, by decide, by decide⟩
  have hoff : Settings.Padded "OFF" " OFF " := ⟨[' '], [' '], by decide, by decide, by decide⟩
  have hlog : Settings.Padded "log" "\tlog" := ⟨['\t'], [], by decide, by decide, by decide⟩
  obtain ⟨pieces, hrenders, htext⟩ : ∃ pieces,
      Settings.Renders [("before", false), ("after", true), ("log", true), ("log", false)] pieces ∧
        Text.joinWith "," pieces = flags := by
    refine ⟨[" before ".toList ++ ':' :: " OFF ".toList, [], "after".toList ++ ':' :: "x:y".toList,
      "\tlog".toList, "log".toList ++ ':' :: "oFf".toList], ?_, by decide⟩
    refine .flag (hname _ (by decide)) (.off hbefore (by decide) hoff) (.blank (by decide) ?_)
    refine .flag (hname _ (by decide)) (.on (Settings.padded_self _) (by decide) (by decide)) ?_
    refine .flag (hname _ (by decide)) (.bare hlog) (.flag (hname _ (by decide)) ?_ .nil)
    exact .off (Settings.padded_self _) (by decide) (Settings.padded_self _)
  have hspelled : Settings.ofFlags flags = spelled := by decide +kernel
  have hswitched : Assoc.merge options spelled = switched := by decide
  obtain ⟨-, hconfigure⟩ := flags_encode_switches hrenders
  have hsame := (hconfigure (by decide) PluginClass.logging _ rfl "a.b,c.*" options (by decide)
    (by decide)).1
  rw [htext, hspelled, hswitched] at hsame
  exact ⟨hspelled, hsame⟩

end Application

end Routing
