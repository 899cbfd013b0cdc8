import Routing.Application
import Routing.Proofs.Assoc
import Routing.Proofs.Step.Within

/-!
# Making a router

The options of a router are given in two rounds.  What the second one gives goes before what the
first one gives, and where the last word is nothing, or there is none, the default stands
(`Options.last_word_stands`).  Only the names of options may be given
(`Options.exists_ofRounds_iff`), and a router's options can be given to another one, wherever that
is made (`Options.ofRounds_toSettings`).  A router that has been made has nothing loaded, built,
attached or stored, and it is made whenever its options are and two of them are texts
(`Router.create_eq_ok_iff`).
-/

namespace Routing

namespace Options

variable {home name : Text} {options : Option Value} {overrides first given : Settings}
  {fields : Fields} {o : Options} {d v : Value}

/-- The names of the options. -/
def names : List Text := Assoc.keys (default []).toSettings

theorem orDefault_ne_null (hd : d ≠ .null) (given : Option Value) : orDefault given d ≠ .null := by
  unfold orDefault
  split
  · exact hd
  · exact hd
  · rename_i h
    exact h

theorem orDefault_some (hv : v ≠ .null) : orDefault (some v) d = v := by
  unfold orDefault
  split
  · rename_i h
    exact nomatch h
  · rename_i h
    exact absurd (Option.some.inj h) hv
  · rename_i h
    exact (Option.some.inj h).symm

theorem keys_toSettings (o : Options) : o.toSettings.keys = names := rfl

theorem nodup_keys_toSettings (o : Options) : o.toSettings.keys.Nodup := by
  rw [keys_toSettings]
  decide

theorem name_mem_names (hm : (name, v) ∈ o.toSettings) : name ∈ names := by
  rw [← keys_toSettings o]
  exact List.mem_map.2 ⟨_, hm, rfl⟩

theorem exists_of_mem_names (o : Options) (hn : name ∈ names) : ∃ v, (name, v) ∈ o.toSettings := by
  rw [← keys_toSettings o] at hn
  obtain ⟨⟨_, v⟩, hv, rfl⟩ := List.mem_map.1 hn
  exact ⟨v, hv⟩

/-! ### One table of settings -/

/-- Every option is what is given for it, or the default. -/
theorem get?_ofSettings (hm : (name, d) ∈ (default home).toSettings) :
    Assoc.get? name (ofSettings home given).toSettings =
      some (orDefault (Assoc.get? name given) d) := by
  simp only [toSettings, List.mem_cons, List.not_mem_nil, or_false, Prod.mk.injEq] at hm
  rcases hm with ⟨rfl, rfl⟩ | ⟨rfl, rfl⟩ | ⟨rfl, rfl⟩ | ⟨rfl, rfl⟩ | ⟨rfl, rfl⟩ | ⟨rfl, rfl⟩ |
    ⟨rfl, rfl⟩ <;> rfl

theorem ne_null_of_mem_default (hm : (name, d) ∈ (default home).toSettings) : d ≠ .null := by
  simp only [toSettings, List.mem_cons, List.not_mem_nil, or_false, Prod.mk.injEq] at hm
  rcases hm with ⟨-, rfl⟩ | ⟨-, rfl⟩ | ⟨-, rfl⟩ | ⟨-, rfl⟩ | ⟨-, rfl⟩ | ⟨-, rfl⟩ | ⟨-, rfl⟩ <;>
    exact nofun

/-- An option is never nothing. -/
theorem ne_null_of_mem_ofSettings (hm : (name, v) ∈ (ofSettings home given).toSettings) :
    v ≠ .null := by
  obtain ⟨d, hd⟩ := exists_of_mem_names (default home) (name_mem_names hm)
  have hv := Assoc.get?_of_mem (nodup_keys_toSettings _) hm
  obtain rfl := Option.some.inj (hv.symm.trans (get?_ofSettings hd))
  exact orDefault_ne_null (ne_null_of_mem_default hd) _

/-- Options that are all something are what their own table makes. -/
theorem ofSettings_toSettings (h : ∀ p ∈ o.toSettings, p.2 ≠ .null) (home : Text) :
    ofSettings home o.toSettings = o := by
  have hchosen {name : Text} {v : Value} (hm : (name, v) ∈ o.toSettings) (d : Value) :
      chosen o.toSettings name d = v := by
    unfold chosen
    rw [Assoc.get?_of_mem (nodup_keys_toSettings o) hm]
    exact orDefault_some (h _ hm)
  obtain ⟨controllersPath, rootPath, routesFile, templateVar, strictValues, staticPrefix,
    wildcard⟩ := o
  unfold ofSettings
  simp only [Options.mk.injEq]
  refine ⟨hchosen ?_ _, hchosen ?_ _, hchosen ?_ _, hchosen ?_ _, hchosen ?_ _, hchosen ?_ _,
    hchosen ?_ _⟩ <;> simp [toSettings]

theorem unknownNames_eq_nil_iff :
    unknownNames home given = [] ↔ ∀ name ∈ given.keys, name ∈ names := by
  unfold unknownNames
  rw [← List.length_eq_zero_iff, List.length_mergeSort, List.length_eq_zero_iff,
    List.filter_eq_nil_iff]
  refine forall₂_congr fun name _ => ?_
  rw [keys_toSettings, Bool.not_eq_true, Bool.not_eq_false', List.contains_iff_mem]

/-! ### Two rounds -/

/-- The settings that the first round gives; there are none if one of its keys is no text. -/
def firstSettings (options : Option Value) (overrides : Settings) :
    Except Fault (Option Settings) := do
  return settingsOf? (← fieldsOf (← firstRound options overrides))

/-- The second round without the first one. -/
abbrev secondSettings (overrides : Settings) : Settings := Assoc.erase firstRoundName overrides

/-- Setting a field whose key is a text is setting that in a table. -/
theorem settingsOf?_set (name : Text) (v : Value) (fields : Fields) :
    settingsOf? (Fields.set (.text name) v fields) =
      (settingsOf? fields).map (Assoc.set name v) := by
  unfold settingsOf?
  induction fields with
  | nil => rfl
  | cons p fields ih =>
    obtain ⟨k, w⟩ := p
    unfold Fields.set
    by_cases hk : k = .text name
    · subst hk
      rw [Value.sameKey_text, if_pos (decide_eq_true rfl), List.mapM_cons, List.mapM_cons]
      cases fields.mapM fun p => p.1.text?.map fun name => (name, p.2) with
      | none => rfl
      | some rest => simp [Value.text?, Assoc.set]
    · rw [Value.sameKey_text, if_neg (by simpa using hk), List.mapM_cons, List.mapM_cons, ih]
      cases hn : k.text? with
      | none => rfl
      | some word =>
        obtain rfl := Value.text?_eq_some_iff.1 hn
        have hword : word ≠ name := fun h => hk (congrArg Value.text h)
        cases fields.mapM fun p => p.1.text?.map fun name => (name, p.2) with
        | none => rfl
        | some rest => simp [Assoc.set, hword]

theorem settingsOf?_foldl (overrides : Settings) (fields : Fields) :
    settingsOf? (overrides.foldl (fun fields p => Fields.set (.text p.1) p.2 fields) fields) =
      (settingsOf? fields).map fun first => Assoc.merge first overrides := by
  induction overrides generalizing fields with
  | nil => cases h : settingsOf? fields <;> rw [List.foldl_nil, h] <;> rfl
  | cons p overrides ih =>
    rw [List.foldl_cons, ih, settingsOf?_set, Option.map_map]
    rfl

/-- The options are those of the two rounds put together, the second over the first. -/
theorem ofRounds_eq_ok_iff : ofRounds home options overrides = .ok o ↔
    ∃ first, firstSettings options overrides = .ok (some first) ∧
      unknownNames home (Assoc.merge first (secondSettings overrides)) = [] ∧
        o = ofSettings home (Assoc.merge first (secondSettings overrides)) := by
  unfold ofRounds givenFields firstSettings
  cases firstRound options overrides with
  | error fault => simp [bind, Except.bind]
  | ok v =>
    cases hf : fieldsOf v with
    | error fault => simp [bind, Except.bind, hf]
    | ok fields =>
      simp only [bind, Except.bind, hf, pure, Except.pure, settingsOf?_foldl]
      cases settingsOf? fields with
      | none => simp [throw, throwThe, MonadExceptOf.throw]
      | some first =>
        simp only [Option.map_some, Except.ok.injEq, Option.some.injEq, exists_eq_left']
        cases unknownNames home (Assoc.merge first (secondSettings overrides)) with
        | nil => simp [eq_comm]
        | cons name rest => simp [throw, throwThe, MonadExceptOf.throw]

/-- What the second round gives for an option goes before what the first one gives, and nothing is as
good as not given. -/
theorem last_word_stands (hd : overrides.keys.Nodup)
    (h : ofRounds home options overrides = .ok o) :
    ∃ first, firstSettings options overrides = .ok (some first) ∧
      ∀ name d, (name, d) ∈ (default home).toSettings → Assoc.get? name o.toSettings =
        some (orDefault ((Assoc.get? name overrides).or (Assoc.get? name first)) d) := by
  obtain ⟨first, hf, -, rfl⟩ := ofRounds_eq_ok_iff.1 h
  refine ⟨first, hf, fun name d hm => ?_⟩
  have hname : name ≠ firstRoundName := by
    rintro rfl
    exact absurd (name_mem_names hm) (by decide)
  rw [get?_ofSettings hm, Assoc.get?_merge (Assoc.nodup_keys_erase hd _),
    Assoc.get?_erase_of_ne hname]

-- Nothing as the last word brings the default back, not what the first round gives.
example : (ofRounds "/srv" (some (.object .dictionary
    [(.text "wildcard", .text "*"), (.text "strict_values", .bool true)]))
      [("wildcard", .null)]).toOption =
    some { default "/srv" with strictValues := .bool true } := by decide +kernel

/-- There are options whenever the first round gives settings and neither round gives anything else
but options. -/
theorem exists_ofRounds_iff (hd : overrides.keys.Nodup) :
    (∃ o, ofRounds home options overrides = .ok o) ↔
      ∃ first, firstSettings options overrides = .ok (some first) ∧
        (∀ name ∈ first.keys, name ∈ names) ∧
          ∀ name ∈ overrides.keys, name ≠ firstRoundName → name ∈ names := by
  have hkeys (first : Settings) (name : Text) :
      name ∈ (Assoc.merge first (secondSettings overrides)).keys ↔
        name ∈ first.keys ∨ name ∈ overrides.keys ∧ name ≠ firstRoundName := by
    rw [Assoc.mem_keys_merge, Assoc.mem_keys_erase hd]
  simp only [ofRounds_eq_ok_iff, unknownNames_eq_nil_iff, hkeys]
  constructor
  · rintro ⟨_, first, hf, hall, -⟩
    exact ⟨first, hf, fun name hn => hall name (.inl hn),
      fun name hn hne => hall name (.inr ⟨hn, hne⟩)⟩
  · rintro ⟨first, hf, hone, htwo⟩
    exact ⟨_, first, hf, fun name hn => hn.elim (hone name) fun hn => htwo name hn.1 hn.2, rfl⟩

theorem asText_eq_ok_iff {s : Text} : asText v = .ok s ↔ v = .text s := by
  unfold asText
  constructor
  · intro h
    cases hv : v.text? with
    | none => rw [hv] at h; exact nomatch h
    | some t =>
      rw [hv] at h
      obtain rfl := Except.ok.inj h
      exact Value.text?_eq_some_iff.1 hv
  · rintro rfl
    rfl

/-- A router's options, given by themselves, are the options again, whatever the defaults are. -/
theorem ofRounds_toSettings (h : ofRounds home options overrides = .ok o) (other : Text) :
    ofRounds other none o.toSettings = .ok o := by
  obtain ⟨first, -, -, rfl⟩ := ofRounds_eq_ok_iff.1 h
  generalize Assoc.merge first (secondSettings overrides) = given
  have hmerge : Assoc.merge [] (secondSettings (ofSettings home given).toSettings) =
      (ofSettings home given).toSettings :=
    Assoc.merge_nil (nodup_keys_toSettings _)
  refine ofRounds_eq_ok_iff.2 ⟨[], rfl, ?_, ?_⟩
  · rw [hmerge, unknownNames_eq_nil_iff]
    exact fun _ hn => hn
  · rw [hmerge, ofSettings_toSettings fun p hp => ne_null_of_mem_ofSettings hp]

end Options

namespace Router

variable {home : Text} {pluggable : Bool} {options : Option Value} {overrides : Settings}
  {r : Router}

/-- A router is made whenever its options are, and its own path and that of its controllers are
texts.  Then nothing has been loaded, built, attached or stored. -/
theorem create_eq_ok_iff : create home pluggable options overrides = .ok r ↔
    ∃ o root base, Options.ofRounds home options overrides = .ok o ∧
      o.rootPath = .text root ∧ o.controllersPath = .text base ∧
        r = {
          options := o
          root := Path.ofText root
          controllers := .ofBase ((Path.ofText root).joinText base)
          table := none
          pluggable
          plugins := []
          store := [] } := by
  unfold create
  constructor
  · intro h
    obtain ⟨o, ho, h⟩ := exists_of_bind_eq_ok h
    obtain ⟨root, hroot, h⟩ := exists_of_bind_eq_ok h
    obtain ⟨base, hbase, h⟩ := exists_of_bind_eq_ok h
    exact ⟨o, root, base, ho, Options.asText_eq_ok_iff.1 hroot, Options.asText_eq_ok_iff.1 hbase,
      (Except.ok.inj h).symm⟩
  · rintro ⟨o, root, base, ho, hroot, hbase, rfl⟩
    rw [ho]
    simp only [bind, Except.bind, Options.asText_eq_ok_iff.2 hroot,
      Options.asText_eq_ok_iff.2 hbase]
    rfl

end Router

end Routing
