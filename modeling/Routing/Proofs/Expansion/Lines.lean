import Routing.Proofs.Expansion.Targets
import Routing.Proofs.Step.Ends

/-!
# What lines expand to

`Expander.Expands` says which entries the fields of a line give, `Expander.Refuses` with which fault
they are refused, and both what becomes of the loaded controllers.  Every line does one of the two
(`expands_or_refuses`), and `Expander.expand` does the same (`Expands.ends`, `Refuses.ends`).  A
controller is loaded for a wildcard and for nothing else (`Expands.mem_keys_iff`,
`Refuses.mem_keys_iff`), and no other controller is looked at (`Expands.congr`, `Refuses.congr`).
-/

namespace Routing

/-! ### Loading -/

namespace ControllerCache

/-- A controller is there already, or its file is found and carried out. -/
inductive Loads (t : FileTree) (name : Text) :
    ControllerCache → Module → ControllerCache → Prop where
  | kept {cache : ControllerCache} {m : Module} :
      Assoc.get? name cache.loaded = some m → Loads t name cache m cache
  | carriedOut {cache : ControllerCache} {p : Path} {m : Module} :
      Assoc.get? name cache.loaded = none → execute t cache.base cache.count name = .ok (p, m) →
      Loads t name cache m
        { cache with loaded := cache.loaded ++ [(name, m)], count := cache.count + 1 }

/-- A controller is not there, and looking for its file or carrying it out fails. -/
def FailsToLoad (t : FileTree) (name : Text) (cache : ControllerCache) (fault : Fault) : Prop :=
  Assoc.get? name cache.loaded = none ∧ execute t cache.base cache.count name = .error fault

variable {t : FileTree} {name : Text} {cache cache' : ControllerCache} {m : Module} {fault : Fault}

theorem loads_or_failsToLoad (t : FileTree) (name : Text) (cache : ControllerCache) :
    (∃ m cache', Loads t name cache m cache') ∨ ∃ fault, FailsToLoad t name cache fault := by
  cases hl : Assoc.get? name cache.loaded with
  | some m => exact .inl ⟨m, cache, .kept hl⟩
  | none =>
    cases he : execute t cache.base cache.count name with
    | error fault => exact .inr ⟨fault, hl, he⟩
    | ok r => exact .inl ⟨r.2, _, .carriedOut hl he⟩

theorem Loads.not_failsToLoad (h : Loads t name cache m cache') :
    ¬ FailsToLoad t name cache fault := by
  rintro ⟨hl, he⟩
  cases h with
  | kept h => exact nomatch hl.symm.trans h
  | carriedOut _ h => exact nomatch he.symm.trans h

theorem Loads.ends (h : Loads t name cache m cache') :
    Step.Ends (fetch t name) cache cache' (.ok m) := by
  unfold fetch
  refine Step.Ends.read_bind ?_
  cases h with
  | kept hl =>
    rw [hl]
    exact Step.ends_pure m cache
  | carriedOut hl he =>
    rw [hl, he]
    refine (Step.ends_ofExcept _ cache).bind ((Step.ends_log _ _ cache).bind ?_)
    refine (Step.ends_modify _ cache).bind ?_
    rw [Assoc.set_of_get?_eq_none hl]
    exact Step.ends_pure m _

theorem FailsToLoad.ends (h : FailsToLoad t name cache fault) :
    Step.Ends (fetch t name) cache cache (.error fault) := by
  obtain ⟨hl, he⟩ := h
  unfold fetch
  refine Step.Ends.read_bind ?_
  rw [hl, he]
  exact (Step.ends_ofExcept _ cache).bind_of_fault _

theorem Loads.base_eq (h : Loads t name cache m cache') : cache'.base = cache.base := by
  cases h <;> rfl

theorem Loads.mem_keys_iff (h : Loads t name cache m cache') (other : Text) :
    other ∈ Assoc.keys cache'.loaded ↔ other ∈ Assoc.keys cache.loaded ∨ other = name := by
  cases h with
  | kept hl =>
    have hm : name ∈ Assoc.keys cache.loaded := by
      apply Classical.byContradiction
      intro hn
      exact nomatch hl.symm.trans (Assoc.get?_eq_none_iff.2 hn)
    constructor
    · exact .inl
    · rintro (ho | rfl)
      · exact ho
      · exact hm
  | carriedOut => simp [Assoc.keys]

/-- A controller is carried out alike in two trees. -/
def SameLoading (t t' : FileTree) (base : Path) (name : Text) : Prop :=
  ∀ count, execute t' base count name = execute t base count name

variable {t' : FileTree}

theorem Loads.congr (h : Loads t name cache m cache') (hs : SameLoading t t' cache.base name) :
    Loads t' name cache m cache' := by
  cases h with
  | kept hl => exact .kept hl
  | carriedOut hl he => exact .carriedOut hl ((hs _).trans he)

theorem FailsToLoad.congr (h : FailsToLoad t name cache fault)
    (hs : SameLoading t t' cache.base name) : FailsToLoad t' name cache fault :=
  ⟨h.1, (hs _).trans h.2⟩

end ControllerCache

/-! ### Lines -/

namespace Expander

/-- A target is the wildcard of a controller. -/
def IsWildcardOf (x : Expander) (target controller : Text) : Prop :=
  x.marks.folderMark.IsAbsent target ∧ IsDotted target controller x.marks.wildcard

/-- A target is a method of a controller. -/
def IsMethodOf (x : Expander) (target controller method : Text) : Prop :=
  x.marks.folderMark.IsAbsent target ∧ IsDotted target controller method ∧
    method ≠ x.marks.wildcard

/-- A target is no folder, and no controller with a method either. -/
def IsNothing (x : Expander) (target : Text) : Prop :=
  x.marks.folderMark.IsAbsent target ∧ ∀ controller method, ¬ IsDotted target controller method

/-- The endpoints of a wildcard, one for each name. -/
def endpoints (x : Expander) (v : Verb) (path controller : Text) (names : List Text) : List Entry :=
  names.map fun name => .endpoint ⟨v, Text.replaceAll x.marks.wildcard name path, controller, name⟩

/-- The entries that the fields of a line give, and the controllers that are loaded then. -/
inductive Expands (x : Expander) (t : FileTree) (verb path target : Text) :
    ControllerCache → List Entry → ControllerCache → Prop where
  | folder {v : Verb} {cache : ControllerCache} :
      x.marks.folderMark.IsAtStart target → Verb.ofWord? verb = some v →
      Expands x t verb path target cache
        [.folder ⟨v, path, x.directory (target.drop x.marks.folderMark.width)⟩] cache
  | endpoint {controller method : Text} {v : Verb} {cache : ControllerCache} :
      x.IsMethodOf target controller method → Verb.ofWord? verb = some v →
      Expands x t verb path target cache [.endpoint ⟨v, path, controller, method⟩] cache
  | wildcard {controller : Text} {v : Verb} {m : Module} {names : List Text}
      {cache cache' : ControllerCache} :
      x.IsWildcardOf target controller → cache.Loads t controller m cache' →
      m.exports = .ok names → Verb.ofWord? verb = some v →
      Expands x t verb path target cache (x.endpoints v path controller names) cache'
  /-- No verb is asked for if nothing is exported. -/
  | nothing {controller : Text} {m : Module} {cache cache' : ControllerCache} :
      x.IsWildcardOf target controller → cache.Loads t controller m cache' → m.exports = .ok [] →
      Expands x t verb path target cache [] cache'

/-- The fault with which the fields of a line are refused, and the controllers that are loaded
then. -/
inductive Refuses (x : Expander) (t : FileTree) (verb path target : Text) :
    ControllerCache → Fault → ControllerCache → Prop where
  | mark {cache : ControllerCache} :
      x.marks.folderMark.IsUnusable target →
      Refuses x t verb path target cache .optionNotText cache
  | target {cache : ControllerCache} :
      x.IsNothing target →
      Refuses x t verb path target cache
        (.malformedLine (Text.joinWith " " [verb, path, target])
          "target must be '<controller>.<method>'" none) cache
  | folderVerb {cache : ControllerCache} :
      x.marks.folderMark.IsAtStart target → Verb.ofWord? verb = none →
      Refuses x t verb path target cache (.unknownVerb verb path) cache
  | endpointVerb {controller method : Text} {cache : ControllerCache} :
      x.IsMethodOf target controller method → Verb.ofWord? verb = none →
      Refuses x t verb path target cache (.unknownVerb verb path) cache
  | loading {controller : Text} {fault : Fault} {cache : ControllerCache} :
      x.IsWildcardOf target controller → cache.FailsToLoad t controller fault →
      Refuses x t verb path target cache fault cache
  | exports {controller : Text} {m : Module} {fault : Fault} {cache cache' : ControllerCache} :
      x.IsWildcardOf target controller → cache.Loads t controller m cache' →
      m.exports = .error fault → Refuses x t verb path target cache fault cache'
  | wildcardVerb {controller name : Text} {m : Module} {names : List Text}
      {cache cache' : ControllerCache} :
      x.IsWildcardOf target controller → cache.Loads t controller m cache' →
      m.exports = .ok (name :: names) → Verb.ofWord? verb = none →
      Refuses x t verb path target cache
        (.unknownVerb verb (Text.replaceAll x.marks.wildcard name path)) cache'

variable {x : Expander} {t : FileTree} {verb path target controller method : Text}
  {cache cache' : ControllerCache} {es : List Entry} {fault : Fault} {v : Verb}

/-! #### What a target is -/

theorem ofText?_of_isWildcardOf (h : x.IsWildcardOf target controller) :
    Target.ofText? x.marks target = .ok (some (.wildcard controller)) := by
  rw [Target.ofText?_of_isAbsent h.1, Target.ofDotted?_of_isDotted h.2, if_pos rfl]

theorem ofText?_of_isMethodOf (h : x.IsMethodOf target controller method) :
    Target.ofText? x.marks target = .ok (some (.endpoint controller method)) := by
  rw [Target.ofText?_of_isAbsent h.1, Target.ofDotted?_of_isDotted h.2.1, if_neg h.2.2]

theorem ofText?_of_isNothing (h : x.IsNothing target) :
    Target.ofText? x.marks target = .ok none := by
  rw [Target.ofText?_of_isAbsent h.1, Target.ofDotted?_of_not_isDotted h.2]

/-- A target is one thing. -/
theorem target_cases (x : Expander) (target : Text) :
    x.marks.folderMark.IsUnusable target ∨ x.marks.folderMark.IsAtStart target ∨
      x.IsNothing target ∨ (∃ controller method, x.IsMethodOf target controller method) ∨
        ∃ controller, x.IsWildcardOf target controller := by
  rcases x.marks.folderMark.isAtStart_or_isAbsent_or_isUnusable target with h | ha | h
  · exact .inr (.inl h)
  · by_cases hd : ∃ controller method, IsDotted target controller method
    · obtain ⟨controller, method, hd⟩ := hd
      by_cases hw : method = x.marks.wildcard
      · exact .inr (.inr (.inr (.inr ⟨controller, ha, hw ▸ hd⟩)))
      · exact .inr (.inr (.inr (.inl ⟨controller, method, ha, hd, hw⟩)))
    · exact .inr (.inr (.inl ⟨ha, fun c m hm => hd ⟨c, m, hm⟩⟩))
  · exact .inl h

theorem IsWildcardOf.unique {other : Text} (h : x.IsWildcardOf target controller)
    (ho : x.IsWildcardOf target other) : other = controller := by
  have he := (ofText?_of_isWildcardOf ho).symm.trans (ofText?_of_isWildcardOf h)
  simpa using he

/-! #### What is made of a verb -/

theorem ofCallable_of_verb (hv : Verb.ofWord? verb = some v) (path controller method : Text) :
    Entry.ofCallable verb path controller method =
      .ok (.endpoint ⟨v, path, controller, method⟩) := by
  unfold Entry.ofCallable Verb.ofRoute
  rw [hv]
  rfl

theorem ofCallable_of_no_verb (hv : Verb.ofWord? verb = none) (path controller method : Text) :
    Entry.ofCallable verb path controller method = .error (.unknownVerb verb path) := by
  unfold Entry.ofCallable Verb.ofRoute
  rw [hv]
  rfl

theorem ofDirectory_of_verb (hv : Verb.ofWord? verb = some v) (path directory : Text) :
    Entry.ofDirectory verb path directory = .ok (.folder ⟨v, path, directory⟩) := by
  unfold Entry.ofDirectory Verb.ofRoute
  rw [hv]
  rfl

theorem ofDirectory_of_no_verb (hv : Verb.ofWord? verb = none) (path directory : Text) :
    Entry.ofDirectory verb path directory = .error (.unknownVerb verb path) := by
  unfold Entry.ofDirectory Verb.ofRoute
  rw [hv]
  rfl

theorem wildcardEntries_of_verb (hv : Verb.ofWord? verb = some v) (path controller : Text)
    (names : List Text) :
    x.wildcardEntries ⟨verb, path, controller⟩ names =
      .ok (x.endpoints v path controller names) := by
  unfold wildcardEntries endpoints
  induction names with
  | nil => rfl
  | cons name names ih =>
    rw [List.mapM_cons, ih, ofCallable_of_verb hv]
    rfl

theorem wildcardEntries_of_no_verb (hv : Verb.ofWord? verb = none) (path controller name : Text)
    (names : List Text) :
    x.wildcardEntries ⟨verb, path, controller⟩ (name :: names) =
      .error (.unknownVerb verb (Text.replaceAll x.marks.wildcard name path)) := by
  unfold wildcardEntries
  rw [List.mapM_cons, ofCallable_of_no_verb hv]
  rfl

/-! #### What expanding does -/

theorem ends_expandWildcard {m : Module} {names : List Text}
    (hl : cache.Loads t controller m cache') (hm : m.exports = .ok names)
    (he : x.wildcardEntries ⟨verb, path, controller⟩ names = .ok es) :
    Step.Ends (x.expandWildcard t ⟨verb, path, controller⟩) cache cache' (.ok es) := by
  unfold expandWildcard
  refine hl.ends.bind ?_
  rw [hm]
  refine (Step.ends_ofExcept _ cache').bind ?_
  rw [he]
  refine (Step.ends_ofExcept _ cache').bind ?_
  exact (Step.ends_log _ _ cache').bind (Step.ends_pure es cache')

theorem Expands.ends (h : x.Expands t verb path target cache es cache') :
    Step.Ends (x.expand t verb path target) cache cache' (.ok es) := by
  unfold expand
  cases h with
  | folder hm hv =>
    rw [Target.ofText?_of_isAtStart hm]
    refine (Step.ends_ofExcept _ _).bind ?_
    dsimp only
    rw [ofDirectory_of_verb hv]
    exact (Step.ends_ofExcept _ _).bind (Step.ends_pure _ _)
  | endpoint hm hv =>
    rw [ofText?_of_isMethodOf hm]
    refine (Step.ends_ofExcept _ _).bind ?_
    dsimp only
    rw [ofCallable_of_verb hv]
    exact (Step.ends_ofExcept _ _).bind (Step.ends_pure _ _)
  | wildcard hw hl hm hv =>
    rw [ofText?_of_isWildcardOf hw]
    exact (Step.ends_ofExcept _ _).bind
      (ends_expandWildcard hl hm (wildcardEntries_of_verb hv path _ _))
  | nothing hw hl hm =>
    rw [ofText?_of_isWildcardOf hw]
    exact (Step.ends_ofExcept _ _).bind (ends_expandWildcard hl hm rfl)

theorem Refuses.ends (h : x.Refuses t verb path target cache fault cache') :
    Step.Ends (x.expand t verb path target) cache cache' (.error fault) := by
  unfold expand
  cases h with
  | mark hm =>
    rw [Target.ofText?_of_isUnusable hm]
    exact (Step.ends_ofExcept _ _).bind_of_fault _
  | target hm =>
    rw [ofText?_of_isNothing hm]
    exact (Step.ends_ofExcept _ _).bind (Step.ends_fail _ _)
  | folderVerb hm hv =>
    rw [Target.ofText?_of_isAtStart hm]
    refine (Step.ends_ofExcept _ _).bind ?_
    dsimp only
    rw [ofDirectory_of_no_verb hv]
    exact (Step.ends_ofExcept _ _).bind_of_fault _
  | endpointVerb hm hv =>
    rw [ofText?_of_isMethodOf hm]
    refine (Step.ends_ofExcept _ _).bind ?_
    dsimp only
    rw [ofCallable_of_no_verb hv]
    exact (Step.ends_ofExcept _ _).bind_of_fault _
  | loading hw hl =>
    rw [ofText?_of_isWildcardOf hw]
    exact (Step.ends_ofExcept _ _).bind (hl.ends.bind_of_fault _)
  | exports hw hl hm =>
    rw [ofText?_of_isWildcardOf hw]
    refine (Step.ends_ofExcept _ _).bind (hl.ends.bind ?_)
    rw [hm]
    exact (Step.ends_ofExcept _ _).bind_of_fault _
  | wildcardVerb hw hl hm hv =>
    rw [ofText?_of_isWildcardOf hw]
    refine (Step.ends_ofExcept _ _).bind (hl.ends.bind ?_)
    rw [hm]
    refine (Step.ends_ofExcept _ _).bind ?_
    rw [wildcardEntries_of_no_verb hv]
    exact (Step.ends_ofExcept _ _).bind_of_fault _

/-- Every line gives entries or is refused. -/
theorem expands_or_refuses (x : Expander) (t : FileTree) (verb path target : Text)
    (cache : ControllerCache) :
    (∃ es cache', x.Expands t verb path target cache es cache') ∨
      ∃ fault cache', x.Refuses t verb path target cache fault cache' := by
  rcases x.target_cases target with hm | hm | hm | ⟨controller, method, hm⟩ | ⟨controller, hw⟩
  · exact .inr ⟨_, _, .mark hm⟩
  · cases hv : Verb.ofWord? verb with
    | none => exact .inr ⟨_, _, .folderVerb hm hv⟩
    | some v => exact .inl ⟨_, _, .folder hm hv⟩
  · exact .inr ⟨_, _, .target hm⟩
  · cases hv : Verb.ofWord? verb with
    | none => exact .inr ⟨_, _, .endpointVerb hm hv⟩
    | some v => exact .inl ⟨_, _, .endpoint hm hv⟩
  · rcases ControllerCache.loads_or_failsToLoad t controller cache with ⟨m, cache', hl⟩ |
      ⟨fault, hl⟩
    · cases hm : m.exports with
      | error fault => exact .inr ⟨_, _, .exports hw hl hm⟩
      | ok names =>
        cases hv : Verb.ofWord? verb with
        | some v => exact .inl ⟨_, _, .wildcard hw hl hm hv⟩
        | none =>
          cases names with
          | nil => exact .inl ⟨_, _, .nothing hw hl hm⟩
          | cons name names => exact .inr ⟨_, _, .wildcardVerb hw hl hm hv⟩
    · exact .inr ⟨_, _, .loading hw hl⟩

/-! #### What is loaded -/

theorem not_isWildcardOf_of_isAtStart (h : x.marks.folderMark.IsAtStart target) (name : Text) :
    ¬ x.IsWildcardOf target name := by
  intro hw
  exact nomatch (Target.ofText?_of_isAtStart h).symm.trans (ofText?_of_isWildcardOf hw)

theorem not_isWildcardOf_of_isMethodOf (h : x.IsMethodOf target controller method) (name : Text) :
    ¬ x.IsWildcardOf target name := by
  intro hw
  exact nomatch (ofText?_of_isMethodOf h).symm.trans (ofText?_of_isWildcardOf hw)

/-- A line that gives entries loads the controller of which its target is the wildcard. -/
theorem Expands.mem_keys_iff (h : x.Expands t verb path target cache es cache') (name : Text) :
    name ∈ Assoc.keys cache'.loaded ↔
      name ∈ Assoc.keys cache.loaded ∨ x.IsWildcardOf target name := by
  have key {controller : Text} {m : Module} {cache cache' : ControllerCache}
      (hw : x.IsWildcardOf target controller) (hl : cache.Loads t controller m cache') :
      name ∈ Assoc.keys cache'.loaded ↔
        name ∈ Assoc.keys cache.loaded ∨ x.IsWildcardOf target name := by
    rw [hl.mem_keys_iff]
    exact or_congr_right ⟨fun hn => hn ▸ hw, fun hn => hw.unique hn⟩
  cases h with
  | folder hm => exact (or_iff_left (not_isWildcardOf_of_isAtStart hm name)).symm
  | endpoint hm => exact (or_iff_left (not_isWildcardOf_of_isMethodOf hm name)).symm
  | wildcard hw hl => exact key hw hl
  | nothing hw hl => exact key hw hl

/-- A line that is refused loads the controller of which its target is the wildcard, unless it is
the loading that fails. -/
theorem Refuses.mem_keys_iff (h : x.Refuses t verb path target cache fault cache') (name : Text) :
    name ∈ Assoc.keys cache'.loaded ↔ name ∈ Assoc.keys cache.loaded ∨
      x.IsWildcardOf target name ∧ ∃ m cache'', cache.Loads t name m cache'' := by
  have none (hn : ¬ x.IsWildcardOf target name) : name ∈ Assoc.keys cache.loaded ↔
      name ∈ Assoc.keys cache.loaded ∨
        x.IsWildcardOf target name ∧ ∃ m cache'', cache.Loads t name m cache'' :=
    (or_iff_left fun hw => hn hw.1).symm
  have one {controller : Text} {m : Module} {cache' : ControllerCache}
      (hw : x.IsWildcardOf target controller) (hl : cache.Loads t controller m cache') :
      name ∈ Assoc.keys cache'.loaded ↔ name ∈ Assoc.keys cache.loaded ∨
        x.IsWildcardOf target name ∧ ∃ m cache'', cache.Loads t name m cache'' := by
    rw [hl.mem_keys_iff]
    refine or_congr_right ⟨?_, fun hn => hw.unique hn.1⟩
    rintro rfl
    exact ⟨hw, m, cache', hl⟩
  cases h with
  | mark hm =>
    exact none fun hw =>
      nomatch (Target.ofText?_of_isUnusable hm).symm.trans (ofText?_of_isWildcardOf hw)
  | target hm =>
    exact none fun hw => nomatch (ofText?_of_isNothing hm).symm.trans (ofText?_of_isWildcardOf hw)
  | folderVerb hm => exact none (not_isWildcardOf_of_isAtStart hm name)
  | endpointVerb hm => exact none (not_isWildcardOf_of_isMethodOf hm name)
  | loading hw hl =>
    refine (or_iff_left ?_).symm
    rintro ⟨hn, m, cache'', hl'⟩
    obtain rfl := hw.unique hn
    exact hl'.not_failsToLoad hl
  | exports hw hl => exact one hw hl
  | wildcardVerb hw hl => exact one hw hl

/-! #### What is looked at -/

variable {t' : FileTree}

theorem Expands.base_eq (h : x.Expands t verb path target cache es cache') :
    cache'.base = cache.base := by
  cases h with
  | folder => rfl
  | endpoint => rfl
  | wildcard _ hl => exact hl.base_eq
  | nothing _ hl => exact hl.base_eq

/-- No controller matters but the one of which the target is the wildcard. -/
theorem Expands.congr (h : x.Expands t verb path target cache es cache')
    (hs : ∀ name, x.IsWildcardOf target name →
      ControllerCache.SameLoading t t' cache.base name) :
    x.Expands t' verb path target cache es cache' := by
  cases h with
  | folder hm hv => exact .folder hm hv
  | endpoint hm hv => exact .endpoint hm hv
  | wildcard hw hl hm hv => exact .wildcard hw (hl.congr (hs _ hw)) hm hv
  | nothing hw hl hm => exact .nothing hw (hl.congr (hs _ hw)) hm

theorem Refuses.congr (h : x.Refuses t verb path target cache fault cache')
    (hs : ∀ name, x.IsWildcardOf target name →
      ControllerCache.SameLoading t t' cache.base name) :
    x.Refuses t' verb path target cache fault cache' := by
  cases h with
  | mark hm => exact .mark hm
  | target hm => exact .target hm
  | folderVerb hm hv => exact .folderVerb hm hv
  | endpointVerb hm hv => exact .endpointVerb hm hv
  | loading hw hl => exact .loading hw (hl.congr (hs _ hw))
  | exports hw hl hm => exact .exports hw (hl.congr (hs _ hw)) hm
  | wildcardVerb hw hl hm hv => exact .wildcardVerb hw (hl.congr (hs _ hw)) hm hv

end Expander

end Routing
