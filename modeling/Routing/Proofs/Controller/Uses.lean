import Routing.Proofs.Controller.Kinds
import Routing.Proofs.Expansion.Again

/-!
# Using the loaded controllers

A controller can be loaded, asked for a callable, or forgotten with all others, one use after the
other, and in between the files may change as they like.  A controller that is loaded stays what it
is until it is forgotten, but for its annotations, which are made when they are first asked for
(`Module.IsLater`, `ControllerCache.Retains`).  A loading that fails leaves nothing, so the next one
starts afresh.  Main statement: `loads_once_until_forgotten`.
-/

namespace Routing

/-! ### A controller as it is later -/

namespace Module

/-- A controller as it is later: it may have its annotations then, and all else is as it was. -/
def IsLater (m later : Module) : Prop :=
  later = m ∨ later = { m with names := m.asked annotationsName }

variable {m m' m'' : Module} {name : Text}

theorem isLater_refl (m : Module) : m.IsLater m := .inl rfl

theorem isLater_asked (m : Module) : m.IsLater { m with names := m.asked annotationsName } :=
  .inr rfl

theorem asked_annotationsName (m : Module) :
    m.asked annotationsName = Assoc.ensure annotationsName m.annotations m.names := if_pos rfl

/-- Annotations are made once. -/
theorem asked_asked (m : Module) :
    ({ m with names := m.asked annotationsName } : Module).asked annotationsName =
      m.asked annotationsName := by
  rw [asked_annotationsName, asked_annotationsName]
  exact Assoc.ensure_of_get?_eq_some (Assoc.get?_ensure_self _) _

theorem IsLater.trans (h : m.IsLater m') (h' : m'.IsLater m'') : m.IsLater m'' := by
  rcases h with rfl | rfl
  · exact h'
  · rcases h' with rfl | rfl
    · exact .inr rfl
    · rw [asked_asked]
      exact .inr rfl

theorem IsLater.loading_eq (h : m.IsLater m') : m'.loading = m.loading := by
  rcases h with rfl | rfl <;> rfl

theorem object?_annotationsName (m : Module) : m.object? annotationsName =
    .ok (some ((Assoc.get? annotationsName m.names).getD m.annotations)) := by
  unfold object?
  rw [if_neg (by decide), if_neg (by decide)]
  cases Assoc.get? annotationsName m.names with
  | some object => rfl
  | none => exact if_pos rfl

/-- The callable under a name of a controller that is known under a name of its own. -/
def found (m : Module) (name method : Text) : Except Fault Object :=
  match m.callable? method with
  | .ok (some object) => .ok object
  | .ok none => .error (.missingMethod name method)
  | .error fault => .error fault

/-- A name stands for nothing in a controller, or for what cannot be called. -/
def Lacks (m : Module) (method : Text) : Prop :=
  m.object? method = .ok none ∨ ∃ object, m.object? method = .ok (some object) ∧
    (object.thing = .constant .null ∨ object.thing.isCallable = false)

theorem callable?_eq_ok_none_iff {method : Text} :
    m.callable? method = .ok none ↔ m.Lacks method := by
  unfold callable? Lacks
  rcases m.object? method with fault | _ | object
  · simp [bind, Except.bind]
  · simp [bind, Except.bind, pure, Except.pure]
  · have hnull : object.thing = .constant .null → object.thing.isCallable = false := by
      intro h
      rw [h]
      rfl
    simp only [bind, Except.bind, pure, Except.pure, Option.filter, Except.ok.injEq,
      Option.some.injEq, reduceCtorEq, false_or, exists_eq_left']
    split
    · rename_i hc
      simp [hc, mt hnull]
    · rename_i hc
      simp [hc]

theorem found_eq_missingMethod_iff {controller method word : Text} :
    m.found name method = .error (.missingMethod controller word) ↔
      controller = name ∧ word = method ∧ m.Lacks method := by
  rw [← callable?_eq_ok_none_iff]
  unfold found
  cases hc : m.callable? method with
  | ok object =>
    cases object with
    | none => simp [eq_comm]
    | some object => simp
  | error fault =>
    have hf := m.failsWithin_callable? method fault hc
    have hn : fault ≠ .missingMethod controller word := by rintro rfl; exact nomatch hf
    simp [hn]

end Module

namespace ControllerCache

variable {t : FileTree} {name other method : Text} {cache cache' cache'' : ControllerCache}
  {m : Module} {fault : Fault}

/-! ### Loading -/

/-- A controller that is not loaded is looked for and carried out, in the files as they are. -/
theorem run_fetch_of_unloaded (h : Assoc.get? name cache.loaded = none) :
    ((fetch t name).run cache).result =
        (execute t cache.base cache.count name).map Prod.snd ∧
      ∀ p m, execute t cache.base cache.count name = .ok (p, m) →
        ((fetch t name).run cache).state =
          { cache with loaded := cache.loaded ++ [(name, m)], count := cache.count + 1 } := by
  cases he : execute t cache.base cache.count name with
  | error fault =>
    have hf : FailsToLoad t name cache fault := ⟨h, he⟩
    exact ⟨hf.ends.result, fun _ _ ho => nomatch ho⟩
  | ok r =>
    have hl : Loads t name cache r.2 _ := .carriedOut h he
    refine ⟨hl.ends.result, fun p m ho => ?_⟩
    obtain rfl := Except.ok.inj ho
    exact hl.ends.state

/-- A loading that fails has not found the controller among the loaded ones, reports nothing and
changes nothing. -/
theorem run_fetch_of_fault (h : ((fetch t name).run cache).result = .error fault) :
    Assoc.get? name cache.loaded = none ∧
      (fetch t name).run cache = ⟨[], cache, .error fault⟩ := by
  have hs := state_of_fetch_fault h
  rcases loads_or_failsToLoad t name cache with ⟨m, cache', hl⟩ | ⟨fault', hf⟩
  · exact nomatch hl.ends.result.symm.trans h
  · refine ⟨hf.1, Outcome.ext ?_ hs h⟩
    unfold fetch
    simp only [Step.run_bind, Step.run_read, Outcome.andThen_ok, hf.1, hf.2, Step.run_ofExcept,
      Outcome.andThen_error, List.append_nil]

/-! ### Looking for callables -/

/-- Looks for a callable under a name of a controller. -/
def lookUp (name : Text) (m : Module) (method : Text) : Step ControllerCache Object := do
  let found ← Step.ofExcept (m.callable? method)
  if method = Module.annotationsName then keep name { m with names := m.asked method }
  match found with
  | some object => pure object
  | none => Step.fail (.missingMethod name method)

theorem callable_eq (t : FileTree) (name method : Text) :
    callable t name method = fetch t name >>= fun m => lookUp name m method := rfl

/-- The controllers after one of them has been asked for a name. -/
def afterAsking (name : Text) (m : Module) (method : Text) (cache : ControllerCache) :
    ControllerCache :=
  if method = Module.annotationsName then
    { cache with loaded := Assoc.set name { m with names := m.asked method } cache.loaded }
  else cache

theorem run_lookUp (name : Text) (m : Module) (method : Text) (cache : ControllerCache) :
    (lookUp name m method).run cache =
      ⟨[], afterAsking name m method cache, m.found name method⟩ := by
  unfold lookUp afterAsking Module.found
  by_cases hm : method = Module.annotationsName
  · obtain ⟨callable, hc⟩ : ∃ callable, m.callable? method = .ok callable := by
      unfold Module.callable?
      rw [hm, m.object?_annotationsName]
      exact ⟨_, rfl⟩
    simp only [Step.run_bind, Step.run_ofExcept, hc, Outcome.andThen_ok, if_pos hm, keep,
      Step.run_modify]
    cases callable <;> rfl
  · simp only [Step.run_bind, Step.run_ofExcept, if_neg hm]
    rcases m.callable? method with fault | _ | object <;> rfl

/-- A callable of a controller that is loaded is looked for in that controller. -/
theorem run_callable_of_loaded (h : Assoc.get? name cache.loaded = some m) :
    (callable t name method).run cache =
      ⟨[], afterAsking name m method cache, m.found name method⟩ := by
  rw [callable_eq, Step.run_bind, run_fetch_of_loaded h, Outcome.andThen_ok, run_lookUp]
  rfl

/-- A callable of a controller is not looked for if the controller cannot be loaded. -/
theorem run_callable_of_fault (h : ((fetch t name).run cache).result = .error fault) :
    (callable t name method).run cache = ⟨[], cache, .error fault⟩ := by
  rw [callable_eq, Step.run_bind_of_fault h, (run_fetch_of_fault h).2]

theorem result_callable (t : FileTree) (name method : Text) (cache : ControllerCache) :
    ((callable t name method).run cache).result =
      ((fetch t name).run cache).result >>= fun m => m.found name method := by
  rw [callable_eq, Step.run_bind]
  rcases (fetch t name).run cache with ⟨events, cache', fault | m⟩
  · rfl
  · rw [Outcome.andThen_ok, run_lookUp]
    rfl

/-- No loading fails for want of a method: a controller does not know the loader's own faults. -/
theorem result_fetch_ne_missingMethod (t : FileTree) (name : Text) (cache : ControllerCache)
    (controller word : Text) :
    ((fetch t name).run cache).result ≠ .error (.missingMethod controller word) := by
  intro h
  obtain ⟨hg, -⟩ := run_fetch_of_fault h
  obtain ⟨hr, -⟩ := run_fetch_of_unloaded (t := t) hg
  rw [h] at hr
  rcases he : execute t cache.base cache.count name with fault | r <;> rw [he] at hr
  · obtain rfl := Except.error.inj hr
    rcases failsWithin_execute _ _ _ _ _ he with hm | _ | _
    exact nomatch hm
  · exact nomatch hr

theorem result_callable_eq_missingMethod_iff {controller word : Text} :
    ((callable t name method).run cache).result = .error (.missingMethod controller word) ↔
      controller = name ∧ word = method ∧
        ∃ m, ((fetch t name).run cache).result = .ok m ∧ m.Lacks method := by
  rw [result_callable]
  cases hm : ((fetch t name).run cache).result with
  | ok m => simp [bind, Except.bind, Module.found_eq_missingMethod_iff]
  | error fault =>
    have hf : fault ≠ .missingMethod controller word := by
      rintro rfl
      exact result_fetch_ne_missingMethod t name cache controller word hm
    simp [bind, Except.bind, hf]

/-! ### What is kept -/

/-- All that one cache holds is in the other, as it is later. -/
def Retains (cache cache' : ControllerCache) : Prop :=
  cache'.base = cache.base ∧ ∀ name m, Assoc.get? name cache.loaded = some m →
    ∃ later, m.IsLater later ∧ Assoc.get? name cache'.loaded = some later

theorem retains_refl (cache : ControllerCache) : cache.Retains cache :=
  ⟨rfl, fun _ m h => ⟨m, m.isLater_refl, h⟩⟩

theorem Retains.trans (h : cache.Retains cache') (h' : cache'.Retains cache'') :
    cache.Retains cache'' := by
  refine ⟨h'.1.trans h.1, fun name m hm => ?_⟩
  obtain ⟨later, hl, hg⟩ := h.2 name m hm
  obtain ⟨later', hl', hg'⟩ := h'.2 name later hg
  exact ⟨later', hl.trans hl', hg'⟩

theorem Loads.retains (h : Loads t name cache m cache') : cache.Retains cache' :=
  ⟨h.base_eq, fun other m' hm => ⟨m', m'.isLater_refl, h.includes other m' hm⟩⟩

theorem retains_afterAsking (h : Assoc.get? name cache.loaded = some m) (method : Text) :
    cache.Retains (afterAsking name m method cache) := by
  unfold afterAsking
  split
  · rename_i hm
    refine ⟨rfl, fun other m' hg => ?_⟩
    by_cases ho : other = name
    · subst ho
      obtain rfl := Option.some.inj (h.symm.trans hg)
      exact ⟨_, hm ▸ m.isLater_asked, Assoc.get?_set_self _ _ _⟩
    · exact ⟨m', m'.isLater_refl, (Assoc.get?_set_of_ne ho _ _).trans hg⟩
  · exact retains_refl cache

/-! ### Uses -/

/-- A use of the loaded controllers, with the files as they are then. -/
inductive Use where
  | load (files : FileTree) (name : Text)
  | resolve (files : FileTree) (name method : Text)
  | forget

namespace Use

/-- What a use does. -/
def step : Use → Step ControllerCache Unit
  | .load files name => do let _ ← fetch files name
  | .resolve files name method => do let _ ← callable files name method
  | .forget => forgetAll

/-- The controller that is used. -/
def name? : Use → Option Text
  | .load _ name => some name
  | .resolve _ name _ => some name
  | .forget => none

end Use

/-- The controllers after some uses, each of them made whatever has become of the ones before. -/
def after (uses : List Use) (cache : ControllerCache) : ControllerCache :=
  Step.after (uses.map Use.step) cache

variable {use : Use} {uses : List Use}

theorem after_cons (use : Use) (uses : List Use) (cache : ControllerCache) :
    after (use :: uses) cache = after uses (use.step.run cache).state := rfl

/-- Either all controllers are forgotten or none. -/
theorem run_forgetAll (cache : ControllerCache) :
    forgetAll.run cache = ⟨[], { cache with loaded := [] }, .ok ()⟩ ∨
      ∃ fault, forgetAll.run cache = ⟨[], cache, .error fault⟩ := by
  unfold forgetAll
  simp only [Step.run_bind, Step.run_read, Outcome.andThen_ok, Step.run_ofExcept]
  cases cache.loaded.forM fun p => releaseName p.2 with
  | error fault => exact .inr ⟨fault, rfl⟩
  | ok a => exact .inl rfl

/-- What a use leaves: the controllers with the one that was loaded, as it is when it has been asked
for a name; the same controllers, if it fails; or none. -/
inductive Use.Leaves (cache : ControllerCache) : Use → ControllerCache → Prop where
  | loaded {files : FileTree} {name : Text} {m : Module} {cache' : ControllerCache} :
      cache.Loads files name m cache' → Leaves cache (.load files name) cache'
  | asked {files : FileTree} {name method : Text} {m : Module} {cache' : ControllerCache} :
      cache.Loads files name m cache' →
      Leaves cache (.resolve files name method) (afterAsking name m method cache')
  | notLoaded {files : FileTree} {name : Text} {fault : Fault} :
      cache.FailsToLoad files name fault → Leaves cache (.load files name) cache
  | notAsked {files : FileTree} {name method : Text} {fault : Fault} :
      cache.FailsToLoad files name fault → Leaves cache (.resolve files name method) cache
  | forgotten : forgetAll.run cache = ⟨[], { cache with loaded := [] }, .ok ()⟩ →
      Leaves cache .forget { cache with loaded := [] }
  | kept {fault : Fault} : forgetAll.run cache = ⟨[], cache, .error fault⟩ →
      Leaves cache .forget cache

theorem Use.leaves (use : Use) (cache : ControllerCache) :
    use.Leaves cache (use.step.run cache).state := by
  cases use with
  | load files name =>
    rw [Use.step, Step.run_bind_pure]
    rcases loads_or_failsToLoad files name cache with ⟨m, cache', hl⟩ | ⟨fault, hf⟩
    · rw [hl.ends.state]
      exact .loaded hl
    · rw [hf.ends.state]
      exact .notLoaded hf
  | resolve files name method =>
    rw [Use.step, Step.run_bind_pure]
    rcases loads_or_failsToLoad files name cache with ⟨m, cache', hl⟩ | ⟨fault, hf⟩
    · obtain ⟨events, he⟩ := hl.ends
      rw [callable_eq, Step.run_bind, he, Outcome.andThen_ok, run_lookUp]
      exact .asked hl
    · rw [run_callable_of_fault hf.ends.result]
      exact .notAsked hf
  | forget =>
    rcases run_forgetAll cache with hr | ⟨fault, hr⟩
    · rw [Use.step, hr]
      exact .forgotten hr
    · rw [Use.step, hr]
      exact .kept hr

/-- Some uses forget no controller: whenever all are to be forgotten, one cannot be given up. -/
def ForgetsNone (cache : ControllerCache) (uses : List Use) : Prop :=
  ∀ before rest, uses = before ++ .forget :: rest →
    ∃ fault, (forgetAll.run (cache.after before)).result = .error fault

theorem ForgetsNone.tail (h : cache.ForgetsNone (use :: uses)) :
    (use.step.run cache).state.ForgetsNone uses := by
  intro before rest he
  exact h (use :: before) rest (congrArg (use :: ·) he)

theorem forgetsNone_of_forall (h : ∀ use ∈ uses, use ≠ .forget) (cache : ControllerCache) :
    cache.ForgetsNone uses := by
  rintro before rest rfl
  exact absurd rfl (h .forget (List.mem_append_right _ List.mem_cons_self))

/-- A use retains what is loaded, unless all is forgotten. -/
theorem Use.Leaves.retains (hl : use.Leaves cache cache')
    (h : use = .forget → ∃ fault, (forgetAll.run cache).result = .error fault) :
    cache.Retains cache' := by
  cases hl with
  | loaded hl => exact hl.retains
  | asked hl => exact hl.retains.trans (retains_afterAsking hl.get? _)
  | notLoaded | notAsked => exact retains_refl cache
  | forgotten hr =>
    obtain ⟨fault, hf⟩ := h rfl
    exact nomatch (congrArg Outcome.result hr).symm.trans hf
  | kept => exact retains_refl cache

/-- Uses retain what is loaded, unless all is forgotten. -/
theorem retains_after (h : cache.ForgetsNone uses) : cache.Retains (cache.after uses) := by
  induction uses generalizing cache with
  | nil => exact retains_refl cache
  | cons use uses ih =>
    have hu : use = .forget → ∃ fault, (forgetAll.run cache).result = .error fault := by
      rintro rfl
      exact h [] uses rfl
    exact ((use.leaves cache).retains hu).trans (ih h.tail)

/-! ### What is not loaded -/

/-- A controller that is not loaded does not come to be by uses of others. -/
theorem Use.Leaves.get?_eq_none (hl : use.Leaves cache cache') (hn : use.name? ≠ some name)
    (h : Assoc.get? name cache.loaded = none) : Assoc.get? name cache'.loaded = none := by
  have loads {files : FileTree} {other : Text} {m : Module} {cache' : ControllerCache}
      (hne : name ≠ other) (hl : cache.Loads files other m cache') :
      Assoc.get? name cache'.loaded = none := by
    rw [Assoc.get?_eq_none_iff, hl.mem_keys_iff]
    exact not_or.2 ⟨Assoc.get?_eq_none_iff.1 h, hne⟩
  cases hl with
  | loaded hl => exact loads (fun he => hn (congrArg some he.symm)) hl
  | @asked files other method m cache' hl =>
    have hne : name ≠ other := fun he => hn (congrArg some he.symm)
    unfold afterAsking
    split
    · exact (Assoc.get?_set_of_ne hne _ _).trans (loads hne hl)
    · exact loads hne hl
  | notLoaded | notAsked => exact h
  | forgotten => rfl
  | kept => exact h

theorem get?_after_eq_none (hn : ∀ use ∈ uses, use.name? ≠ some name)
    (h : Assoc.get? name cache.loaded = none) :
    Assoc.get? name (cache.after uses).loaded = none := by
  induction uses generalizing cache with
  | nil => exact h
  | cons use uses ih =>
    obtain ⟨hu, hus⟩ := List.forall_mem_cons.1 hn
    exact ih hus ((use.leaves cache).get?_eq_none hu h)

/-- A loading that looks for the controller's file and carries it out, with the files as they are:
how it ends if the file cannot be looked for, if there is none, and after it has been carried out.
A fault of the controller's own code is that of a missing controller for some kinds of faults, and
for all others it is left as it is. -/
structure LoadsAfresh (cache : ControllerCache) (files : FileTree) (name : Text) : Prop where
  unfindable : ∀ fault, find files cache.base name = .error fault →
    ((fetch files name).run cache).result = .error fault
  missing : find files cache.base name = .ok none → ((fetch files name).run cache).result =
    .error (.missingController name (fileOf cache.base name).text none)
  carriedOut : ∀ p names, find files cache.base name = .ok (some p) →
    carryOut files p cache.count = .ok names →
    ((fetch files name).run cache).result = .ok ⟨cache.count, names⟩
  failed : ∀ p fault, find files cache.base name = .ok (some p) →
    carryOut files p cache.count = .error fault → ∃ kind, fault.kind? = some kind ∧
      ((∃ controller location cause, ((fetch files name).run cache).result =
        .error (.missingController controller location cause)) ↔ Kind.IsUnloadable kind) ∧
      (¬ Kind.IsUnloadable kind → ((fetch files name).run cache).result = .error fault)

theorem loadsAfresh_of_unloaded (h : Assoc.get? name cache.loaded = none) (files : FileTree) :
    cache.LoadsAfresh files name := by
  obtain ⟨hr, -⟩ := run_fetch_of_unloaded (t := files) h
  unfold execute at hr
  refine ⟨fun fault hf => ?_, fun hf => ?_, fun p names hf hc => ?_, fun p fault hf hc => ?_⟩
  · rw [hr, hf]
    rfl
  · rw [hr, hf]
    rfl
  · rw [hr, hf]
    simp only [bind, Except.bind, hc]
    rfl
  · have hp : ((fetch files name).run cache).result = .error (passOn name p fault) := by
      rw [hr, hf]
      simp only [bind, Except.bind, hc]
      rfl
    have hb := failsWithin_carryOut files p cache.count fault hc
    obtain ⟨kind, hk, hu, hn⟩ := passOn_cases hb name p
    refine ⟨kind, hk, ⟨?_, fun hk => ?_⟩, fun hk => hp.trans (congrArg _ (hn hk))⟩
    · rintro ⟨controller, location, cause, hm⟩
      refine Classical.byContradiction fun hk => ?_
      rw [hp, hn hk] at hm
      obtain rfl := Except.error.inj hm
      exact nomatch hb
    · obtain ⟨cause, hc⟩ := hu hk
      exact ⟨name, p.text, some cause, hp.trans (congrArg _ hc)⟩

/-! ### Which loading made a controller -/

/-- Every controller was made by a loading of a number before the next one. -/
def IsNumbered (cache : ControllerCache) : Prop := ∀ p ∈ cache.loaded, p.2.loading < cache.count

/-- One cache comes after another: its next loading is no earlier, and it is numbered if the other
one is. -/
def Numbers (cache cache' : ControllerCache) : Prop :=
  cache.count ≤ cache'.count ∧ (cache.IsNumbered → cache'.IsNumbered)

theorem loading_of_execute {base : Path} {count : Nat} {p : Path}
    (h : execute t base count name = .ok (p, m)) : m.loading = count := by
  unfold execute at h
  rcases hf : find t base name with fault | _ | p' <;> rw [hf] at h
  · exact nomatch h
  · exact nomatch h
  · simp only [bind, Except.bind] at h
    split at h
    · exact nomatch h
    · obtain ⟨-, rfl⟩ := Prod.mk.inj (Except.ok.inj h)
      rfl

theorem Loads.numbers (h : Loads t name cache m cache') : cache.Numbers cache' := by
  cases h with
  | kept => exact ⟨Nat.le_refl _, id⟩
  | carriedOut hl he =>
    refine ⟨Nat.le_succ _, fun hn p hp => ?_⟩
    rcases List.mem_append.1 hp with hp | hp
    · exact Nat.lt_succ_of_lt (hn p hp)
    · rw [List.mem_singleton.1 hp]
      exact Nat.lt_succ_of_le (Nat.le_of_eq (loading_of_execute he))

theorem numbers_afterAsking (h : Assoc.get? name cache.loaded = some m) (method : Text) :
    cache.Numbers (afterAsking name m method cache) := by
  unfold afterAsking
  split
  · refine ⟨Nat.le_refl _, fun hn => ?_⟩
    have hm : m.loading < cache.count := hn _ (Assoc.mem_of_get? h)
    exact Assoc.forall_mem_set hn hm
  · exact ⟨Nat.le_refl _, id⟩

theorem Numbers.trans (h : cache.Numbers cache') (h' : cache'.Numbers cache'') :
    cache.Numbers cache'' := ⟨Nat.le_trans h.1 h'.1, fun hn => h'.2 (h.2 hn)⟩

theorem Use.Leaves.numbers (hl : use.Leaves cache cache') : cache.Numbers cache' := by
  cases hl with
  | loaded hl => exact hl.numbers
  | asked hl => exact hl.numbers.trans (numbers_afterAsking hl.get? _)
  | notLoaded | notAsked => exact ⟨Nat.le_refl _, id⟩
  | forgotten => exact ⟨Nat.le_refl _, fun _ _ hp => absurd hp List.not_mem_nil⟩
  | kept => exact ⟨Nat.le_refl _, id⟩

theorem numbers_after (uses : List Use) (cache : ControllerCache) :
    cache.Numbers (cache.after uses) := by
  induction uses generalizing cache with
  | nil => exact ⟨Nat.le_refl _, id⟩
  | cons use uses ih => exact (use.leaves cache).numbers.trans (ih _)

/-! ### The whole -/

/-- A use for which a controller is loaded leaves it loaded, as it is then. -/
theorem Use.Leaves.get?_of_loads (hl : use.Leaves cache cache')
    (h : ((fetch t name).run cache).result = .ok m)
    (hu : use = .load t name ∨ ∃ method, use = .resolve t name method) :
    ∃ later, m.IsLater later ∧ Assoc.get? name cache'.loaded = some later := by
  rcases hu with rfl | ⟨method, rfl⟩
  · cases hl with
    | loaded hl =>
      obtain rfl := Except.ok.inj (hl.ends.result.symm.trans h)
      exact ⟨_, Module.isLater_refl _, hl.get?⟩
    | notLoaded hf => exact nomatch hf.ends.result.symm.trans h
  · cases hl with
    | asked hl =>
      obtain rfl := Except.ok.inj (hl.ends.result.symm.trans h)
      exact (retains_afterAsking hl.get? method).2 name _ hl.get?
    | notAsked hf => exact nomatch hf.ends.result.symm.trans h

/-- Whatever has been done with the loaded controllers so far: a controller that is loaded is the
same one in every use until all are forgotten, and neither its file nor any other is looked at
again.  A loading that fails leaves everything as it was, and neither it nor forgetting lets the
next loading of the name do without the file: that one looks for it and carries it out, which fails
as the kind of the fault says.  A callable is missing if its controller can be loaded and lacks it,
and only then. -/
theorem loads_once_until_forgotten (base : Path) (history : List Use) :
    let cache := (ofBase base).after history
    (∀ use files name m, (use = .load files name ∨ ∃ method, use = .resolve files name method) →
      ((fetch files name).run cache).result = .ok m →
      ∀ uses, (use.step.run cache).state.ForgetsNone uses →
        let now := cache.after (use :: uses)
        m.loading < now.count ∧ ∃ later, m.IsLater later ∧ ∀ files,
          (fetch files name).run now = ⟨[], now, .ok later⟩ ∧
          ∀ method, (callable files name method).run now =
            ⟨[], afterAsking name later method now, later.found name method⟩) ∧
    (∀ files name fault, ((fetch files name).run cache).result = .error fault →
      (fetch files name).run cache = ⟨[], cache, .error fault⟩ ∧
      (∀ method, (callable files name method).run cache = ⟨[], cache, .error fault⟩) ∧
      ∀ uses, (∀ use ∈ uses, use.name? ≠ some name) →
        ∀ files, (cache.after uses).LoadsAfresh files name) ∧
    ((∃ fault, forgetAll.run cache = ⟨[], cache, .error fault⟩) ∨
      forgetAll.run cache = ⟨[], { cache with loaded := [] }, .ok ()⟩ ∧
      ∀ name uses, (∀ use ∈ uses, use.name? ≠ some name) →
        ∀ files, (cache.after (.forget :: uses)).LoadsAfresh files name) ∧
    ∀ files name method controller word,
      ((callable files name method).run cache).result =
          .error (.missingMethod controller word) ↔
        controller = name ∧ word = method ∧
          ∃ m, ((fetch files name).run cache).result = .ok m ∧ m.Lacks method := by
  intro cache
  refine ⟨fun use files name m hu hm uses hn => ?_, fun files name fault hf => ?_, ?_, ?_⟩
  · intro now
    have hnow : now.IsNumbered := by
      have hc : cache.IsNumbered :=
        (numbers_after history (ofBase base)).2 fun _ hp => absurd hp List.not_mem_nil
      exact (numbers_after (use :: uses) cache).2 hc
    obtain ⟨later₁, hl₁, hg₁⟩ := (use.leaves cache).get?_of_loads hm hu
    obtain ⟨later, hl, hg⟩ := (retains_after hn).2 name later₁ hg₁
    have hl := hl₁.trans hl
    refine ⟨?_, later, hl, fun files => ⟨run_fetch_of_loaded hg, fun method => ?_⟩⟩
    · rw [← hl.loading_eq]
      exact hnow _ (Assoc.mem_of_get? hg)
    · exact run_callable_of_loaded hg
  · obtain ⟨hg, hr⟩ := run_fetch_of_fault hf
    refine ⟨hr, fun method => run_callable_of_fault hf, fun uses hu files => ?_⟩
    exact loadsAfresh_of_unloaded (get?_after_eq_none hu hg) files
  · rcases run_forgetAll cache with hr | hr
    · refine .inr ⟨hr, fun name uses hu files => ?_⟩
      rw [after_cons, Use.step, hr]
      exact loadsAfresh_of_unloaded (get?_after_eq_none hu rfl) files
    · exact .inl hr
  · intro files name method controller word
    exact result_callable_eq_missingMethod_iff

/-- A directory with a controller and with one that takes away a name that it does not have. -/
def twoControllers : FileTree :=
  ⟨Path.ofText "/srv",
    [(["a.py"], .file (.controller ⟨[.define "b" (.function "b" "done" none)], none⟩)),
      (["boom.py"], .file (.controller ⟨[.delete "b"], none⟩))]⟩

/-- A controller outlives its file, and one that could not be loaded is looked for again. -/
theorem loads_once_until_forgotten_two_controllers :
    let cache := (ofBase (Path.ofText "/srv")).after []
    let emptied : FileTree := { twoControllers with nodes := [] }
    let now := cache.after [.load twoControllers "a", .resolve emptied "a" "b"]
    (∃ later, (fetch emptied "a").run now = ⟨[], now, .ok later⟩) ∧
      ((fetch twoControllers "boom").run cache).result = .error .undefinedName ∧
      now.LoadsAfresh emptied "boom" := by
  intro cache emptied now
  obtain ⟨hkept, hfails, -, -⟩ := loads_once_until_forgotten (Path.ofText "/srv") []
  obtain ⟨m, hm⟩ : ∃ m, ((fetch twoControllers "a").run cache).result = .ok m := ⟨_, rfl⟩
  have hboom : ((fetch twoControllers "boom").run cache).result = .error .undefinedName := rfl
  obtain ⟨-, -, hafresh⟩ := hfails _ _ _ hboom
  refine ⟨?_, hboom, hafresh [.load twoControllers "a", .resolve emptied "a" "b"] ?_ emptied⟩
  · have hn : ((Use.load twoControllers "a").step.run cache).state.ForgetsNone
        [.resolve emptied "a" "b"] :=
      forgetsNone_of_forall (by simp) _
    obtain ⟨-, later, -, hl⟩ := hkept _ _ _ m (.inl rfl) hm _ hn
    exact ⟨later, (hl emptied).1⟩
  · intro use hu
    rcases List.mem_cons.1 hu with rfl | hu
    · exact fun he => by cases he
    · obtain rfl := List.mem_singleton.1 hu
      exact fun he => by cases he

end ControllerCache

end Routing
