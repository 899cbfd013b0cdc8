import Routing.Proofs.Controller.Uses

/-!
# Names and homes

A controller has no name twice, whatever its members do and whatever is done with it later
(`Module.NamesOnce`).  If it lists no exports, it exports the public names of what can be called and
is at home in it, in the order of its names (`exports_eq_homeCallables`).  As long as none of a
source's members touches the controller's own name, what they make is at home in the controller,
unless it passes for something from elsewhere, and what they take from elsewhere is not
(`Source.homeCallables_of_leaves`).
-/

namespace Routing

/-! ### What one member does -/

/-- What a member does to the names that are bound. -/
inductive Member.Does (loading place : Nat) (names : Assoc Object) :
    Member → Assoc Object → Prop where
  | defines (word : Text) (thing : Thing) :
      Does loading place names (.define word thing)
        (Assoc.set (Text.unified word)
          ⟨loading, place, thing.named (Text.unified word), Source.homeOf names thing⟩ names)
  | binds {word target : Text} {object : Object} :
      Source.meaning? loading place names (Text.unified target) = some object →
      Does loading place names (.synonym word target) (Assoc.set (Text.unified word) object names)
  | takesAway {word : Text} :
      Does loading place names (.delete word) (Assoc.erase (Text.unified word) names)

namespace Source

variable {loading place : Nat} {members : List Member} {names names' : Assoc Object}
  {source : Source} {p : Path}

/-- What each member keeps, all members keep. -/
theorem perform_induction {P : Assoc Object → Prop} (h : P names)
    (hstep : ∀ member ∈ members, ∀ place names names', P names →
      member.Does loading place names names' → P names')
    (hp : perform loading place members names = .ok names') : P names' := by
  induction members generalizing place names with
  | nil =>
    obtain rfl := Except.ok.inj hp
    exact h
  | cons member rest ih =>
    have hrest := fun m hm => hstep m (List.mem_cons_of_mem member hm)
    have hone := fun names'' => hstep member List.mem_cons_self place names names'' h
    cases member with
    | define word thing => exact ih (hone _ (.defines word thing)) hrest hp
    | synonym word target =>
      rw [perform] at hp
      cases hm : meaning? loading place names (Text.unified target) with
      | none =>
        rw [hm] at hp
        exact nomatch hp
      | some object =>
        rw [hm] at hp
        exact ih (hone _ (.binds hm)) hrest hp
    | delete word =>
      rw [perform] at hp
      cases hg : Assoc.get? (Text.unified word) names with
      | none =>
        rw [hg] at hp
        exact nomatch hp
      | some object =>
        rw [hg] at hp
        exact ih (hone _ .takesAway) hrest hp

theorem perform_of_run (h : source.run p loading = .ok names) :
    perform loading (given p).length source.members (startingNames p loading) = .ok names := by
  unfold run at h
  cases hf : source.flaw? with
  | some fault =>
    rw [hf] at h
    exact nomatch h
  | none =>
    rw [hf] at h
    cases hp : perform loading (given p).length source.members (startingNames p loading) with
    | error fault =>
      rw [hp] at h
      exact nomatch h
    | ok names' =>
      rw [hp] at h
      cases hr : source.raises with
      | some r =>
        rw [hr] at h
        exact nomatch h
      | none =>
        rw [hr] at h
        exact h

/-! ### No name twice -/

theorem keys_startingNames (p : Path) (loading : Nat) :
    (startingNames p loading).keys = (given p).map Prod.fst := by
  refine List.ext_getElem? fun i => ?_
  simp [startingNames, Assoc.keys, Function.comp_def]

theorem nodup_startingNames (p : Path) (loading : Nat) : (startingNames p loading).keys.Nodup := by
  rw [keys_startingNames]
  unfold given
  by_cases h : p.name = packageFile
  · simp only [if_pos h, List.map_append, List.map_cons, List.map_nil]
    decide
  · simp only [if_neg h, List.map_append, List.map_cons, List.map_nil]
    decide

theorem nodup_run (h : source.run p loading = .ok names) : names.keys.Nodup := by
  refine perform_induction (P := fun names => names.keys.Nodup) (nodup_startingNames p loading)
    (fun member _ place names names' hn hd => ?_) (perform_of_run h)
  cases hd with
  | defines => exact Assoc.nodup_keys_set hn _ _
  | binds => exact Assoc.nodup_keys_set hn _ _
  | takesAway => exact Assoc.nodup_keys_erase hn _

end Source

namespace Module

variable {m : Module} {name : Text} {thing : Thing} {args : Arguments} {answer : Value}
  {names : Assoc Object} {object own : Object}

/-- A controller has no name twice. -/
def NamesOnce (m : Module) : Prop := m.names.keys.Nodup

theorem NamesOnce.asked (h : m.NamesOnce) (name : Text) : (m.asked name).keys.Nodup := by
  unfold Module.asked
  split
  · exact Assoc.nodup_keys_ensure h _ _
  · exact h

/-- What a call may leave of the names of a controller. -/
inductive MayLeave (m : Module) : Assoc Object → Prop where
  | same : MayLeave m m.names
  | asked (name : Text) : MayLeave m (m.asked name)
  | changed (values : List (Text × Value)) : MayLeave m (m.after values)
  | taken (name : Text) : MayLeave m (Assoc.erase name m.names)

/-- Only four of the things that every controller has change its names. -/
theorem mayLeave_of_callInherited {row : List Value}
    (hc : m.callInherited name row = .ok (answer, names)) : m.MayLeave names := by
  unfold callInherited at hc
  split at hc
  · -- looking a name up
    split at hc
    · obtain ⟨found, -, hc⟩ := exists_of_bind_eq_ok hc
      cases found with
      | none => exact nomatch hc
      | some object =>
        obtain ⟨-, rfl⟩ := Prod.mk.inj (Except.ok.inj hc)
        exact .asked _
    · exact nomatch hc
  split at hc
  · -- listing the names
    split at hc
    · obtain ⟨listed, -, hc⟩ := exists_of_bind_eq_ok hc
      obtain ⟨-, rfl⟩ := Prod.mk.inj (Except.ok.inj hc)
      exact .same
    · exact nomatch hc
  split at hc
  · -- setting a name
    split at hc
    · split at hc
      · exact nomatch hc
      · obtain ⟨-, rfl⟩ := Prod.mk.inj (Except.ok.inj hc)
        exact .changed _
    · exact nomatch hc
  split at hc
  · -- taking a name away
    split at hc
    · split at hc
      · exact nomatch hc
      · obtain ⟨-, rfl⟩ := Prod.mk.inj (Except.ok.inj hc)
        exact .taken _
      · exact nomatch hc
    · exact nomatch hc
  split at hc
  · -- being told its own name anew
    split at hc
    · obtain ⟨-, rfl⟩ := Prod.mk.inj (Except.ok.inj hc)
      exact .changed _
    · obtain ⟨-, rfl⟩ := Prod.mk.inj (Except.ok.inj hc)
      exact .changed _
    · exact nomatch hc
  obtain ⟨v, -, hc⟩ := exists_of_bind_eq_ok hc
  obtain ⟨-, rfl⟩ := Prod.mk.inj (Except.ok.inj hc)
  exact .same

theorem mayLeave_of_call (hc : m.call thing args = .ok (answer, names)) : m.MayLeave names := by
  cases thing with
  | inherited name =>
    obtain ⟨row, -, hc⟩ := exists_of_bind_eq_ok hc
    exact mayLeave_of_callInherited hc
  | _ =>
    rw [names_of_call rfl hc]
    exact .same

/-- A call leaves no name twice. -/
theorem NamesOnce.call (h : m.NamesOnce) (hc : m.call thing args = .ok (answer, names)) :
    names.keys.Nodup := by
  cases mayLeave_of_call hc with
  | same => exact h
  | asked name => exact h.asked name
  | changed values => exact Assoc.nodup_keys_merge h _
  | taken name => exact Assoc.nodup_keys_erase h name

/-! ### What is exported -/

/-- A controller lists no exports: it has no such list, or has nothing in its place. -/
def ListsNothing (m : Module) : Prop :=
  m.object? "__all__" = .ok none ∨
    ∃ object, m.object? "__all__" = .ok (some object) ∧ object.thing = .constant .null

/-- An object has its home where the controller's own name is. -/
def isAtHome (m : Module) (object : Object) : Bool :=
  match m.ownName with
  | .ok own => object.home.same own.asHome
  | .error _ => false

/-- The public names of a controller with their objects. -/
def publicNames (m : Module) : Assoc Object := m.names.filter fun p => isPublic p.1

/-- The public names of what can be called and is at home in the controller, in their order. -/
def homeCallables (m : Module) : List Text :=
  (m.publicNames.filter fun p => p.2.thing.isCallable && m.isAtHome p.2).map Prod.fst

theorem offered_of_listsNothing (h : m.ListsNothing) : m.offered = m.homeNames := by
  unfold offered
  rcases h with h | ⟨⟨loading, place, thing, home⟩, h, ht⟩
  · rw [h]
    rfl
  · obtain rfl : thing = .constant .null := ht
    rw [h]
    rfl

theorem homeNames_eq {offered : List Text} (h : m.homeNames = .ok offered) :
    offered = (m.publicNames.filter fun p => m.isAtHome p.2).map Prod.fst := by
  unfold homeNames at h
  unfold publicNames
  cases hp : m.names.filter fun p => isPublic p.1 with
  | nil =>
    rw [hp] at h
    exact (Except.ok.inj h).symm
  | cons first rest =>
    rw [hp] at h
    obtain ⟨own, hown, h⟩ := exists_of_bind_eq_ok h
    obtain rfl := Except.ok.inj h
    unfold isAtHome
    rw [hown]

theorem object?_of_mem (h : m.NamesOnce) (hm : (name, object) ∈ m.names)
    (hp : isPublic name = true) : m.object? name = .ok (some object) := by
  have hclass : name ≠ "__class__" := by
    rintro rfl
    exact absurd hp (by decide)
  have hdict : name ≠ "__dict__" := by
    rintro rfl
    exact absurd hp (by decide)
  unfold object?
  rw [if_neg hclass, if_neg hdict, Assoc.get?_of_mem h hm]

/-- Of the public names of a controller, those are callable whose objects can be called. -/
theorem callables_of_subset (h : m.NamesOnce) {own : Assoc Object}
    (hs : ∀ p ∈ own, p ∈ m.publicNames) :
    m.callables (own.map Prod.fst) =
      .ok ((own.filter fun p => p.2.thing.isCallable).map Prod.fst) := by
  induction own with
  | nil => rfl
  | cons p rest ih =>
    obtain ⟨hm, hp⟩ := List.mem_filter.1 (hs p List.mem_cons_self)
    have hc : m.callable? p.1 = .ok (if p.2.thing.isCallable then some p.2 else none) := by
      unfold callable?
      rw [object?_of_mem h hm hp]
      rfl
    rw [List.map_cons, callables, hc, ih fun q hq => hs q (List.mem_cons_of_mem p hq),
      List.filter_cons]
    by_cases hcall : p.2.thing.isCallable = true
    · rw [if_pos hcall, if_pos hcall]
      rfl
    · rw [if_neg hcall, if_neg hcall]
      rfl

/-- A controller that lists nothing exports what can be called and is at home in it. -/
theorem exports_eq_homeCallables (h : m.NamesOnce) (hl : m.ListsNothing) {exported : List Text}
    (he : m.exports = .ok exported) : exported = m.homeCallables := by
  unfold exports at he
  rw [offered_of_listsNothing hl] at he
  obtain ⟨offered, ho, he⟩ := exists_of_bind_eq_ok he
  rw [homeNames_eq ho, callables_of_subset h fun p hp => (List.mem_filter.1 hp).1,
    List.filter_filter] at he
  exact (Except.ok.inj he).symm

/-- Exporting goes well if there is a name of its own to compare homes with. -/
theorem exists_exports (h : m.NamesOnce) (hl : m.ListsNothing) (ho : m.ownName = .ok own) :
    ∃ exported, m.exports = .ok exported := by
  obtain ⟨offered, hoffered⟩ : ∃ offered, m.homeNames = .ok offered := by
    unfold homeNames
    split
    · exact ⟨[], rfl⟩
    · rw [ho]
      exact ⟨_, rfl⟩
  unfold exports
  rw [offered_of_listsNothing hl, hoffered, homeNames_eq hoffered]
  exact ⟨_, callables_of_subset h fun p hp => (List.mem_filter.1 hp).1⟩

theorem nodup_homeCallables (h : m.NamesOnce) : m.homeCallables.Nodup := by
  have hs : (m.publicNames.filter fun p => p.2.thing.isCallable && m.isAtHome p.2).Sublist
      m.names := List.filter_sublist.trans List.filter_sublist
  exact List.Nodup.sublist (hs.map Prod.fst) h

end Module

/-! ### What is made by the controller itself -/

/-- A thing that members make, and do not take from elsewhere or state. -/
def Thing.isMadeHere : Thing → Bool
  | .constant _ => false
  | .imported => false
  | .builtin _ => false
  | _ => true

/-- A thing that passes for one of another home. -/
def Thing.isBorrowed : Thing → Bool
  | .borrowed .. => true
  | _ => false

theorem Thing.isMadeHere_named (name : Text) (thing : Thing) :
    (thing.named name).isMadeHere = thing.isMadeHere := by
  cases thing <;> rfl

theorem Thing.isMadeHere_of_isBorrowed {thing : Thing} (h : thing.isBorrowed = true) :
    thing.isMadeHere = true := by
  unfold isBorrowed at h
  split at h
  · rfl
  · exact nomatch h

theorem Thing.isBorrowed_named (name : Text) (thing : Thing) :
    (thing.named name).isBorrowed = thing.isBorrowed := by
  cases thing <;> rfl

namespace Source

variable {loading place : Nat} {members : List Member} {names names' : Assoc Object}
  {source : Source} {p : Path} {thing : Thing}

/-- No member touches the name under which the controller has its own. -/
def LeavesOwnName (source : Source) : Prop :=
  ∀ member ∈ source.members, Text.unified member.bound ≠ ownName

/-- What stands under a controller's own name to begin with. -/
def startingOwn (loading : Nat) : Object := ⟨loading, 0, .inertObject, .value .null⟩

/-- An object that can be called has its home in the controller if members have made it and it does
not pass for one of another home, and elsewhere if not. -/
def Homed (loading : Nat) (object : Object) : Prop :=
  object.thing.isCallable = true → object.home.same (startingOwn loading).asHome =
    (object.thing.isMadeHere && !object.thing.isBorrowed)

/-- All that can be called is homed, and the controller's own name is what it was. -/
structure AllHomed (loading : Nat) (names : Assoc Object) : Prop where
  own : Assoc.get? ownName names = some (startingOwn loading)
  homed : ∀ p ∈ names, Homed loading p.2

/-- What is made while the controller has its own name is homed. -/
theorem AllHomed.make (h : AllHomed loading names) {made : Thing}
    (hm : made.isMadeHere = thing.isMadeHere) (hb : made.isBorrowed = thing.isBorrowed)
    (place : Nat) : Homed loading ⟨loading, place, made, homeOf names thing⟩ := by
  have hself : (startingOwn loading).asHome.same (startingOwn loading).asHome = true := by
    simp [startingOwn, Object.asHome, Home.same, sameObject, Thing.isShared]
  intro _
  rw [hm, hb]
  cases thing with
  | constant v => rfl
  | imported => rfl
  | builtin name => rfl
  | borrowed home name returns => rfl
  | _ =>
    dsimp only [homeOf]
    rw [h.own]
    exact hself

/-- What a name stands for is homed. -/
theorem AllHomed.meaning (h : AllHomed loading names) {name : Text} {object : Object}
    (hm : meaning? loading place names name = some object) : Homed loading object := by
  unfold meaning? at hm
  cases hg : Assoc.get? name names with
  | some object' =>
    rw [hg] at hm
    obtain rfl := Option.some.inj hm
    exact h.homed _ (Assoc.mem_of_get? hg)
  | none =>
    rw [hg] at hm
    obtain ⟨thing, -, rfl⟩ := Option.map_eq_some_iff.1 hm
    exact h.make rfl rfl place

/-- What a controller is given to begin with cannot be called, or is no make of its own. -/
theorem isCallable_of_mem_given {q : Text × Thing} (h : q ∈ given p)
    (hm : q.2.isMadeHere = true) : q.2.isCallable = false := by
  suffices q.2 = .inertObject by rw [this]; rfl
  unfold given packageOf at h
  by_cases hp : p.name = packageFile
  · simp only [if_pos hp, List.mem_append, List.mem_cons, List.not_mem_nil, or_false] at h
    rcases h with ((rfl | rfl | rfl | rfl | rfl) | rfl) | rfl | rfl | rfl <;>
      first | rfl | exact nomatch hm
  · simp only [if_neg hp, List.mem_append, List.mem_cons, List.not_mem_nil, or_false] at h
    rcases h with (rfl | rfl | rfl | rfl | rfl) | rfl | rfl | rfl <;>
      first | rfl | exact nomatch hm

theorem allHomed_startingNames (p : Path) (loading : Nat) :
    AllHomed loading (startingNames p loading) := by
  constructor
  · obtain ⟨rest, hg⟩ : ∃ rest, given p = (ownName, .inertObject) :: rest := ⟨_, rfl⟩
    unfold startingNames
    rw [hg, List.mapIdx_cons]
    rfl
  · intro entry hm hc
    obtain ⟨i, hi, rfl⟩ := List.mem_mapIdx.1 hm
    dsimp only at hc ⊢
    cases hmade : (given p)[i].2.isMadeHere with
    | false => rfl
    | true =>
      rw [isCallable_of_mem_given (List.getElem_mem hi) hmade] at hc
      exact nomatch hc

theorem AllHomed.step {member : Member} (h : AllHomed loading names)
    (hm : Text.unified member.bound ≠ ownName) (hd : member.Does loading place names names') :
    AllHomed loading names' := by
  cases hd with
  | defines word thing =>
    exact ⟨(Assoc.get?_set_of_ne hm.symm _ _).trans h.own,
      Assoc.forall_mem_set h.homed
        (h.make (thing.isMadeHere_named _) (thing.isBorrowed_named _) _)⟩
  | binds hmeaning =>
    exact ⟨(Assoc.get?_set_of_ne hm.symm _ _).trans h.own,
      Assoc.forall_mem_set h.homed (h.meaning hmeaning)⟩
  | takesAway =>
    exact ⟨(Assoc.get?_erase_of_ne hm.symm _).trans h.own,
      fun p hp => h.homed p ((Assoc.erase_sublist _ _).mem hp)⟩

theorem allHomed_run (hl : source.LeavesOwnName) (hr : source.run p loading = .ok names) :
    AllHomed loading names :=
  perform_induction (allHomed_startingNames p loading)
    (fun member hm _ _ _ h hd => h.step (hl member hm) hd) (perform_of_run hr)

theorem AllHomed.ensure (h : AllHomed loading names) {name : Text} {object : Object}
    (hn : name ≠ ownName) (ho : Homed loading object) :
    AllHomed loading (Assoc.ensure name object names) :=
  ⟨(Assoc.get?_ensure_of_ne hn.symm _).trans h.own, Assoc.forall_mem_ensure h.homed ho⟩

/-- A controller is as a source has left it, but that it may have its annotations by now. -/
def Leaves (source : Source) (m : Module) : Prop :=
  ∃ p names, source.run p m.loading = .ok names ∧ Module.IsLater ⟨m.loading, names⟩ m

theorem allHomed_of_leaves {m : Module} (hl : source.LeavesOwnName) (h : source.Leaves m) :
    AllHomed m.loading m.names := by
  obtain ⟨p, names, hr, hlater⟩ := h
  have hhomed := allHomed_run hl hr
  rcases hlater with hm | hm
  · rw [hm]
    exact hhomed
  · rw [hm, Module.asked_annotationsName]
    exact hhomed.ensure (by decide) fun _ => rfl

end Source

/-- The public names of what can be called and members of the controller have made, in their
order. -/
def Module.madeCallables (m : Module) : List Text :=
  (m.publicNames.filter fun p => p.2.thing.isCallable && p.2.thing.isMadeHere).map Prod.fst

/-- No public name of a controller stands for a callable that passes for one of another home. -/
def Module.BorrowsNothing (m : Module) : Prop :=
  ∀ p ∈ m.publicNames, p.2.thing.isCallable = true → p.2.thing.isBorrowed = false

instance (m : Module) : Decidable m.BorrowsNothing :=
  inferInstanceAs (Decidable (∀ p ∈ m.publicNames, _ → _))

/-- Of what the members have made, what is at home is what does not pass for something else. -/
theorem Source.filter_isAtHome {source : Source} {m : Module} (hl : source.LeavesOwnName)
    (h : source.Leaves m) :
    (m.publicNames.filter fun p => p.2.thing.isCallable && m.isAtHome p.2) =
      (m.publicNames.filter fun p => p.2.thing.isCallable && p.2.thing.isMadeHere).filter
        fun p => !p.2.thing.isBorrowed := by
  have hhomed := allHomed_of_leaves hl h
  have hown : m.ownName = .ok (startingOwn m.loading) := by
    unfold Module.ownName Module.object?
    rw [if_neg (by decide), if_neg (by decide), hhomed.own]
    rfl
  rw [List.filter_filter]
  refine List.filter_congr fun p hp => ?_
  have hp := hhomed.homed p (List.mem_filter.1 hp).1
  unfold Module.isAtHome
  rw [hown]
  cases hc : p.2.thing.isCallable with
  | false => simp
  | true =>
    dsimp only
    rw [hp hc, Bool.true_and, Bool.true_and, Bool.and_comm]

/-- What is at home in a controller is what its own members have made, if none of that passes for
something from elsewhere, and only then. -/
theorem Source.homeCallables_of_leaves {source : Source} {m : Module} (hl : source.LeavesOwnName)
    (h : source.Leaves m) : m.homeCallables = m.madeCallables ↔ m.BorrowsNothing := by
  unfold Module.homeCallables Module.madeCallables
  rw [filter_isAtHome hl h]
  constructor
  · intro he p hp hc
    cases hb : p.2.thing.isBorrowed with
    | false => rfl
    | true =>
      have hmade := Thing.isMadeHere_of_isBorrowed hb
      have hall := List.filter_eq_self.1
        (List.filter_sublist.eq_of_length (by simpa using congrArg List.length he))
        p (List.mem_filter.2 ⟨hp, by rw [hc, hmade]; rfl⟩)
      rw [hb] at hall
      exact nomatch hall
  · intro hb
    refine congrArg _ (List.filter_eq_self.2 fun p hp => ?_)
    obtain ⟨hp, hc⟩ := List.mem_filter.1 hp
    rw [hb p hp (Bool.and_eq_true_iff.1 hc).1]
    rfl

end Routing
