import Routing.Controller.Cache
import Routing.Expansion
import Routing.Proofs.Step.Within

/-!
# How controllers fail

There are few faults with which a controller can fail: those of a call, when it is asked for a name
(`failsWithin_object?`), a few more when it is asked for its exports (`failsWithin_exports`), and
those of its own code when it is carried out (`failsWithin_carryOut`).  Looking for its file can go
wrong by itself; `failsWithin_execute` has all of a loading.

Only the fault of a malformed line has a line's number in it, and none of these is one.  Neither is
a fault of reading a target: `namesNoLine_execute`, `namesNoLine_exports` and `namesNoLine_ofText?`.
-/

namespace Routing

namespace Fault

/-- The faults of a call. -/
inductive IsOfCalling : Fault → Prop where
  | handlerRaised (message : Text) : IsOfCalling (.handlerRaised message)
  | badArguments : IsOfCalling .badArguments
  | notCallable : IsOfCalling .notCallable

/-- The faults of listing what a controller exports. -/
inductive IsOfListing : Fault → Prop where
  | calling {fault : Fault} : fault.IsOfCalling → IsOfListing fault
  | moduleWithoutName : IsOfListing .moduleWithoutName
  | exportsNotIterable : IsOfListing .exportsNotIterable

/-- The faults of a controller's own code. -/
inductive IsOfBody : Fault → Prop where
  | controllerRaised (raised : Raised) : IsOfBody (.controllerRaised raised)
  | handlerRaised (message : Text) : IsOfBody (.handlerRaised message)
  | badArguments : IsOfBody .badArguments
  | undefinedName : IsOfBody .undefinedName
  | sourceHoldsNul : IsOfBody .sourceHoldsNul

/-- The faults of a loading. -/
inductive IsOfLoading : Fault → Prop where
  | body {fault : Fault} : fault.IsOfBody → IsOfLoading fault
  | nameTooLong : IsOfLoading .nameTooLong
  | missingController (controller location : Text) (cause : Option Cause) :
      IsOfLoading (.missingController controller location cause)

end Fault

open Fault

/-! ### What is called -/

theorem Arguments.failsWithin_inRow (args : Arguments) : FailsWithin IsOfCalling args.inRow := by
  unfold inRow
  split
  · exact .ok _
  · exact .error .badArguments

theorem failsWithin_callBuiltin (name : Text) (args : Arguments) :
    FailsWithin IsOfCalling (callBuiltin name args) := by
  unfold callBuiltin
  split
  · exact args.failsWithin_inRow.bind fun _ => .ok _
  · split
    · exact .error .badArguments
    · split
      · exact .ok _
      · exact .ok _
      · split
        · exact .ok _
        · exact .error .badArguments
      · exact .error .badArguments
      · exact .ok _

namespace Thing

theorem failsWithin_callInherited (name : Text) (args : List Value) :
    FailsWithin IsOfCalling (callInherited name args) := by
  unfold callInherited
  repeat' split
  all_goals first
    | exact .ok _
    | exact .error .badArguments

theorem failsWithin_call (args : Arguments) (thing : Thing) :
    FailsWithin IsOfCalling (thing.call args) := by
  unfold call
  split
  · exact .error (.handlerRaised _)
  · exact .ok _
  · exact .ok _
  · exact .ok _
  · exact .ok _
  · exact .ok _
  · split <;> exact .ok _
  · exact failsWithin_callBuiltin _ args
  · exact args.failsWithin_inRow.bind fun row => failsWithin_callInherited _ row
  · exact .error .notCallable
  · split
    · exact .ok _
    · exact .error .notCallable

end Thing

/-! ### What a controller answers -/

namespace Module

variable (m : Module)

theorem failsWithin_respond (name : Text) : FailsWithin IsOfCalling (m.respond name) := by
  unfold respond
  split
  · exact .ok none
  · exact (Thing.failsWithin_call _ _).bind fun _ => .ok _

theorem failsWithin_object? (name : Text) : FailsWithin IsOfCalling (m.object? name) := by
  unfold object?
  repeat' split
  all_goals first
    | exact .ok _
    | exact m.failsWithin_respond name

theorem failsWithin_callable? (name : Text) : FailsWithin IsOfCalling (m.callable? name) :=
  (m.failsWithin_object? name).bind fun _ => .ok _

theorem failsWithin_ownName : FailsWithin IsOfListing m.ownName :=
  ((m.failsWithin_object? Source.ownName).mono fun _ => .calling).bind fun
    | some object => .ok object
    | none => .error .moduleWithoutName

theorem failsWithin_homeNames : FailsWithin IsOfListing m.homeNames := by
  unfold homeNames
  split
  · exact .ok _
  · exact m.failsWithin_ownName.bind fun _ => .ok _

theorem failsWithin_offered : FailsWithin IsOfListing m.offered := by
  refine ((m.failsWithin_object? _).mono fun _ => .calling).bind fun found => ?_
  split
  · exact m.failsWithin_homeNames
  · split
    · exact m.failsWithin_homeNames
    · split
      · exact .ok _
      · exact .error .exportsNotIterable
    · exact .error .exportsNotIterable

theorem failsWithin_callables (names : List Text) :
    FailsWithin IsOfCalling (m.callables names) := by
  induction names with
  | nil => exact .ok []
  | cons name names ih =>
    exact (m.failsWithin_callable? name).bind fun _ => ih.bind fun _ => .ok _

theorem failsWithin_exports : FailsWithin IsOfListing m.exports :=
  m.failsWithin_offered.bind fun offered =>
    (m.failsWithin_callables offered).mono fun _ => .calling

end Module

/-! ### What a loading comes to -/

namespace Source

theorem isOfBody_of_flaw {source : Source} {fault : Fault} (h : source.flaw? = some fault) :
    fault.IsOfBody := by
  unfold flaw? at h
  dsimp only at h
  split at h
  · obtain rfl := Option.some.inj h
    exact .sourceHoldsNul
  · split at h
    · exact nomatch h
    · obtain rfl := Option.some.inj h
      exact .controllerRaised _

theorem failsWithin_perform (loading place : Nat) (members : List Member) (names : Assoc Object) :
    FailsWithin IsOfBody (perform loading place members names) := by
  induction members generalizing place names with
  | nil => exact .ok names
  | cons member members ih =>
    cases member with
    | define word thing => exact ih _ _
    | synonym word target =>
      unfold perform
      split
      · exact ih _ _
      · exact .error .undefinedName
    | delete word =>
      unfold perform
      split
      · exact ih _ _
      · exact .error .undefinedName

theorem isOfBody_raised (names : Assoc Object) (r : Raised) : (raised names r).IsOfBody := by
  unfold raised
  split
  · unfold raising
    split
    · split
      · exact .controllerRaised _
      · exact .badArguments
    · exact .handlerRaised _
    · exact .badArguments
  · exact .undefinedName

theorem failsWithin_run (source : Source) (p : Path) (loading : Nat) :
    FailsWithin IsOfBody (source.run p loading) := by
  unfold run
  split
  · rename_i fault h
    exact .error (isOfBody_of_flaw h)
  · refine (failsWithin_perform _ _ _ _).bind fun names => ?_
    split
    · exact .error (isOfBody_raised names _)
    · exact .ok names

end Source

theorem Remarks.failsWithin_read (data : List UInt8) :
    FailsWithin IsOfBody (Remarks.read data) := by
  unfold Remarks.read
  split
  · exact .error .sourceHoldsNul
  · split
    · exact .ok ()
    · exact .error (.controllerRaised _)

namespace ControllerCache

theorem failsWithin_hasFile (t : FileTree) (p : Path) : FailsWithin IsOfLoading (t.hasFile p) := by
  unfold FileTree.hasFile
  split
  · exact .ok true
  · exact .error .nameTooLong
  · exact .ok false

theorem failsWithin_find (t : FileTree) (base : Path) (name : Text) :
    FailsWithin IsOfLoading (find t base name) := by
  refine (failsWithin_hasFile t _).bind fun isFile => ?_
  split
  · exact .ok _
  · refine (failsWithin_hasFile t _).bind fun isPackage => ?_
    split <;> exact .ok _

theorem failsWithin_carryOut (t : FileTree) (p : Path) (loading : Nat) :
    FailsWithin IsOfBody (carryOut t p loading) := by
  unfold carryOut
  split
  · exact Source.failsWithin_run _ _ _
  · exact (Remarks.failsWithin_read _).bind fun _ => .ok _
  · exact (Remarks.failsWithin_read _).bind fun _ => .ok _
  · exact .ok _

theorem isOfLoading_passOn {fault : Fault} (h : fault.IsOfBody) (name : Text) (p : Path) :
    (passOn name p fault).IsOfLoading := by
  unfold passOn
  split
  · split
    · exact .missingController _ _ _
    · exact .body h
  · exact .body h

theorem failsWithin_execute (t : FileTree) (base : Path) (count : Nat) (name : Text) :
    FailsWithin IsOfLoading (execute t base count name) := by
  refine (failsWithin_find t base name).bind fun found => ?_
  split
  · exact .error (.missingController _ _ _)
  · split
    · rename_i p _ fault h
      exact .error (isOfLoading_passOn (failsWithin_carryOut t p count fault h) name p)
    · exact .ok _

end ControllerCache

/-! ### No controller speaks of lines -/

/-- The number of the line that a fault names, if it names one. -/
def Fault.lineNumber? : Fault → Option Int
  | .malformedLine _ _ number => number
  | _ => none

/-- A computation whose fault names no line. -/
abbrev NamesNoLine {α : Type} (x : Except Fault α) : Prop :=
  FailsWithin (fun fault => fault.lineNumber? = none) x

theorem Module.namesNoLine_exports (m : Module) : NamesNoLine m.exports := by
  refine m.failsWithin_exports.mono fun fault h => ?_
  rcases h with h | _ | _
  · cases h <;> rfl
  · rfl
  · rfl

theorem ControllerCache.namesNoLine_execute (t : FileTree) (base : Path) (count : Nat)
    (name : Text) : NamesNoLine (execute t base count name) := by
  refine (failsWithin_execute t base count name).mono fun fault h => ?_
  rcases h with h | _ | _
  · cases h <;> rfl
  · rfl
  · rfl

/-! ### What becomes of a target -/

theorem FolderMark.namesNoLine_isAtStart (s : Text) (starts : List Value) :
    NamesNoLine (isAtStart s starts) := by
  fun_induction isAtStart s starts
  case case1 => exact .ok false
  case case2 => exact .ok true
  case case3 ih => exact ih
  case case4 => exact .error rfl

theorem FolderMark.namesNoLine_directory? (mark : FolderMark) (s : Text) :
    NamesNoLine (mark.directory? s) := by
  refine (namesNoLine_isAtStart s mark.starts).bind fun isFolder => ?_
  split <;> exact .ok _

theorem Target.namesNoLine_ofText? (marks : Marks) (s : Text) :
    NamesNoLine (Target.ofText? marks s) := by
  refine (marks.folderMark.namesNoLine_directory? s).bind fun found => ?_
  split <;> exact .ok _

theorem Verb.namesNoLine_ofRoute (word path : Text) : NamesNoLine (Verb.ofRoute word path) := by
  unfold ofRoute
  split
  · exact .ok _
  · exact .error rfl

theorem Entry.namesNoLine_ofCallable (verb pattern controller method : Text) :
    NamesNoLine (Entry.ofCallable verb pattern controller method) :=
  (Verb.namesNoLine_ofRoute verb pattern).bind fun _ => .ok _

theorem Entry.namesNoLine_ofDirectory (verb pattern directory : Text) :
    NamesNoLine (Entry.ofDirectory verb pattern directory) :=
  (Verb.namesNoLine_ofRoute verb pattern).bind fun _ => .ok _

end Routing
