import Routing.Controller.Cache
import Routing.Directive
import Routing.Entry

/-!
# Expanding a line into entries

A target is one of three things.  If it starts with the folder mark, the rest of it is a directory,
dots and all.  Otherwise it is a controller and a method around the first dot, and the method that
is the wildcard stands for every export of the controller.

A folder mark may be several texts, any of which marks a folder; what is cut off then is as many
characters as there are texts.  A mark is asked what it is when it is first compared with a target.
-/

namespace Routing

/-- What targets of folders start with, and how many characters make way for the directory. -/
structure FolderMark where
  starts : List Value
  width : Nat
  deriving DecidableEq

namespace FolderMark

/-- A value as a folder mark. -/
def ofValue : Value → FolderMark
  | .scalar (.text s) => ⟨[.text s], s.length⟩
  | .collection .tuple starts => ⟨starts, starts.length⟩
  | v => ⟨[v], 0⟩

/-- Whether a target starts with one of some texts, which are tried in order. -/
def isAtStart (s : Text) : List Value → Except Fault Bool
  | [] => .ok false
  | .scalar (.text start) :: starts =>
    if start.isPrefixOf s then .ok true else isAtStart s starts
  | _ :: _ => .error .optionNotText

/-- The directory that a target names, if the mark is at its start. -/
def directory? (mark : FolderMark) (s : Text) : Except Fault (Option Text) := do
  if ← isAtStart s mark.starts then return some (s.drop mark.width) else return none

end FolderMark

/-- What marks folders and wildcards among targets. -/
structure Marks where
  folderMark : FolderMark := FolderMark.ofValue (.text "staticDir:")
  wildcard : Text := "\x7bmethod\x7d"
  deriving DecidableEq

inductive Target where
  | folder (directory : Text)
  | wildcard (controller : Text)
  | endpoint (controller method : Text)
  deriving DecidableEq

namespace Target

/-- The target around the first dot; nothing if it lacks a controller or a method. -/
def ofDotted? (wildcard s : Text) : Option Target :=
  let (controller, method) := Text.cutAt '.' s
  if controller = [] ∨ method = [] then none
  else if method = wildcard then some (.wildcard controller)
  else some (.endpoint controller method)

/-- What a target is. -/
def ofText? (marks : Marks) (s : Text) : Except Fault (Option Target) := do
  match ← marks.folderMark.directory? s with
  | some directory => return some (.folder directory)
  | none => return ofDotted? marks.wildcard s

end Target

/-- What lines are expanded with: the words that mark targets, and the directory that folders
are relative to, if there is one. -/
structure Expander where
  marks : Marks
  folderRoot : Option Path
  deriving DecidableEq

namespace Expander

/-- The directory of a folder target. -/
def directory (x : Expander) (s : Text) : Text :=
  match x.folderRoot with
  | none => (Path.ofText s).text
  | some root => (root.joinText s).text

/-- The entries of a wildcard for some exports of its controller. -/
def wildcardEntries (x : Expander) (w : Wildcard) (names : List Text) :
    Except Fault (List Entry) :=
  names.mapM fun name =>
    Entry.ofCallable w.verb (Text.replaceAll x.marks.wildcard name w.pattern) w.controller name

/-- The entries of a wildcard: one for each export of its controller. -/
def expandWildcard (x : Expander) (t : FileTree) (w : Wildcard) :
    Step ControllerCache (List Entry) := do
  let m ← ControllerCache.fetch t w.controller
  let names ← Step.ofExcept m.exports
  let entries ← Step.ofExcept (x.wildcardEntries w names)
  Step.log .debug ("Expanded ".toList ++ w.controller ++ '.' :: x.marks.wildcard ++
    " into ".toList ++ Text.ofNat entries.length ++ " routes".toList)
  pure entries

/-- The entries of a line. -/
def expand (x : Expander) (t : FileTree) (verb path target : Text) :
    Step ControllerCache (List Entry) := do
  match ← Step.ofExcept (Target.ofText? x.marks target) with
  | none =>
    Step.fail (.malformedLine (Text.joinWith " " [verb, path, target])
      "target must be '<controller>.<method>'" none)
  | some (.folder s) => do
    let entry ← Step.ofExcept (Entry.ofDirectory verb path (x.directory s))
    pure [entry]
  | some (.wildcard controller) => x.expandWildcard t ⟨verb, path, controller⟩
  | some (.endpoint controller method) => do
    let entry ← Step.ofExcept (Entry.ofCallable verb path controller method)
    pure [entry]

end Expander

end Routing
