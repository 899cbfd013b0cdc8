import Routing.Controller.Source
import Routing.Path

/-!
# File trees

The files that paths lead to.  A tree hangs at the working directory; outside it there are
directories above and nothing else.  A path is walked part by part, and each part but the last has
to be a directory, also where a double dot follows.
-/

namespace Routing

/-- What a file holds. -/
inductive Content where
  | text (s : Text)
  | bytes (data : List UInt8)
  | controller (source : Source)
  deriving DecidableEq

inductive Node where
  | directory
  | file (content : Content)
  deriving DecidableEq

/-- What a path leads to, or why it leads nowhere. -/
inductive Lookup where
  | directory
  | file (content : Content)
  | missing
  /-- Something on the way is no directory. -/
  | notDirectory
  | tooLong
  /-- The path has a character that no path can have. -/
  | unusable
  deriving DecidableEq

/-- The nodes below the working directory, and the working directory's own path. -/
structure FileTree where
  home : Path
  nodes : List (List Text × Node)
  deriving DecidableEq

namespace FileTree

/-- Where a walk stands: in the tree, in a directory above it, or at nothing. -/
inductive Place where
  | inside (parts : List Text)
  | above
  | nowhere
  deriving DecidableEq

/-- The node of some parts below the working directory. -/
def node? (parts : List Text) : List (List Text × Node) → Option Node
  | [] => none
  | (p, node) :: rest => if p = parts then some node else node? parts rest

def look (t : FileTree) : Place → Lookup
  | .inside [] => .directory
  | .inside parts =>
    match node? parts t.nodes with
    | some .directory => .directory
    | some (.file content) => .file content
    | none => .missing
  | .above => .directory
  | .nowhere => .missing

def Place.parent : Place → Place
  | .inside [] => .above
  | .inside parts => .inside parts.dropLast
  | place => place

def Place.child (part : Text) : Place → Place
  | .inside parts => .inside (parts ++ [part])
  | _ => .nowhere

/-- The length of a text in bytes. -/
def byteLength (s : Text) : Nat := (s.map Char.utf8Size).foldl (· + ·) 0

def greatestPart : Nat := 255

def greatestPath : Nat := 4095

def walk (t : FileTree) : Place → List Text → Lookup
  | place, [] => t.look place
  | place, part :: rest =>
    match t.look place with
    | .directory =>
      if part = ".." then walk t place.parent rest
      else if greatestPart < byteLength part then .tooLong
      else walk t (place.child part) rest
    | .file _ => .notDirectory
    | other => other

/-- The parts of a path below the working directory, if it starts with the directory's own path. -/
def belowHome? (t : FileTree) (p : Path) : Option (List Text) :=
  if p.anchor = t.home.anchor ∧ t.home.parts.isPrefixOf p.parts then
    some (p.parts.drop t.home.parts.length)
  else none

/-- What a path leads to. -/
def lookup (t : FileTree) (p : Path) : Lookup :=
  if '\x00' ∈ p.text then .unusable
  else if greatestPath < byteLength p.text then .tooLong
  else
    match t.belowHome? p with
    | some parts => t.walk (.inside []) parts
    | none => t.walk (if p.isAbsolute then .above else .inside []) p.parts

/-- Whether a path leads to a file; a path that is too long for an answer is a fault. -/
def hasFile (t : FileTree) (p : Path) : Except Fault Bool :=
  match t.lookup p with
  | .file _ => .ok true
  | .tooLong => .error .nameTooLong
  | _ => .ok false

def hasDirectory (t : FileTree) (p : Path) : Except Fault Bool :=
  match t.lookup p with
  | .directory => .ok true
  | .tooLong => .error .nameTooLong
  | _ => .ok false

/-- The parts of a path with every double dot carried out. -/
def resolved (parts : List Text) : List Text :=
  parts.foldl (fun done (part : Text) =>
    if part = ".." then done.dropLast else done ++ [part]) []

/-- Puts a node in place of what was there. -/
def setNode (parts : List Text) (node : Node) (nodes : List (List Text × Node)) :
    List (List Text × Node) :=
  (nodes.filter fun p => p.1 != parts) ++ [(parts, node)]

/-- Makes the directories that lead to some parts, where there is nothing yet. -/
def withParents (parts : List Text) (nodes : List (List Text × Node)) : List (List Text × Node) :=
  (List.range parts.length).foldl (fun nodes n =>
    match n, node? (parts.take n) nodes with
    | 0, _ => nodes
    | _, some _ => nodes
    | _, none => nodes ++ [(parts.take n, .directory)]) nodes

/-- Writes a node at a path, with the directories that lead to it. -/
def write (p : Path) (node : Node) (t : FileTree) : FileTree :=
  let parts := resolved p.parts
  { t with nodes := setNode parts node (withParents parts t.nodes) }

/-- Removes what a path leads to and all below it. -/
def remove (p : Path) (t : FileTree) : FileTree :=
  { t with nodes := t.nodes.filter fun q => !(resolved p.parts).isPrefixOf q.1 }

end FileTree

end Routing
