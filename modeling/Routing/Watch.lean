import Routing.Expansion
import Routing.Table

/-!
# A watched table

A table by itself, without a router: its lines can be replaced, and a watcher may be told of every
entry.  The watcher refuses some entries, and which these are can be changed; it records the others.
-/

namespace Routing

structure Watch where
  files : FileTree
  controllers : ControllerCache
  table : Table
  /-- What the source will give when it is read. -/
  lines : List Text
  /-- Whether anyone is told of entries. -/
  isWatched : Bool
  /-- What the watcher says of an entry that it refuses. -/
  refusal? : Entry → Option Text
  /-- The entries that the watcher has been told of and has not refused, oldest first. -/
  seen : List Entry

namespace Watch

def cachePart : Part Watch ControllerCache := ⟨controllers, fun cache w => { w with controllers := cache }⟩

def tablePart : Part Watch Table := ⟨table, fun t w => { w with table := t }⟩

/-- Reads the lines, and is seen doing so. -/
def directives : Step Watch (List Directive) := do
  Step.emit .sourceRead
  Directive.ofLines (← Step.read).lines

def expandLine (line : Directive) : Step Watch (List Entry) := do
  let files := (← Step.read).files
  Step.on cachePart (Expander.expand ⟨{}, none⟩ files line.verb line.path line.target)

/-- Tells the watcher of an entry. -/
def tell (entry : Entry) : Step Watch Unit := do
  let w ← Step.read
  if !w.isWatched then pure ()
  else
    match w.refusal? entry with
    | some message => Step.fail (.entryRejected message)
    | none => Step.modify fun w => { w with seen := w.seen ++ [entry] }

def recipe : Table.Recipe Watch := ⟨directives, expandLine, tell⟩

/-- The entries of the table, which is built if it has not been. -/
def entries : Step Watch (List Entry) := Table.access tablePart recipe

/-- The endpoints of an action. -/
def endpointsOf (action : Text) : Step Watch (List Endpoint) :=
  return Table.endpointsOf action (← Table.walk tablePart recipe)

def setLines (lines : List Text) : Step Watch Unit := Step.modify fun w => { w with lines }

/-- What the watcher says if it refuses the entries of one pattern. -/
def refusalOf (pattern : Option Text) (entry : Entry) : Option Text :=
  if pattern = some entry.pattern then some ("boom ".toList ++ entry.pattern) else none

def refuse (refusal? : Entry → Option Text) : Step Watch Unit :=
  Step.modify fun w => { w with refusal? }

end Watch

end Routing
