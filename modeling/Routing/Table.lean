import Routing.Assoc
import Routing.Directive
import Routing.Entry
import Routing.Step

/-!
# The route table

A table holds nothing until it is first needed.  Then its source is read, each line is expanded, and
each entry is announced; only when all of that has gone well are the entries kept, and from
then on none of it happens again: `run_access_of_built`.  A search goes through the entries one by
one: `run_walk_of_built`.
-/

namespace Routing

/-- The entries of a table, once it is built. -/
abbrev Table := Option (List Entry)

namespace Table

variable {σ : Type}

/-- What a table is built from: where its lines come from, what each becomes, and who is told of
each entry. -/
structure Recipe (σ : Type) where
  lines : Step σ (List Directive)
  expand : Directive → Step σ (List Entry)
  announce : Entry → Step σ Unit

/-- One attempt at the entries. -/
def Recipe.entries (r : Recipe σ) : Step σ (List Entry) := do
  let lines ← r.lines
  let entries ← Step.flatMapList r.expand lines
  Step.forEach r.announce entries
  pure entries

/-- The entries of a table that is a part of the state, built if they have not been. -/
def access (cell : Part σ Table) (r : Recipe σ) : Step σ (List Entry) := do
  match cell.get (← Step.read) with
  | some entries => pure entries
  | none =>
    let entries ← r.entries
    Step.modify (cell.set (some entries))
    Step.log .debug ("Route table built with ".toList ++ Text.ofNat entries.length ++
      " entries".toList)
    pure entries

/-- The entries of a table that is a part of the state, for a search that goes through them one by
one.  The search has begun when the table is built. -/
def walk (cell : Part σ Table) (r : Recipe σ) : Step σ (List Entry) :=
  Step.mapFault Fault.leavingSearch (access cell r)

/-- The endpoints of an action, in order. -/
def endpointsOf (action : Text) (entries : List Entry) : List Endpoint :=
  (entries.filterMap Entry.endpoint?).filter fun e => e.action == action

/-- Notes the action of an entry, unless it has been noted.  A folder has none. -/
def noteAction (seen : Assoc Unit) : Entry → Assoc Unit
  | .endpoint e => Assoc.ensure e.action () seen
  | .folder _ => seen

/-- The actions of a table in the order in which they first occur, none twice. -/
def actions (entries : List Entry) : List Text := (entries.foldl noteAction []).keys

/-- Puts the pattern of an entry last among those of its action. -/
def addPattern (groups : Assoc (List Text)) : Entry → Assoc (List Text)
  | .endpoint e => Assoc.adjust e.action (· ++ [e.pattern]) (Assoc.ensure e.action [] groups)
  | .folder _ => groups

/-- The patterns under each action, in one pass. -/
def patternsByAction (entries : List Entry) : Assoc (List Text) := entries.foldl addPattern []

/-- A built table answers without reading, expanding or announcing anything. -/
theorem run_access_of_built {cell : Part σ Table} {s : σ} {entries : List Entry}
    (h : cell.get s = some entries) (r : Recipe σ) :
    (access cell r).run s = ⟨[], s, .ok entries⟩ := by
  simp [access, h]

/-- Going through a built table is as good as having its entries. -/
theorem run_walk_of_built {cell : Part σ Table} {s : σ} {entries : List Entry}
    (h : cell.get s = some entries) (r : Recipe σ) :
    (walk cell r).run s = ⟨[], s, .ok entries⟩ := by
  have ha := run_access_of_built h r
  rw [walk, Step.run_mapFault_of_result (by rw [ha]), ha]

end Table

end Routing
