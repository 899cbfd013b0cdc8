import Routing.Assoc
import Routing.Verb

/-!
# Entries

What a table is made of: endpoints, which a controller's callable serves, and folders, whose files
are served as they are.  A wildcard stands for one endpoint per exported callable of its controller;
it is expanded before an entry is made of it, so its verb is still as it was written.
-/

namespace Routing

/-- A pattern served by a callable of a controller. -/
structure Endpoint where
  verb : Verb
  pattern : Text
  controller : Text
  method : Text
  deriving DecidableEq

/-- A directory whose files are served under a pattern. -/
structure Folder where
  verb : Verb
  pattern : Text
  directory : Text
  deriving DecidableEq

/-- A line that stands for one endpoint per exported callable. -/
structure Wildcard where
  verb : Text
  pattern : Text
  controller : Text
  deriving DecidableEq

/-- The name under which an endpoint is looked up and configured. -/
def Endpoint.action (e : Endpoint) : Text := e.controller ++ '.' :: e.method

inductive Entry where
  | endpoint (e : Endpoint)
  | folder (f : Folder)
  deriving DecidableEq

namespace Entry

def verb : Entry → Verb
  | .endpoint e => e.verb
  | .folder f => f.verb

def pattern : Entry → Text
  | .endpoint e => e.pattern
  | .folder f => f.pattern

def endpoint? : Entry → Option Endpoint
  | .endpoint e => some e
  | .folder _ => none

/-- The action of an entry that is an endpoint. -/
def action? (entry : Entry) : Option Text := entry.endpoint?.map Endpoint.action

/-- What is said of an entry. -/
def described : Entry → Assoc Text
  | .endpoint e => [("verb", e.verb.name), ("pattern", e.pattern), ("action", e.action),
      ("controller", e.controller), ("method", e.method)]
  | .folder f => [("verb", f.verb.name), ("pattern", f.pattern), ("static", f.directory)]

/-- An endpoint with its verb as written. -/
def ofCallable (verb pattern controller method : Text) : Except Fault Entry := do
  let verb ← Verb.ofRoute verb pattern
  pure (.endpoint ⟨verb, pattern, controller, method⟩)

/-- A folder with its verb as written. -/
def ofDirectory (verb pattern directory : Text) : Except Fault Entry := do
  let verb ← Verb.ofRoute verb pattern
  pure (.folder ⟨verb, pattern, directory⟩)

end Entry

end Routing
