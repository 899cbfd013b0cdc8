import Routing.Controller
import Routing.Verb

/-!
# Handlers

A handler is a controller's callable with the layers that were put around it when it was bound.
What a layer does is decided when it is called.
-/

namespace Routing

/-- What a layer does when its plugin is on. -/
inductive LayerAction where
  | pass
  | report
  | count (label : Value)
  deriving DecidableEq

/-- A layer, and the plugin it belongs to. -/
structure Layer where
  plugin : Text
  action : LayerAction
  deriving DecidableEq

structure Handler where
  /-- The action of the endpoint it was made for. -/
  action : Text
  callable : Object
  /-- The outermost layer comes first. -/
  layers : List Layer
  deriving DecidableEq

/-- A route as a host has it. -/
structure Route where
  verb : Verb
  pattern : Text
  handler : Handler
  deriving DecidableEq

namespace Handler

/-- The name a handler goes by: that of the callable, also through layers. -/
def name? (h : Handler) : Option Text :=
  match h.callable.thing.name?, h.layers with
  | some name, _ => some name
  | none, [] => none
  | none, _ :: _ => some "wrapper"

/-- Whether two handlers are one and the same: a callable without layers is itself, and layers make
a new one each time. -/
def same (g h : Handler) : Bool := g.layers == [] && h.layers == [] && g.callable.same h.callable

/-- For each handler, the place of the first that is the same. -/
def firstSame (handlers : List Handler) : List Nat :=
  handlers.mapIdx fun i h => ((handlers.take i).findIdx? fun g => g.same h).getD i

end Handler

end Routing
