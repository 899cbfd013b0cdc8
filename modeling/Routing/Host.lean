import Routing.Handler
import Routing.Value.Fields

/-!
# Hosts

What a router needs of a web application: a context to expose itself in, a way to register
handlers, by one method or by one for each verb, and a way to serve a directory.  A host keeps what
was asked of it, in order.
-/

namespace Routing

/-- Something that was asked of a host. -/
inductive HostCall where
  | register (verb : Verb) (pattern : Text) (name : Option Text)
  /-- The same, by the method of the verb. -/
  | registerVerb (verb : Verb) (pattern : Text) (name : Option Text)
  | serve (pattern directory : Text)
  deriving DecidableEq

structure Host where
  name : Text
  /-- Whether it has one method for all verbs. -/
  registers : Bool
  /-- The verbs for which it has methods. -/
  verbs : List Verb
  /-- The keys of its context, if that can hold any. -/
  context : Option (List Value)
  /-- The keys of its locals, if those can hold any. -/
  locals : Option (List Value)
  servesDirectories : Bool
  calls : List HostCall
  handlers : List Handler
  deriving DecidableEq

namespace Host

/-- Keys with one more, unless it is there. -/
def addKey (key : Value) (keys : List Value) : List Value :=
  if keys.any (·.sameKey key) then keys else keys ++ [key]

/-- Exposes a router under a key, in the context or else in the locals. -/
def expose (key : Value) (host : Host) : Except Fault Host :=
  match host.context, host.locals with
  | some keys, _ =>
    if key.isKey then .ok { host with context := some (addKey key keys) } else .error .unusableKey
  | none, some keys =>
    if key.isKey then .ok { host with locals := some (addKey key keys) } else .error .unusableKey
  | none, none => .error (.hostWithoutContext host.name)

/-- Serves a directory under a pattern. -/
def serve (pattern directory : Text) (host : Host) : Except Fault Host :=
  if host.servesDirectories then
    .ok { host with calls := host.calls ++ [.serve pattern directory] }
  else .error .hostCannotMount

/-- Registers a handler. -/
def register (r : Route) (host : Host) : Except Fault Host :=
  if host.registers then
    .ok { host with
      calls := host.calls ++ [.register r.verb r.pattern r.handler.name?]
      handlers := host.handlers ++ [r.handler] }
  else if r.verb ∈ host.verbs then
    .ok { host with
      calls := host.calls ++ [.registerVerb r.verb r.pattern r.handler.name?]
      handlers := host.handlers ++ [r.handler] }
  else .error (.hostCannotRegister host.name r.verb.name)

/-- The handler of a number; negative numbers count from the last. -/
def handlerAt? (host : Host) (index : Int) : Option Handler :=
  match index with
  | .ofNat n => host.handlers[n]?
  | .negSucc n => host.handlers.reverse[n]?

end Host

end Routing
