import Routing.Glob.Pieces
import Routing.Settings
import Routing.Value.Keyed

/-!
# The configuration store

Every plugin owns scopes: one for the base level and one for each target, in the order in which they
were first written.  A target is an action or a glob of actions; other values are let in and can be
asked for by nobody.  A scope holds settings and a switch.  `merged` is what holds for an action:
the base settings, then those of every target that matches it, in order.  `isEnabled` looks at
switches only.
-/

namespace Routing

/-- What is written for one target: settings, and a switch if it has been set. -/
structure Scope where
  settings : Settings
  switch : Option Bool
  deriving DecidableEq

/-- The scopes of a plugin, by target. -/
abbrev Scopes := Keyed Scope

/-- The scopes of the plugins, by name. -/
abbrev Store := Assoc Scopes

/-- The target of the base level. -/
def baseLevel : Text := "--base--"

namespace Scope

def empty : Scope := ⟨[], none⟩

/-- The scope of the base level as it is at first. -/
def base : Scope := ⟨[("enabled", .bool true)], none⟩

end Scope

namespace Scopes

/-- Writes settings into a target's scope; no settings write nothing, not even the scope. -/
def write (target : Value) (settings : Settings) (scopes : Scopes) : Scopes :=
  if settings = [] then scopes
  else
    Keyed.update target Scope.empty
      (fun scope => { scope with settings := Assoc.merge scope.settings settings }) scopes

/-- Sets the switch of an action or of the base level. -/
def setSwitch (target : Text) (on : Bool) (scopes : Scopes) : Scopes :=
  Keyed.update (.text target) Scope.empty (fun scope => { scope with switch := some on }) scopes

/-- The settings of the base level. -/
def baseSettings (scopes : Scopes) : Settings :=
  match Keyed.get? (.text baseLevel) scopes with
  | some scope => scope.settings
  | none => []

/-- Whether a target other than the base level speaks of an action. -/
def speaksOf (action : Text) : Value → Except Fault Bool
  | .scalar (.text target) => .ok (target != baseLevel && Glob.isMatch target action)
  | .collection .tuple pieces => do return Glob.matchesAll (← Glob.ofPieces pieces) action
  | .collection .fixedSet [] => .ok (Glob.matchesAll [] action)
  | _ => .error .globNotText

/-- Settings and those of one scope after them, if its target speaks of an action. -/
def mergeScope (action : Text) (settings : Settings) (p : Value × Scope) : Except Fault Settings := do
  if ← speaksOf action p.1 then return Assoc.merge settings p.2.settings else return settings

/-- The settings that hold for an action, or at the base level; the empty action is no action. -/
def merged (action : Option Text) (scopes : Scopes) : Except Fault Settings :=
  match action with
  | none | some [] => .ok scopes.baseSettings
  | some action => scopes.foldlM (mergeScope action) scopes.baseSettings

/-- The switch of an action or of the base level, if it has been set. -/
def switch? (target : Text) (scopes : Scopes) : Option Bool :=
  (Keyed.get? (.text target) scopes).bind Scope.switch

/-- Whether the plugin is on for an action: by the action's own switch, else by that of the base
level, else yes. -/
def isEnabled (action : Text) (scopes : Scopes) : Bool :=
  ((scopes.switch? action).orElse fun _ => scopes.switch? baseLevel).getD true

end Scopes

namespace Store

/-- The store with scopes for the plugin, the base scope among them. -/
def withScopes (plugin : Text) (store : Store) : Store :=
  Assoc.adjust plugin (Keyed.update (.text baseLevel) Scope.base id) (Assoc.ensure plugin [] store)

/-- The scopes of a plugin, the base scope among them. -/
def scopes (plugin : Text) (store : Store) : Scopes :=
  (Assoc.get? plugin (store.withScopes plugin)).getD []

/-- Writes settings into a target's scope of a plugin; the target has to be a key. -/
def write (plugin : Text) (target : Value) (settings : Settings) (store : Store) :
    Except Fault Store :=
  if settings = [] then .ok store
  else if target.isKey then
    .ok (Assoc.adjust plugin (Scopes.write target settings) (store.withScopes plugin))
  else .error .unusableKey

def setSwitch (plugin target : Text) (on : Bool) (store : Store) : Store :=
  Assoc.adjust plugin (Scopes.setSwitch target on) (store.withScopes plugin)

end Store

end Routing
