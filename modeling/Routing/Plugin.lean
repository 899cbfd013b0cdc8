import Routing.Entry
import Routing.Step
import Routing.Store

/-!
# Plugins

A plugin class says what it is called, which settings it accepts, what it does with each entry of a
table and what kind of layer it puts around a handler.  What it accepts, what it does with entries
and what it counts calls under are functions, which may be any.  A class without an acceptance of its
own takes flags only.  An attached plugin is an instance of its class with what it has been told of
so far.

`Plugin.configureInTurn` configures a plugin, one target after the other.  `Plugin.configure` is what
it comes to as a whole, a new store or a fault.
-/

namespace Routing

/-- What a plugin does when it is told of an entry under the settings of its base level. -/
structure Hook where
  /-- Whether it keeps a record of entries that can be asked for. -/
  records : Bool
  /-- What it says of an entry that it refuses. -/
  refusal? : Settings → Entry → Option Text

namespace Hook

/-- Takes no notice of entries. -/
def silent : Hook := ⟨false, fun _ _ => none⟩

def recording : Hook := ⟨true, fun _ _ => none⟩

/-- Refuses the pattern set as `reject`, and records all other entries. -/
def refusing : Hook where
  records := true
  refusal? base entry :=
    if Assoc.get? "reject" base = some (.text entry.pattern) then
      some ("picky: ".toList ++ entry.pattern)
    else none

end Hook

/-- What the layer of a plugin does: the library's own pass calls on or report them, and a plugin
that its callers may want counts them. -/
inductive LayerKind where
  /-- Calls on at once. -/
  | pass
  /-- Reports the start and the end of the call. -/
  | report
  /-- Counts the call and calls on.  What it counts under is settled when the layer is made, by what
  is set for the action then. -/
  | count (label : Settings → Value)

/-- Whether a layer reports calls. -/
def LayerKind.reports : LayerKind → Bool
  | .report => true
  | _ => false

structure PluginClass where
  /-- Tells the class from others, which may have its name and its code. -/
  identity : Nat
  className : Text
  code : Text
  description : Text
  /-- What it accepts for its settings, if it has any. -/
  acceptance : Option Acceptance
  hook : Hook
  layer : LayerKind

/-- Where the reports of a plugin go. -/
inductive Sink where
  /-- To the logger of the library. -/
  | shared
  /-- To a logger of the caller's own that has someone listening. -/
  | own
  /-- To a logger of the caller's own that has nobody listening. -/
  | unheard
  /-- To something of the caller's own that is no logger. -/
  | unusable
  deriving DecidableEq

/-- A plugin that is attached to a router. -/
structure Plugin where
  cls : PluginClass
  sink : Sink
  /-- The entries that it has been told of and has not refused, oldest first. -/
  seen : List Entry
  /-- The calls counted, each with its label and its action, oldest first. -/
  calls : List (Value × Text)

namespace PluginClass

def enabledSetting : Declared := ⟨"enabled", .bool, false⟩

/-- Reports every call with the time it took. -/
def logging : PluginClass where
  identity := 0
  className := "LoggingPlugin"
  code := "logging"
  description := "Logs handler calls with timing"
  acceptance := some <| Settings.faults <| enabledSetting ::
    ["before".toList, "after".toList, "log".toList, "print".toList].map fun name =>
      ⟨name, .bool, false⟩
  hook := .silent
  layer := .report

/-- Records entries and counts calls under a label. -/
def counting : PluginClass where
  identity := 1
  className := "CountingPlugin"
  code := "counting"
  description := "Counts entries and calls"
  acceptance := some (Settings.faults [enabledSetting, ⟨"label", .text, false⟩])
  hook := .recording
  layer := .count fun settings => (Assoc.get? "label" settings).getD (.text "counting")

/-- A second plugin that counts, for stacking. -/
def outer : PluginClass :=
  { counting with
    identity := 2, className := "OuterPlugin", code := "outer", description := "Counts outside" }

/-- Does nothing and accepts nothing. -/
def plain : PluginClass where
  identity := 3
  className := "PlainPlugin"
  code := "plain"
  description := []
  acceptance := none
  hook := .silent
  layer := .pass

/-- Refuses one pattern. -/
def picky : PluginClass where
  identity := 4
  className := "PickyPlugin"
  code := "picky"
  description := "Rejects one pattern"
  acceptance := some (Settings.faults [⟨"reject", .text, true⟩, ⟨"note", .text, false⟩])
  hook := .refusing
  layer := .pass

/-- A class without a code. -/
def nameless : PluginClass := { plain with identity := 5, className := "NoCode", code := [] }

/-- A class with the code of another. -/
def impostor : PluginClass :=
  { plain with identity := 6, className := "Impostor", code := "logging" }

end PluginClass

/-- The plugin classes that a router can be asked for, by name. -/
abbrev Registry := Assoc PluginClass

namespace Registry

/-- The registry as it is at first. -/
def initial : Registry := [(PluginClass.logging.code, PluginClass.logging)]

/-- Registers a class, under its code or under a name of its own.  A code that is taken is refused,
a name is not. -/
def register (cls : PluginClass) (name : Option Text) (registry : Registry) :
    Except Fault Registry :=
  if cls.code = [] then .error (.pluginWithoutCode cls.className)
  else
    match name with
    | none =>
      match Assoc.get? cls.code registry with
      | some other =>
        if other.identity = cls.identity then .ok registry else .error (.pluginCodeTaken cls.code)
      | none => .ok (Assoc.set cls.code cls registry)
    | some [] => .ok (Assoc.set cls.code cls registry)
    | some name => .ok (Assoc.set name cls registry)

/-- The names and what they stand for, in the order of the names. -/
def listing (registry : Registry) : List (Text × PluginClass) :=
  registry.mergeSort fun p q => Text.precedes p.1 q.1

end Registry

namespace Plugin

def name (p : Plugin) : Text := p.cls.code

/-- Settings that say where they belong and not what they are. -/
def targetName : Text := "_target"

def flagsName : Text := "flags"

/-- The target named among given settings. -/
def targetOf (given : Settings) : Value := (Assoc.get? targetName given).getD (.text baseLevel)

/-- Whether there is a comma in a target: in a text, among the elements of a collection, or among
the keys of an object.  The elements of a data model are fields, and none of them is a comma. -/
def holdsComma : Value → Except Fault Bool
  | .scalar (.text target) => .ok (decide (',' ∈ target))
  | .collection _ elements => .ok (elements.contains (.text ","))
  | .object (.model _) _ => .ok false
  | .object _ fields => .ok ((fields.map Prod.fst).contains (.text ","))
  | _ => .error .targetNotText

/-- The targets that a target with commas stands for. -/
def divided : Value → Except Fault (List Text)
  | .scalar (.text target) => .ok (Settings.chunks target)
  | _ => .error .targetNotDivisible

/-- The settings spelled by flags; flags that are false in any way spell none. -/
def flagSettings : Option Value → Except Fault Settings
  | none => .ok []
  | some v =>
    if v.isTrue then
      match v with
      | .scalar (.text flags) => .ok (Settings.ofFlags flags)
      | .scalar (.bytes _) => .error .flagsInBytes
      | _ => .error .flagsNotText
    else .ok []

/-- The settings among those given that are meant for the plugin. -/
def meant (given : Settings) : Settings :=
  given.filter fun p => p.1 != targetName && p.1 != flagsName

/-- Writes settings into one target's scope once they have been accepted. -/
def configureOne (plugin : Text) (acceptance : Acceptance) (target : Value) (settings : Settings)
    (store : Store) : Except Fault Store := do
  Settings.check acceptance settings
  store.write plugin target settings

/-- One of several targets.  Here settings that came from flags can still get in the way of the
names that a target is given with. -/
def configureAmong (plugin : Text) (acceptance : Acceptance) (settings : Settings) (store : Store)
    (target : Text) : Except Fault Store := do
  if (Assoc.get? Settings.ownName settings).isSome ∨ (Assoc.get? targetName settings).isSome then
    throw .settingGivenTwice
  let more ← flagSettings (Assoc.get? flagsName settings)
  configureOne plugin acceptance (.text target) (Assoc.merge (Assoc.erase flagsName settings) more)
    store

/-- A plugin with an acceptance of its own as it is configured, for one target or for several with
commas between them. -/
def configureAccepting (plugin : Text) (acceptance : Acceptance) (given : Settings)
    (store : Store) : Except Fault Store := do
  let flags ← flagSettings (Assoc.get? flagsName given)
  let settings := Assoc.merge (meant given) flags
  let target := targetOf given
  if ← holdsComma target then
    (← divided target).foldlM (configureAmong plugin acceptance settings) store
  else
    configureOne plugin acceptance target settings store

/-- Configures a plugin that takes flags only.  Commas in its target are part of the target. -/
def configurePlain (plugin : Text) (given : Settings) (store : Store) : Except Fault Store := do
  if meant given ≠ [] then throw .unexpectedSetting
  let flags ← flagSettings (Assoc.get? flagsName given)
  store.write plugin (targetOf given) flags

/-- Configures a plugin with an acceptance of its own for several targets, one after the other: what
has been written for some of them stays written if the next one fails. -/
def configureEach (plugin : Text) (acceptance : Acceptance) (settings : Settings)
    (targets : List Text) : Step Store Unit :=
  Step.forEach (fun target =>
    Step.alter fun store => configureAmong plugin acceptance settings store target) targets

/-- Configures a plugin of a class, target by target. -/
def configureInTurn (cls : PluginClass) (given : Settings) : Step Store Unit :=
  if (Assoc.get? Settings.ownName given).isSome then Step.fail .settingGivenTwice
  else
    match cls.acceptance with
    | some acceptance => do
      let flags ← Step.ofExcept (flagSettings (Assoc.get? flagsName given))
      let settings := Assoc.merge (meant given) flags
      let target := targetOf given
      if ← Step.ofExcept (holdsComma target) then
        configureEach cls.code acceptance settings (← Step.ofExcept (divided target))
      else
        Step.alter (configureOne cls.code acceptance target settings)
    | none => Step.alter (configurePlain cls.code given)

/-- A plugin of a class as it is configured for all targets at once, or what is wrong. -/
def configure (cls : PluginClass) (given : Settings) (store : Store) : Except Fault Store :=
  if (Assoc.get? Settings.ownName given).isSome then .error .settingGivenTwice
  else
    match cls.acceptance with
    | some acceptance => configureAccepting cls.code acceptance given store
    | none => configurePlain cls.code given store

/-- Tells the plugin of an entry, under the settings of its base level. -/
def notify (base : Settings) (entry : Entry) (p : Plugin) : Except Fault Plugin :=
  match p.cls.hook.refusal? base entry with
  | some message => .error (.entryRejected message)
  | none => .ok { p with seen := p.seen ++ [entry] }

end Plugin

end Routing
