import Routing.Application

/-!
# Attaching and configuring plugins

A plugin is attached by the name under which its class is registered, configured at once, and told
of the entries of a table that is already built.  What was written before a fault stays: a plugin
whose settings are refused leaves its scopes behind, and one that refuses an entry stays attached.
-/

namespace Routing.Application

/-- A router that knows nothing of plugins has none of their attributes. -/
def needsPlugins : Step Application Unit := do
  if (← Step.read).router.pluggable then pure () else Step.fail .noSuchAttribute

/-- The settings under which things other than settings are handed to a new plugin. -/
def attachArguments : List Text := ["plugin".toList, "self".toList]

def routerArgument : Text := "router"

def loggerArgument : Text := "logger"

/-- The settings that reach the configuration of a new plugin: a plugin that reports takes a logger
for itself, any other finds it among its settings. -/
def settingsFor (cls : PluginClass) (given : Settings) (sink : Option Sink) : Settings :=
  if cls.layer.reports then Assoc.erase loggerArgument given
  else
    match sink with
    | none => given
    | some _ => Assoc.set loggerArgument (.code .function) given

/-- Where a new plugin sends its reports.  A plugin that reports can be given a logger of the
caller's own, by itself or among its settings. -/
def sinkFor (cls : PluginClass) (given : Settings) : Option Sink → Sink
  | some sink => sink
  | none =>
    if cls.layer.reports ∧ ((Assoc.get? loggerArgument given).getD .null).isTrue = true then
      .unusable
    else .shared

/-- The class of a name. -/
def classNamed (name : Value) : Step Application PluginClass := do
  let registry := (← Step.read).registry
  match name with
  | .scalar (.text name) =>
    match Assoc.get? name registry with
    | some cls => pure cls
    | none => Step.fail (.unknownPlugin name (registry.listing.map Prod.fst))
  | v => Step.fail (.pluginNameNotText v.typeName)

/-- Configures a plugin in the store. -/
def configureClass (cls : PluginClass) (given : Settings) : Step Application Unit :=
  Step.on storePart (Plugin.configureInTurn cls given)

/-- Attaches a plugin. -/
def attach (name : Value) (given : Settings) (sink : Option Sink) : Step Application Unit := do
  needsPlugins
  if attachArguments.any fun argument => (Assoc.get? argument given).isSome then
    Step.fail .settingGivenTwice
  let cls ← classNamed name
  if ((← Step.read).router.plugin? cls.code).isSome then
    Step.fail (.pluginAlreadyAttached cls.code)
  if (Assoc.get? routerArgument given).isSome then Step.fail .settingGivenTwice
  Step.modify fun app =>
    { app with router := { app.router with store := app.router.store.withScopes cls.code } }
  configureClass cls (settingsFor cls given sink)
  Step.modify fun app =>
    { app with router := { app.router with
        plugins := app.router.plugins ++ [⟨cls, sinkFor cls given sink, [], []⟩] } }
  Step.forEach (tell cls.code) ((← Step.read).router.table.getD [])

/-- Whether a name starts with an underscore. -/
def isHidden : Text → Bool
  | '_' :: _ => true
  | _ => false

/-- The attribute of a router that is the path of its routes file. -/
def pathAttribute : Text := "routes_path"

/-- The attributes that a router has of its own, none of which is a plugin. -/
def ownAttributes : List Text :=
  [pathAttribute, "options".toList, "loader".toList, "binder".toList, "factory".toList,
    "table".toList, "resolver".toList, "read_routes_file".toList, "get_routes".toList,
    "bind_routes".toList, "bind_url".toList, "reverse".toList, "actions".toList,
    "entries_for".toList, "members".toList, "register_plugin".toList, "available_plugins".toList,
    "plug".toList, "iter_plugins".toList, "get_config".toList, "set_plugin_enabled".toList,
    "is_plugin_enabled".toList]

/-- The attached plugin that the router has as an attribute. -/
def pluginAttribute (name : Text) : Step Application Plugin := do
  if name = pathAttribute then
    let _ ← Step.ofExcept (← Step.read).router.routesLocation
  if name ∈ ownAttributes then Step.fail .noSuchAttribute
  needsPlugins
  if isHidden name then Step.fail .noSuchAttribute
  else Step.ofExcept ((← Step.read).router.plugin name)

/-- The name of what the router has as an attribute: of a plugin, or of the routes file. -/
def attributeName (name : Text) : Step Application Text := do
  if name = pathAttribute then
    return (← Step.ofExcept (← Step.read).router.routesLocation).name
  else return (← pluginAttribute name).name

/-- A plugin that keeps a record of entries, by attribute. -/
def recordingAttribute (name : Text) : Step Application Plugin := do
  let p ← pluginAttribute name
  if p.cls.hook.records then return p else Step.fail .noSuchAttribute

/-- Configures an attached plugin. -/
def configure (name : Text) (given : Settings) : Step Application Unit := do
  let p ← pluginAttribute name
  configureClass p.cls given

/-- The attached plugin of a name, for a router that can have plugins. -/
def attached (name : Text) : Step Application Plugin := do
  needsPlugins
  Step.ofExcept ((← Step.read).router.plugin name)

/-- The settings of a plugin that hold for an action, or at the base level. -/
def configOf (name : Text) (action : Option Text) : Step Application Settings := do
  let p ← attached name
  Step.ofExcept (((← Step.read).router.store.scopes p.name).merged action)

/-- Switches a plugin on or off for an action. -/
def setEnabled (action name : Text) (on : Bool) : Step Application Unit := do
  let p ← attached name
  Step.modify fun app =>
    { app with router := { app.router with store := app.router.store.setSwitch p.name action on } }

/-- Whether a plugin is on for an action. -/
def isEnabled (action name : Text) : Step Application Bool := do
  let p ← attached name
  return ((← Step.read).router.store.scopes p.name).isEnabled action

/-- The attached plugins in order. -/
def plugins : Step Application (List Plugin) := do
  needsPlugins
  return (← Step.read).router.plugins

/-- The plugin classes that can be asked for, in the order of their names. -/
def available : Step Application (List (Text × PluginClass)) := do
  needsPlugins
  return (← Step.read).registry.listing

/-- Registers something under the name of a class, or under a name of its own; nothing else than a
class can be registered. -/
def registerClass (cls : Option PluginClass) (name : Option Text) : Step Application Unit := do
  needsPlugins
  let cls ←
    match cls with
    | some cls => pure cls
    | none => Step.fail .notAPluginClass
  let registry ← Step.ofExcept ((← Step.read).registry.register cls name)
  Step.modify fun app => { app with registry }

end Routing.Application
