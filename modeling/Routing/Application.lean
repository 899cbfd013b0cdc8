import Routing.Clock
import Routing.Host
import Routing.Options
import Routing.Plugin
import Routing.Reverse
import Routing.RoutesFile

/-!
# The router and the application around it

A router owns a table, the controllers that are loaded, and the attached plugins with their store.
It works in an application: files, hosts, a registry of plugin classes, a clock, and a logger that
may or may not have someone listening.  Everything a router does is a step on the application; this
module has the state, the building of the table, and what is read off it.
-/

namespace Routing

structure Router where
  options : Options
  root : Path
  controllers : ControllerCache
  table : Table
  /-- Whether plugins can be attached at all. -/
  pluggable : Bool
  /-- The attached plugins in the order of attachment. -/
  plugins : List Plugin
  store : Store

structure Application where
  files : FileTree
  registry : Registry
  hosts : Assoc Host
  clock : Clock
  /-- Whether the logger of the library has someone listening. -/
  isHeard : Bool
  router : Router

namespace Router

/-- A router with the given options, in the working directory `home`. -/
def create (home : Text) (pluggable : Bool) (options : Option Value) (overrides : Settings) :
    Except Fault Router := do
  let options ← Options.ofRounds home options overrides
  let root := Path.ofText (← Options.asText options.rootPath)
  let base ← Options.asText options.controllersPath
  return {
    options
    root
    controllers := ControllerCache.ofBase (root.joinText base)
    table := none
    pluggable
    plugins := []
    store := [] }

/-- Where the routes file is. -/
def routesLocation (r : Router) : Except Fault Path := do
  return r.root.joinText (← Options.asText r.options.routesFile)

/-- What lines are expanded with. -/
def expander (r : Router) : Expander := ⟨r.options.marks, some r.root⟩

/-- The attached plugin of a name. -/
def plugin? (r : Router) (name : Text) : Option Plugin := r.plugins.find? fun p => p.name == name

/-- The attached plugin of a name, which has to be there. -/
def plugin (r : Router) (name : Text) : Except Fault Plugin :=
  match r.plugin? name with
  | some p => .ok p
  | none => .error (.noSuchPlugin name)

/-- Puts a plugin in place of the attached one of its name. -/
def setPlugin (p : Plugin) (r : Router) : Router :=
  { r with plugins := r.plugins.map fun q => if q.name = p.name then p else q }

end Router

namespace Application

def cachePart : Part Application ControllerCache :=
  ⟨fun app => app.router.controllers,
    fun cache app => { app with router := { app.router with controllers := cache } }⟩

def tablePart : Part Application Table :=
  ⟨fun app => app.router.table, fun t app => { app with router := { app.router with table := t } }⟩

def storePart : Part Application Store :=
  ⟨fun app => app.router.store,
    fun store app => { app with router := { app.router with store } }⟩

/-- Tells an attached plugin of an entry. -/
def tell (name : Text) (entry : Entry) : Step Application Unit := do
  let router := (← Step.read).router
  match router.plugin? name with
  | none => pure ()
  | some p =>
    let p ← Step.ofExcept (p.notify (router.store.scopes name).baseSettings entry)
    Step.modify fun app => { app with router := app.router.setPlugin p }

/-- Tells every attached plugin of an entry, in the order of attachment. -/
def tellAll (entry : Entry) : Step Application Unit := do
  let plugins := (← Step.read).router.plugins
  Step.forEach (fun p => tell p.name entry) plugins

/-- What the routes file says: its lines that say something, numbered among themselves. -/
def directives : Step Application (List Directive) := do
  let app ← Step.read
  let path ← Step.ofExcept app.router.routesLocation
  let lines ← Step.ofExcept (RoutesFile.readLines app.files path.text path)
  Directive.ofLines lines

/-- The entries of a line. -/
def expandLine (line : Directive) : Step Application (List Entry) := do
  let app ← Step.read
  Step.on cachePart (app.router.expander.expand app.files line.verb line.path line.target)

def recipe : Table.Recipe Application := ⟨directives, expandLine, tellAll⟩

/-- The entries of the table, which is built if it has not been. -/
def entries : Step Application (List Entry) := Table.access tablePart recipe

/-- The entries of the table, for a search. -/
def walk : Step Application (List Entry) := Table.walk tablePart recipe

/-- Whether the table has been built. -/
def isBuilt (app : Application) : Bool := app.router.table.isSome

/-- The actions of the table. -/
def actions : Step Application (List Text) := return Table.actions (← entries)

/-- The endpoints of an action. -/
def endpointsOf (action : Text) : Step Application (List Endpoint) :=
  return Table.endpointsOf action (← walk)

/-- The URL of an action. -/
def urlOf (action : Text) (params : List Value) : Step Application Text := do
  let entries ← walk
  let router := (← Step.read).router
  Step.ofExcept (Reverse.url router.options.isStrict entries action params)

/-- The URL that arguments make of a pattern. -/
def fillPattern (pattern : Text) (args : Value) : Step Application Text := do
  let router := (← Step.read).router
  Step.ofExcept (Binding.urlOf router.options.isStrict pattern args)

/-- The lines of any file that say something. -/
def linesOfFile (path : Text) : Step Application (List Text) := do
  let app ← Step.read
  Step.ofExcept (RoutesFile.readLines app.files path (Path.ofText path))

/-- What a router says of itself. -/
structure Description where
  routesFile : Text
  entries : List Entry
  actions : Assoc (List Text)
  plugins : List (Plugin × Settings)

/-- What it says of the entries of its table. -/
def Description.routes (d : Description) : List (Assoc Text) := d.entries.map Entry.described

/-- The router's description of itself. -/
def describe : Step Application Description := do
  let entries ← entries
  let router := (← Step.read).router
  let path ← Step.ofExcept router.routesLocation
  return {
    routesFile := path.text
    entries
    actions := Table.patternsByAction entries
    plugins := router.plugins.map fun p => (p, (router.store.scopes p.name).baseSettings) }

end Application

end Routing
