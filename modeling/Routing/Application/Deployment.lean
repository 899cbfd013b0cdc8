import Routing.Application.Calls

/-!
# Handing a table to a host

A router exposes itself in a host and then hands it the entries of its table in order: directories
to be served, which have to be there, and handlers.  What a host was given before a fault it keeps.
-/

namespace Routing.Application

/-- The host of a name. -/
def hostNamed (name : Text) : Step Application Host := do
  match Assoc.get? name (← Step.read).hosts with
  | some host => return host
  | none => Step.fail (.unknownHost name)

/-- A change to a host. -/
def onHost (name : Text) (f : Host → Except Fault Host) : Step Application Unit := do
  let host ← Step.ofExcept (f (← hostNamed name))
  Step.modify fun app => { app with hosts := Assoc.set name host app.hosts }

/-- Has a host serve a directory. -/
def serveFolder (name : Text) (folder : Folder) : Step Application Unit := do
  let app ← Step.read
  if ← Step.ofExcept (app.files.hasDirectory (Path.ofText folder.directory)) then
    onHost name (Host.serve folder.pattern folder.directory)
    Step.log .debug ("Mounted static directory ".toList ++ folder.directory ++ " at ".toList ++
      folder.pattern)
  else Step.fail (.missingFolder folder.directory)

/-- Has a host serve an entry; the route the host then has, if it is an endpoint. -/
def serveEntry (name : Text) : Entry → Step Application (List Route)
  | .folder folder => do
    serveFolder name folder
    return []
  | .endpoint e => do
    let route : Route := ⟨e.verb, e.pattern, ← makeHandler e⟩
    onHost name (Host.register route)
    return [route]

/-- Exposes the router in a host and has the host serve every entry; the routes, in order. -/
def deploy (name : Text) : Step Application (List Route) := do
  let _ ← hostNamed name
  let entries ← entries
  let router := (← Step.read).router
  onHost name (Host.expose router.options.templateVar)
  let routes ← Step.flatMapList (serveEntry name) entries
  Step.log .debug ("Mounted ".toList ++ Text.ofNat routes.length ++
    " handler routes on <host ".toList ++ name ++ ">".toList)
  return routes

/-- Puts a host in place of the one of its name. -/
def addHost (host : Host) : Step Application Unit :=
  Step.modify fun app => { app with hosts := Assoc.set host.name host app.hosts }

/-- Calls the handler that a host was given as the `index`-th, if there is one; negative numbers
count from the last. -/
def callHandler (name : Text) (index : Int) (args : Arguments) :
    Step Application (Option Value) := do
  match (← hostNamed name).handlerAt? index with
  | none => return none
  | some h => return some (← call h args)

end Routing.Application
