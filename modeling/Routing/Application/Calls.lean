import Routing.Application.Plugins

/-!
# Wrapping and calling handlers

A handler is wrapped in one layer for each plugin that is attached when it is made, the first
outermost.  When it is called, each layer first asks whether its plugin is on for the action; a
layer that is off calls straight on.  `callThrough` is that nesting, a fold over the layers.
-/

namespace Routing

/-- How the calls of an action are reported. -/
structure Reporting where
  enabled : Bool
  before : Bool
  after : Bool
  log : Bool
  print : Bool
  deriving DecidableEq

namespace Reporting

/-- A setting as a switch; one that is missing or nothing is as it is by default. -/
def switch (settings : Settings) (name : Text) (default : Bool) : Bool :=
  match Assoc.get? name settings with
  | none | some .null => default
  | some v => v.isTrue

/-- Everything is reported, by logging, unless the settings say otherwise. -/
def ofSettings (settings : Settings) : Reporting where
  enabled := switch settings "enabled" true
  before := switch settings "before" true
  after := switch settings "after" true
  log := switch settings "log" true
  print := switch settings "print" false

/-- Where a message goes: it is printed if that is wanted, else logged if that is wanted and someone
listens, and printed rather than lost if nobody does. -/
def event? (r : Reporting) (sink : Sink) (isHeard : Bool) (message : Text) :
    Except Fault (Option Event) :=
  if r.print then .ok (some (.printed message))
  else if r.log then
    match sink, isHeard with
    | .shared, true => .ok (some (.logged .info message))
    | .own, _ => .ok (some (.recorded message))
    | .shared, false => .ok (some (.printed message))
    | .unheard, _ => .ok (some (.printed message))
    | .unusable, _ => .error .loggerUnusable
  else .ok none

end Reporting

namespace Application

/-- The layer that a plugin puts around a handler of an action. -/
def layerOf (store : Store) (action : Text) (p : Plugin) : Except Fault Layer :=
  match p.cls.layer with
  | .pass => .ok ⟨p.name, .pass⟩
  | .report => .ok ⟨p.name, .report⟩
  | .count label => do
    let settings ← (store.scopes p.name).merged (some action)
    return ⟨p.name, .count (label settings)⟩

/-- The layers that plugins put around a handler of an action, the first outermost; the innermost is
made first. -/
def layersOf (store : Store) (action : Text) : List Plugin → Except Fault (List Layer)
  | [] => .ok []
  | p :: ps => do
    let inner ← layersOf store action ps
    return (← layerOf store action p) :: inner

/-- A controller's callable in the layers of the plugins that are attached. -/
def wrap (e : Endpoint) (callable : Object) (r : Router) : Except Fault Handler := do
  return { action := e.action, callable, layers := ← layersOf r.store e.action r.plugins }

/-- A handler for an endpoint. -/
def makeHandler (e : Endpoint) : Step Application Handler := do
  let app ← Step.read
  let callable ← Step.on cachePart (ControllerCache.callable app.files e.controller e.method)
  Step.ofExcept (wrap e callable (← Step.read).router)

/-- The next reading of the clock, in seconds that can be told. -/
def tick : Step Application Int := do
  let (reading, clock) := (← Step.read).clock.next
  Step.modify fun app => { app with clock }
  if Clock.isTellable reading then return reading else Step.fail .clockOutOfRange

/-- Reports a message the way a plugin reports. -/
def report (plugin : Text) (r : Reporting) (message : Text) : Step Application Unit := do
  let app ← Step.read
  let sink := ((app.router.plugin? plugin).map Plugin.sink).getD .shared
  match ← Step.ofExcept (r.event? sink app.isHeard message) with
  | some event => Step.emit event
  | none => pure ()

/-- Reports the start and the end of a call, with the time it took.  A call that fails has no end.
-/
def reported (plugin : Text) (r : Reporting) (action : Text) (inner : Step Application Value) :
    Step Application Value := do
  if r.before then report plugin r (action ++ " start".toList) else pure ()
  let start ← tick
  let result ← inner
  let stop ← tick
  if r.after then
    report plugin r (action ++ " end (".toList ++ Clock.elapsed start stop ++ " ms)".toList)
  else pure ()
  return result

/-- Counts a call. -/
def count (plugin : Text) (label : Value) (action : Text) : Step Application Unit := do
  Step.modify fun app =>
    match app.router.plugin? plugin with
    | some p =>
      { app with router := app.router.setPlugin { p with calls := p.calls ++ [(label, action)] } }
    | none => app
  Step.emit (.counted label.written action)

/-- What a layer whose plugin is on makes of a call. -/
def performLayer (action : Text) (layer : Layer) (scopes : Scopes)
    (inner : Step Application Value) : Step Application Value :=
  match layer.action with
  | .pass => inner
  | .count label => do
    count layer.plugin label action
    inner
  | .report => do
    let r := Reporting.ofSettings (← Step.ofExcept (scopes.merged (some action)))
    if r.enabled then reported layer.plugin r action inner else inner

/-- What a layer makes of a call: nothing, if its plugin is off for the action. -/
def callLayer (action : Text) (layer : Layer) (inner : Step Application Value) :
    Step Application Value := do
  let scopes := (← Step.read).router.store.scopes layer.plugin
  if scopes.isEnabled action then performLayer action layer scopes inner else inner

/-- Calls a callable through layers, the first outermost. -/
def callThrough (action : Text) (callable : Object) (args : Arguments) (layers : List Layer) :
    Step Application Value :=
  layers.foldr (callLayer action) (Step.on cachePart (ControllerCache.call callable args))

/-- Calls a handler. -/
def call (h : Handler) (args : Arguments) : Step Application Value :=
  callThrough h.action h.callable args h.layers

theorem callThrough_cons (action : Text) (callable : Object) (args : Arguments) (layer : Layer)
    (layers : List Layer) :
    callThrough action callable args (layer :: layers) =
      callLayer action layer (callThrough action callable args layers) := rfl

/-- A layer whose plugin is off is as good as not there. -/
theorem run_callThrough_off {action : Text} {callable : Object} {args : Arguments} {layer : Layer}
    {inner : List Layer} {app : Application}
    (h : (app.router.store.scopes layer.plugin).isEnabled action = false) :
    (callThrough action callable args (layer :: inner)).run app =
      (callThrough action callable args inner).run app := by
  rw [callThrough_cons]
  simp [callLayer, h]

end Application

end Routing
