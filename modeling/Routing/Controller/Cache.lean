import Routing.Controller.Module
import Routing.Controller.Remarks
import Routing.FileTree

/-!
# The controllers that are loaded

A controller's file is looked for under a base directory and carried out once; what it made is kept
under the controller's name until all is forgotten.  A loading that fails leaves the cache as it
was.
-/

namespace Routing

structure ControllerCache where
  base : Path
  /-- The controllers loaded so far, under their names, in the order of loading. -/
  loaded : Assoc Module
  /-- How many loadings there have been. -/
  count : Nat
  deriving DecidableEq

namespace ControllerCache

def ofBase (base : Path) : ControllerCache := ⟨base, [], 0⟩

/-- The file of a controller that is a single file. -/
def fileOf (base : Path) (name : Text) : Path := base.joinText (name ++ ".py".toList)

/-- The file of a controller that is a directory. -/
def packageOf (base : Path) (name : Text) : Path := (base.joinText name).joinText Source.packageFile

/-- Where a controller's file is. -/
def find (t : FileTree) (base : Path) (name : Text) : Except Fault (Option Path) := do
  if ← t.hasFile (fileOf base name) then pure (some (fileOf base name))
  else if ← t.hasFile (packageOf base name) then pure (some (packageOf base name))
  else pure none

/-- The names that carrying out a file leaves. -/
def carryOut (t : FileTree) (p : Path) (loading : Nat) : Except Fault (Assoc Object) :=
  let located := t.home.join p
  match t.lookup p with
  | .file (.controller source) => source.run located loading
  | .file (.text s) => do
    Remarks.read (Text.toUtf8 s)
    return Source.startingNames located loading
  | .file (.bytes data) => do
    Remarks.read data
    return Source.startingNames located loading
  | _ => return Source.startingNames located loading

/-- A fault of a controller's own code, as the cache passes it on. -/
def passOn (name : Text) (p : Path) : Fault → Fault
  | .controllerRaised raised =>
    match raised.cause? with
    | some cause => .missingController name p.text (some cause)
    | none => .controllerRaised raised
  | fault => fault

/-- Finds a controller's file and carries it out. -/
def execute (t : FileTree) (base : Path) (count : Nat) (name : Text) :
    Except Fault (Path × Module) := do
  match ← find t base name with
  | none => .error (.missingController name (fileOf base name).text none)
  | some p =>
    match carryOut t p count with
    | .error fault => .error (passOn name p fault)
    | .ok names => .ok (p, ⟨count, names⟩)

/-- The controller of a name, loaded if it has not been. -/
def fetch (t : FileTree) (name : Text) : Step ControllerCache Module := do
  let cache ← Step.read
  match Assoc.get? name cache.loaded with
  | some m => pure m
  | none =>
    let (p, m) ← Step.ofExcept (execute t cache.base cache.count name)
    Step.log .debug ("Loaded controller ".toList ++ name ++ " from ".toList ++ p.text)
    Step.modify fun cache =>
      { cache with loaded := Assoc.set name m cache.loaded, count := cache.count + 1 }
    pure m

/-- Keeps a controller as it is now. -/
def keep (name : Text) (m : Module) : Step ControllerCache Unit :=
  Step.modify fun cache => { cache with loaded := Assoc.set name m cache.loaded }

/-- The callable under a name of a controller. -/
def callable (t : FileTree) (name method : Text) : Step ControllerCache Object := do
  let m ← fetch t name
  let found ← Step.ofExcept (m.callable? method)
  if method = Module.annotationsName then keep name { m with names := m.asked method }
  match found with
  | some object => pure object
  | none => Step.fail (.missingMethod name method)

/-- The loaded controller that an object is of, with its name. -/
def ownerOf? (cache : ControllerCache) (object : Object) : Option (Text × Module) :=
  cache.loaded.find? fun p => p.2.loading == object.loading

/-- What comes of a call of an object: an answer, and the controllers that are left, of which the one
that the object is of may have other names.  An object of none that is loaded is called by itself.
-/
def called (cache : ControllerCache) (object : Object) (args : Arguments) :
    Except Fault (Value × ControllerCache) :=
  match cache.ownerOf? object with
  | none => do return (← object.thing.call args, cache)
  | some (name, m) => do
    let (v, names) ← m.call object.thing args
    if names = m.names then return (v, cache)
    else return (v, { cache with loaded := Assoc.set name { m with names } cache.loaded })

/-- The controllers after a call of an object: a call that fails leaves them as they are. -/
def afterCall (cache : ControllerCache) (object : Object) (args : Arguments) : ControllerCache :=
  match cache.called object args with
  | .ok (_, cache') => cache'
  | .error _ => cache

/-- What a call of an object answers. -/
def answer (cache : ControllerCache) (object : Object) (args : Arguments) : Except Fault Value :=
  (cache.called object args).map Prod.fst

/-- Calls an object. -/
def call (object : Object) (args : Arguments) : Step ControllerCache Value := do
  let (v, cache) ← Step.ofExcept ((← Step.read).called object args)
  Step.modify fun _ => cache
  return v

/-- Calls the callable under a name of a controller. -/
def invoke (t : FileTree) (name method : Text) (args : Arguments) :
    Step ControllerCache Value := do
  call (← callable t name method) args

/-- Looks for the name under which a controller is to be given up: its own, which has to be one. -/
def releaseName (m : Module) : Except Fault Unit := do
  match (← m.ownName).thing with
  | .constant v => if v.isKey then return () else throw .unusableKey
  | _ => return ()

/-- Forgets every controller, or none if one of them cannot be given up. -/
def forgetAll : Step ControllerCache Unit := do
  let cache ← Step.read
  Step.ofExcept (cache.loaded.forM fun p => releaseName p.2)
  Step.modify fun cache => { cache with loaded := [] }

theorem run_call (object : Object) (args : Arguments) (cache : ControllerCache) :
    (call object args).run cache =
      ⟨[], cache.afterCall object args, cache.answer object args⟩ := by
  unfold call afterCall answer
  rw [Step.run_bind, Step.run_read, Outcome.andThen_ok, Step.run_bind]
  rcases cache.called object args with fault | ⟨v, cache'⟩ <;> rfl

/-- A call changes the names of the controller that the object is of, and nothing else. -/
theorem afterCall_cases (object : Object) (args : Arguments) (cache : ControllerCache) :
    cache.afterCall object args = cache ∨
      ∃ name m v names, cache.ownerOf? object = some (name, m) ∧
        m.call object.thing args = .ok (v, names) ∧ names ≠ m.names ∧ cache.afterCall object args =
          { cache with loaded := Assoc.set name { m with names } cache.loaded } := by
  unfold afterCall called
  cases ho : cache.ownerOf? object with
  | none => cases object.thing.call args <;> exact .inl rfl
  | some p =>
    obtain ⟨name, m⟩ := p
    dsimp only
    cases hc : m.call object.thing args with
    | error fault => exact .inl rfl
    | ok called =>
      obtain ⟨v, names⟩ := called
      by_cases hn : names = m.names
      · simp only [bind, Except.bind, if_pos hn]
        exact .inl rfl
      · simp only [bind, Except.bind, if_neg hn]
        exact .inr ⟨name, m, v, names, rfl, hc, hn, rfl⟩

/-- A controller that is loaded is not looked for again. -/
theorem run_fetch_of_loaded {t : FileTree} {name : Text} {cache : ControllerCache} {m : Module}
    (h : Assoc.get? name cache.loaded = some m) :
    (fetch t name).run cache = ⟨[], cache, .ok m⟩ := by
  simp [fetch, h]

/-- A loading that fails changes nothing. -/
theorem state_of_fetch_fault {t : FileTree} {name : Text} {cache : ControllerCache} {fault : Fault}
    (h : ((fetch t name).run cache).result = .error fault) :
    ((fetch t name).run cache).state = cache := by
  unfold fetch at h ⊢
  simp only [Step.run_bind, Step.run_read, Outcome.andThen_ok] at h ⊢
  cases hl : Assoc.get? name cache.loaded with
  | some m => simp
  | none =>
    cases hx : execute t cache.base cache.count name with
    | error fault' => simp [Step.ofExcept]
    | ok r => simp [hl, hx, Step.ofExcept, Step.log] at h

end ControllerCache

end Routing
