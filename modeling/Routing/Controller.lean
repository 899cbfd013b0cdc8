import Routing.Assoc
import Routing.Fault
import Routing.Value.Fields

/-!
# What controllers are made of

A controller's names stand for objects.  An object is a thing that may or may not be called, made by
one loading of the controller, and it says of itself where its home is: under which name of the
controller it was made, or elsewhere.
-/

namespace Routing

/-- What an object is. -/
inductive Thing where
  | function (name returns : Text) (raises : Option Text)
  /-- A function without a name. -/
  | anonymous (returns : Value)
  | classObject (name : Text)
  /-- An object that can be called and has no name of its own. -/
  | callableObject (returns : Value)
  /-- A callable made here that passes for one of another home, as what is wrapped like a function
  from elsewhere does. -/
  | borrowed (home : Value) (name : Option Text) (returns : Value)
  | inertObject
  | constant (v : Value)
  /-- The one callable that controllers take from elsewhere: it writes a value between quotes. -/
  | imported
  /-- A callable that the controller's language has under this name. -/
  | builtin (name : Text)
  /-- Something every controller has, callable and under this name. -/
  | inherited (name : Text)
  deriving DecidableEq

/-- What something is called with: values in a row, and values under names. -/
structure Arguments where
  positional : List Value
  named : Assoc Value
  deriving DecidableEq

namespace Arguments

/-- Values in a row and nothing else. -/
def ofList (vs : List Value) : Arguments := ⟨vs, []⟩

/-- The arguments in writing, each after a bar. -/
def written (args : Arguments) : Text :=
  (args.positional.flatMap fun v => '|' :: v.written) ++
    args.named.flatMap fun p => '|' :: p.1 ++ '=' :: p.2.written

/-- The values in a row, if there are no others. -/
def inRow (args : Arguments) : Except Fault (List Value) :=
  match args.named with
  | [] => .ok args.positional
  | _ => .error .badArguments

end Arguments

/-- What an object says of where it was made: a value, or another object, by its loading and its
place. -/
inductive Home where
  | value (v : Value)
  | object (loading place : Nat) (thing : Thing)
  deriving DecidableEq

/-- An object of a controller, told from others by the loading that made it and by its place among
what that loading made. -/
structure Object where
  loading : Nat
  place : Nat
  thing : Thing
  home : Home
  deriving DecidableEq

/-- Kinds of faults by their names. -/
def faultKinds : List Text :=
  ["ArithmeticError".toList, "AssertionError".toList, "AttributeError".toList,
    "BaseException".toList, "BlockingIOError".toList, "BrokenPipeError".toList,
    "BufferError".toList, "BytesWarning".toList, "ChildProcessError".toList,
    "ConnectionAbortedError".toList, "ConnectionError".toList, "ConnectionRefusedError".toList,
    "ConnectionResetError".toList, "DeprecationWarning".toList, "EOFError".toList,
    "EncodingWarning".toList, "EnvironmentError".toList, "Exception".toList,
    "FileExistsError".toList, "FileNotFoundError".toList, "FloatingPointError".toList,
    "FutureWarning".toList, "GeneratorExit".toList, "IOError".toList, "ImportError".toList,
    "ImportWarning".toList, "IndentationError".toList, "IndexError".toList,
    "InterruptedError".toList, "IsADirectoryError".toList, "KeyError".toList,
    "KeyboardInterrupt".toList, "LookupError".toList, "MemoryError".toList,
    "ModuleNotFoundError".toList, "NameError".toList, "NotADirectoryError".toList,
    "NotImplementedError".toList, "OSError".toList, "OverflowError".toList,
    "PendingDeprecationWarning".toList, "PermissionError".toList, "ProcessLookupError".toList,
    "RecursionError".toList, "ReferenceError".toList, "ResourceWarning".toList,
    "RuntimeError".toList, "RuntimeWarning".toList, "StopAsyncIteration".toList,
    "StopIteration".toList, "SyntaxError".toList, "SyntaxWarning".toList, "SystemError".toList,
    "SystemExit".toList, "TabError".toList, "TimeoutError".toList, "TypeError".toList,
    "UnboundLocalError".toList, "UnicodeError".toList, "UnicodeWarning".toList,
    "UserWarning".toList, "ValueError".toList, "Warning".toList, "ZeroDivisionError".toList]

/-- Kinds of faults that a message alone does not make. -/
def compoundKinds : List Text :=
  ["BaseExceptionGroup".toList, "ExceptionGroup".toList, "UnicodeDecodeError".toList,
    "UnicodeEncodeError".toList, "UnicodeTranslateError".toList]

/-- Callables of the language that have no name of their own. -/
def namelessBuiltins : List Text :=
  ["copyright".toList, "credits".toList, "exit".toList, "help".toList, "license".toList,
    "quit".toList]

/-- The other callables of the language. -/
def namedBuiltins : List Text :=
  ["__build_class__".toList, "__import__".toList, "__loader__".toList, "abs".toList,
    "aiter".toList, "all".toList, "anext".toList, "any".toList, "ascii".toList, "bin".toList,
    "bool".toList, "breakpoint".toList, "bytearray".toList, "bytes".toList, "callable".toList,
    "chr".toList, "classmethod".toList, "compile".toList, "complex".toList, "delattr".toList,
    "dict".toList, "dir".toList, "divmod".toList, "enumerate".toList, "eval".toList,
    "exec".toList, "filter".toList, "float".toList, "format".toList, "frozenset".toList,
    "getattr".toList, "globals".toList, "hasattr".toList, "hash".toList, "hex".toList,
    "id".toList, "input".toList, "int".toList, "isinstance".toList, "issubclass".toList,
    "iter".toList, "len".toList, "list".toList, "locals".toList, "map".toList, "max".toList,
    "memoryview".toList, "min".toList, "next".toList, "object".toList, "oct".toList,
    "open".toList, "ord".toList, "pow".toList, "print".toList, "property".toList,
    "range".toList, "repr".toList, "reversed".toList, "round".toList, "set".toList,
    "setattr".toList, "slice".toList, "sorted".toList, "staticmethod".toList, "str".toList,
    "sum".toList, "super".toList, "tuple".toList, "type".toList, "vars".toList, "zip".toList]

/-- Names for one kind of fault, the most general of its family. -/
def systemKindNames : List Text := ["IOError".toList, "EnvironmentError".toList]

/-- The name that a callable of the language goes by. -/
def builtinName? (name : Text) : Option Text :=
  if name ∈ namelessBuiltins then none
  else if name ∈ systemKindNames then some "OSError"
  else if name = "__loader__" then some "BuiltinImporter"
  else some name

/-- Callables of the language that answer one question about one value, with their answers; some
values have none. -/
def questions : List (Text × (Value → Option Value)) :=
  [("all", fun v => v.elements?.map fun elements => .bool (elements.all Value.isTrue)),
    ("any", fun v => v.elements?.map fun elements => .bool (elements.any Value.isTrue)),
    ("bool", fun v => some (.bool v.isTrue)), ("callable", fun v => some (.bool v.isCallable)),
    ("len", fun v => v.size?.map fun size => .int size),
    ("list", fun v => v.elements?.map (.collection .list)),
    ("repr", fun v => some (.text v.shown)), ("str", fun v => some (.text v.written)),
    ("tuple", fun v => v.elements?.map (.collection .tuple)),
    ("type", fun _ => some (.code .classObject))]

/-- What callables of the language make of nothing. -/
def beginnings : List (Text × Value) :=
  [("bool", .bool false), ("dict", .object .dictionary []), ("frozenset", .collection .fixedSet []),
    ("int", .int 0), ("list", .collection .list []), ("object", .instanceOf "object"),
    ("set", .collection .set []), ("str", .text []), ("tuple", .collection .tuple [])]

/-- What a call of a callable of the language answers, as far as it is one of these.  Values under
names make a dictionary, and none of the others can do with them. -/
def callBuiltin (name : Text) (args : Arguments) : Except Fault Value :=
  if name ∈ faultKinds then do
    let _ ← args.inRow
    return .instanceOf ((builtinName? name).getD name)
  else if name ∈ compoundKinds then .error .badArguments
  else
    match questions.lookup name, beginnings.lookup name, args with
    | _, some v, ⟨[], []⟩ => .ok v
    | _, some (.object k _), ⟨[], named⟩ =>
      .ok (.object k (named.map fun p => (.text p.1, p.2)))
    | some ask, _, ⟨[v], []⟩ =>
      match ask v with
      | some answer => .ok answer
      | none => .error .badArguments
    | some _, _, _ => .error .badArguments
    | none, _, _ => .ok .null

/-- The words of the language that are constants. -/
def constantWords : List (Text × Value) :=
  [("None", .null), ("True", .bool true), ("False", .bool false), ("__debug__", .bool true)]

/-- What the language itself has under a name. -/
def builtin? (name : Text) : Option Thing :=
  match constantWords.lookup name with
  | some v => some (.constant v)
  | none =>
    if name = "__name__" then some (.constant (.text "builtins"))
    else if name ∈ ["Ellipsis".toList, "NotImplemented".toList, "__doc__".toList,
        "__package__".toList, "__spec__".toList] then some .inertObject
    else if name ∈ faultKinds ∨ name ∈ compoundKinds ∨ name ∈ namedBuiltins ∨
        name ∈ namelessBuiltins then some (.builtin name)
    else none

namespace Thing

/-- The name of what lists the names of a controller. -/
def listerName : Text := "__dir__"

/-- The name an object goes by. -/
def name? : Thing → Option Text
  | .function name .. => some name
  | .anonymous _ => some "<lambda>"
  | .classObject name => some name
  | .imported => some "dumps"
  | .builtin name => builtinName? name
  | .inherited name => some (if name = "__class__" then "module" else name)
  | .borrowed _ name _ => name
  | .callableObject _ => none
  | .inertObject => none
  | .constant _ => none

/-- The thing as it is when it is made under a name. -/
def named (name : Text) : Thing → Thing
  | .function _ returns raises => .function name returns raises
  | .classObject _ => .classObject name
  | thing => thing

def isCallable : Thing → Bool
  | .inertObject => false
  | .constant v => v.isCallable
  | _ => true

/-- Whether there is one such object for all controllers. -/
def isShared : Thing → Bool
  | .imported => true
  | .builtin _ => true
  | .inherited name => decide (name = "__class__" ∨ name = "__new__")
  | _ => false

/-- What every controller can be compared by; none of them has an answer. -/
def comparisons : List Text :=
  ["__eq__".toList, "__ge__".toList, "__gt__".toList, "__le__".toList, "__lt__".toList,
    "__ne__".toList]

/-- What takes other numbers of arguments than none: the least and the greatest number. -/
def arities : List (Text × Nat × Nat) :=
  [("__delattr__", 1, 1), ("__getattribute__", 1, 1), ("__init__", 1, 2), ("__setattr__", 2, 2)]

/-- What cannot be done with any arguments that there are. -/
def refusals : List Text := ["__new__".toList, "__reduce__".toList, "__reduce_ex__".toList]

/-- How many bytes a controller says it takes. -/
def footprint : Int := 56

/-- What a call of something that every controller has answers, as far as that does not depend on the
controller. -/
def callInherited (name : Text) (args : List Value) : Except Fault Value :=
  if name = "__class__" then
    match args with
    | [.scalar (.text _)] => .ok (.instanceOf "module")
    | [.scalar (.text _), _] => .ok (.instanceOf "module")
    | _ => .error .badArguments
  else if name = "__subclasshook__" then .ok (.instanceOf "NotImplementedType")
  else if name = "__sizeof__" then if args = [] then .ok (.int footprint) else .error .badArguments
  else if name = "__format__" then
    if args = [.text []] then .ok .null else .error .badArguments
  else if name ∈ refusals then .error .badArguments
  else if name ∈ comparisons then
    match args with
    | [_] => .ok (.instanceOf "NotImplementedType")
    | _ => .error .badArguments
  else
    let (least, most) := (arities.lookup name).getD (0, 0)
    if least ≤ args.length ∧ args.length ≤ most then .ok .null else .error .badArguments

/-- A thing as a value that is handed out. -/
def shown : Thing → Value
  | .classObject _ => .code .classObject
  | .constant v => v
  | .callableObject _ => .instanceOf "object"
  | .inertObject => .instanceOf "object"
  | .builtin name => .code (if name ∈ faultKinds then .classObject else .function)
  | .inherited name => .code (if name = "__class__" then .classObject else .function)
  | _ => .code .function

/-- What a call answers. -/
def call (args : Arguments) : Thing → Except Fault Value
  | .function _ _ (some message) => .error (.handlerRaised message)
  | .function _ returns none => .ok (.text (returns ++ args.written))
  | .anonymous returns => .ok returns
  | .callableObject returns => .ok returns
  | .borrowed _ _ returns => .ok returns
  | .classObject name => .ok (.instanceOf name)
  | .imported =>
    match args with
    | ⟨[.scalar (.text s)], []⟩ => .ok (.text ('"' :: s ++ ['"']))
    | _ => .ok .null
  | .builtin name => callBuiltin name args
  | .inherited name => do callInherited name (← args.inRow)
  | .inertObject => .error .notCallable
  | .constant v => if v.isCallable then .ok .null else .error .notCallable

end Thing

/-- Whether two things at two places of two loadings are one and the same object. -/
def sameObject (loading place : Nat) (thing : Thing) (loading' place' : Nat) (thing' : Thing) :
    Bool :=
  if thing.isShared then thing == thing'
  else
    match thing with
    | .inherited _ => false
    | _ => loading == loading' && place == place'

namespace Home

/-- Whether two homes are one. -/
def same : Home → Home → Bool
  | .value v, .value w => v.sameKey w
  | .object loading place thing, .object loading' place' thing' =>
    sameObject loading place thing loading' place' thing'
  | _, _ => false

end Home

namespace Object

/-- Whether two objects are one and the same. -/
def same (x y : Object) : Bool :=
  sameObject x.loading x.place x.thing y.loading y.place y.thing

/-- What objects made under the name of this object have for a home. -/
def asHome (x : Object) : Home :=
  match x.thing with
  | .constant v => .value v
  | thing => .object x.loading x.place thing

end Object

end Routing
