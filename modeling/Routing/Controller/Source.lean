import Routing.Controller
import Routing.Path
import Routing.Text.Composed

/-!
# The source of a controller

A controller is given by its members, which are carried out in order and leave a table of names, and
by what it raises after them, if anything.  The names in it have to be names, and none a word of the
language; otherwise nothing of it is carried out.  Two spellings of a name are one name.

Every controller starts with names of its own, which can be taken for other things or taken away.
Under one of them it has its own name, and that is where its objects have their homes.
-/

namespace Routing

/-- What one member of a controller does to the table of names. -/
inductive Member where
  | define (name : Text) (thing : Thing)
  | synonym (name target : Text)
  | delete (name : Text)
  deriving DecidableEq

/-- A controller as it stands in its file: its members and what it raises after them, if anything.
-/
structure Source where
  members : List Member
  raises : Option Raised
  deriving DecidableEq

namespace Raised

def loadingKinds : List Text := ["ImportError".toList, "ModuleNotFoundError".toList]

def systemKinds : List Text :=
  ["OSError".toList, "IOError".toList, "EnvironmentError".toList, "BlockingIOError".toList,
    "ChildProcessError".toList, "ConnectionError".toList, "BrokenPipeError".toList,
    "ConnectionAbortedError".toList, "ConnectionRefusedError".toList, "ConnectionResetError".toList,
    "FileExistsError".toList, "FileNotFoundError".toList, "InterruptedError".toList,
    "IsADirectoryError".toList, "NotADirectoryError".toList, "PermissionError".toList,
    "ProcessLookupError".toList, "TimeoutError".toList]

def sourceKinds : List Text :=
  ["SyntaxError".toList, "IndentationError".toList, "TabError".toList]

/-- Whether what a controller raised means that it cannot be loaded at all. -/
def cause? (raised : Raised) : Option Cause :=
  if raised.kind ∈ loadingKinds then some .loading
  else if raised.kind ∈ systemKinds then some .system
  else if raised.kind ∈ sourceKinds then some .badSource
  else none

/-- A source that cannot be read as one. -/
def unreadable : Raised := ⟨"SyntaxError", none⟩

end Raised

namespace Member

/-- The name that a member binds or takes away. -/
def bound : Member → Text
  | .define name _ => name
  | .synonym name _ => name
  | .delete name => name

/-- The name that a member looks up. -/
def looksUp? : Member → Option Text
  | .synonym _ target => some target
  | _ => none

end Member

namespace Source

/-- The words that cannot be names. -/
def reserved : List Text :=
  ["False".toList, "None".toList, "True".toList, "and".toList, "as".toList, "assert".toList,
    "async".toList, "await".toList, "break".toList, "class".toList, "continue".toList,
    "def".toList, "del".toList, "elif".toList, "else".toList, "except".toList, "finally".toList,
    "for".toList, "from".toList, "global".toList, "if".toList, "import".toList, "in".toList,
    "is".toList, "lambda".toList, "nonlocal".toList, "not".toList, "or".toList, "pass".toList,
    "raise".toList, "return".toList, "try".toList, "while".toList, "with".toList,
    "yield".toList]

/-- Whether a word can be bound: it is a name, and not the one that is bound for good. -/
def canBind (word : Text) : Bool :=
  Text.isName word && !reserved.contains word && Text.unified word != "__debug__".toList

/-- Whether a word can be looked up: it is a name or a constant. -/
def canLookUp (word : Text) : Bool :=
  Text.isName word && (!reserved.contains word || (constantWords.lookup word).isSome)

/-- The words that are looked up. -/
def lookedUp (source : Source) : List Text :=
  source.members.filterMap Member.looksUp? ++ (source.raises.map Raised.kind).toList

/-- Why nothing of a source can be carried out, if that is so. -/
def flaw? (source : Source) : Option Fault :=
  let bound := source.members.map Member.bound
  if (bound ++ source.lookedUp).any fun word => word.contains '\x00' then some .sourceHoldsNul
  else if bound.all canBind && source.lookedUp.all canLookUp then none
  else some (.controllerRaised .unreadable)

/-- The name under which a controller has its own name. -/
def ownName : Text := "__name__"

/-- The file in a directory that is a controller. -/
def packageFile : Text := "__init__.py"

/-- The package that all controllers belong to. -/
def commonPackage : Text := "routeconf_controllers"

/-- The package of a controller: that of all, unless it is one itself. -/
def packageOf (p : Path) : Thing :=
  if p.name = packageFile then .inertObject else .constant (.text commonPackage)

/-- What a controller in a file is given before its members are carried out.  One that is a
directory has that, too. -/
def given (p : Path) : List (Text × Thing) :=
  let own : List (Text × Thing) :=
    [(ownName, .inertObject), ("__doc__", .constant .null), ("__package__", packageOf p),
      ("__loader__", .constant (.instanceOf "SourceFileLoader")),
      ("__spec__", .constant (.instanceOf "ModuleSpec"))]
  let inside : List (Text × Thing) :=
    if p.name = packageFile then [("__path__", .constant (.collection .list [.text p.parent.text]))]
    else []
  let located : List (Text × Thing) :=
    [("__file__", .constant (.text p.text)), ("__cached__", .inertObject),
      ("__builtins__", .inertObject)]
  own ++ inside ++ located

/-- The names that a controller in a file starts with. -/
def startingNames (p : Path) (loading : Nat) : Assoc Object :=
  (given p).mapIdx fun place p => (p.1, ⟨loading, place, p.2, .value .null⟩)

/-- The home of a thing that is made while some names are bound. -/
def homeOf (names : Assoc Object) : Thing → Home
  | .constant _ => .value .null
  | .imported => .value (.text "json")
  | .builtin _ => .value (.text "builtins")
  | .borrowed home .. => .value home
  | .function .. => ((Assoc.get? ownName names).map Object.asHome).getD (.value .null)
  | .anonymous _ => ((Assoc.get? ownName names).map Object.asHome).getD (.value .null)
  | _ => ((Assoc.get? ownName names).map Object.asHome).getD (.value (.text "builtins"))

/-- The object that a name stands for while some names are bound: a bound one, or one of the
language. -/
def meaning? (loading place : Nat) (names : Assoc Object) (name : Text) : Option Object :=
  match Assoc.get? name names with
  | some object => some object
  | none => (builtin? name).map fun thing => ⟨loading, place, thing, homeOf names thing⟩

/-- Carries out members from a table of names on; `place` counts the objects made so far. -/
def perform (loading : Nat) : (place : Nat) → List Member → Assoc Object →
    Except Fault (Assoc Object)
  | _, [], names => .ok names
  | place, .define word thing :: rest, names =>
    let name := Text.unified word
    perform loading (place + 1) rest
      (Assoc.set name ⟨loading, place, thing.named name, homeOf names thing⟩ names)
  | place, .synonym word target :: rest, names =>
    match meaning? loading place names (Text.unified target) with
    | some object => perform loading (place + 1) rest (Assoc.set (Text.unified word) object names)
    | none => .error .undefinedName
  | place, .delete word :: rest, names =>
    match Assoc.get? (Text.unified word) names with
    | some _ => perform loading place rest (Assoc.erase (Text.unified word) names)
    | none => .error .undefinedName

/-- What comes of raising a thing with a message: only a kind of fault can be raised, and all else
is called first, which may fail by itself. -/
def raising (message : Option Text) : Thing → Fault
  | .builtin kind =>
    if kind ∈ faultKinds then .controllerRaised ⟨kind, message⟩ else .badArguments
  | .function _ _ (some said) => .handlerRaised said
  | _ => .badArguments

/-- What comes of raising what a word stands for. -/
def raised (names : Assoc Object) (r : Raised) : Fault :=
  match meaning? 0 0 names (Text.unified r.kind) with
  | some object => raising r.message object.thing
  | none => .undefinedName

/-- The names that a loading of the source in a file leaves, or what it raises. -/
def run (source : Source) (p : Path) (loading : Nat) : Except Fault (Assoc Object) := do
  match source.flaw? with
  | some fault => throw fault
  | none =>
    let names ← perform loading (given p).length source.members (startingNames p loading)
    match source.raises with
    | some r => throw (raised names r)
    | none => return names

end Source

end Routing
