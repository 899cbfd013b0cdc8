import Routing.Decimal.Shortest

/-!
# Values

What a caller may hand to the library: as a URL parameter, as an option, as the setting of a plugin.
A value is *plain* if it can be written into a URL: it is a scalar, or an instance of some class that
says itself how it is written.  The rest are nothing at all, collections, objects with fields, and
code.
-/

namespace Routing

/-- The values that have a text of their own. -/
inductive Scalar where
  | bool (b : Bool)
  | int (n : Int)
  | float (x : Decimal.Double)
  | text (s : Text)
  | bytes (data : List UInt8)
  deriving DecidableEq

/-- How the elements of a collection are kept. -/
inductive CollectionKind where
  | list
  | tuple
  | set
  | fixedSet
  deriving DecidableEq

/-- Whether the order of the elements is part of the collection. -/
def CollectionKind.isOrdered : CollectionKind → Bool
  | .list | .tuple => true
  | .set | .fixedSet => false

/-- What carries the fields of an object: a dictionary, another mapping, or a data model with a
class of its own. -/
inductive ObjectKind where
  | dictionary
  | mapping
  | model (className : Text)
  deriving DecidableEq

inductive CodeKind where
  | function
  | classObject
  deriving DecidableEq

/-- What an instance of a class says of itself: how it is written on its own and how inside a
collection, whether it counts as true, and whether it may be a key. -/
structure Instance where
  className : Text
  written : Text
  shown : Text
  isTrue : Bool
  isKey : Bool
  deriving DecidableEq

/-- An instance of a class that says nothing of its own. -/
def Instance.ofClass (className : Text) : Instance :=
  let text := '<' :: className ++ " object>".toList
  ⟨className, text, text, true, true⟩

inductive Value where
  | null
  | scalar (s : Scalar)
  | collection (kind : CollectionKind) (elements : List Value)
  | object (kind : ObjectKind) (fields : List (Value × Value))
  | code (kind : CodeKind)
  /-- An instance of a class that has no fields to be bound by name, is not gone through and cannot
  be called. -/
  | made (i : Instance)

/-- The fields of an object in their order, no key twice. -/
abbrev Fields := List (Value × Value)

namespace Value

mutual

/-- Equality of values is decidable. -/
def decEq : (v w : Value) → Decidable (v = w)
  | .null, .null => isTrue rfl
  | .scalar s, .scalar t =>
    if h : s = t then isTrue (h ▸ rfl) else isFalse fun e => h (Value.scalar.inj e)
  | .collection k vs, .collection l ws =>
    if h : k = l then
      match decEqAll vs ws with
      | isTrue h' => isTrue (h ▸ h' ▸ rfl)
      | isFalse h' => isFalse fun e => h' (Value.collection.inj e).2
    else isFalse fun e => h (Value.collection.inj e).1
  | .object k vs, .object l ws =>
    if h : k = l then
      match decEqFields vs ws with
      | isTrue h' => isTrue (h ▸ h' ▸ rfl)
      | isFalse h' => isFalse fun e => h' (Value.object.inj e).2
    else isFalse fun e => h (Value.object.inj e).1
  | .code k, .code l => if h : k = l then isTrue (h ▸ rfl) else isFalse fun e => h (Value.code.inj e)
  | .made i, .made j => if h : i = j then isTrue (h ▸ rfl) else isFalse fun e => h (Value.made.inj e)
  | .null, .scalar _ | .null, .collection .. | .null, .object .. | .null, .code _ | .null, .made _ =>
    isFalse nofun
  | .scalar _, .null | .scalar _, .collection .. | .scalar _, .object .. | .scalar _, .code _
  | .scalar _, .made _ => isFalse nofun
  | .collection .., .null | .collection .., .scalar _ | .collection .., .object ..
  | .collection .., .code _ | .collection .., .made _ => isFalse nofun
  | .object .., .null | .object .., .scalar _ | .object .., .collection .. | .object .., .code _
  | .object .., .made _ => isFalse nofun
  | .code _, .null | .code _, .scalar _ | .code _, .collection .. | .code _, .object ..
  | .code _, .made _ => isFalse nofun
  | .made _, .null | .made _, .scalar _ | .made _, .collection .. | .made _, .object ..
  | .made _, .code _ => isFalse nofun

def decEqAll : (vs ws : List Value) → Decidable (vs = ws)
  | [], [] => isTrue rfl
  | v :: vs, w :: ws =>
    match decEq v w, decEqAll vs ws with
    | isTrue h, isTrue h' => isTrue (h ▸ h' ▸ rfl)
    | isFalse h, _ => isFalse fun e => h (List.cons.inj e).1
    | _, isFalse h => isFalse fun e => h (List.cons.inj e).2
  | [], _ :: _ => isFalse nofun
  | _ :: _, [] => isFalse nofun

def decEqFields : (vs ws : List (Value × Value)) → Decidable (vs = ws)
  | [], [] => isTrue rfl
  | (j, v) :: vs, (k, w) :: ws =>
    match decEq j k, decEq v w, decEqFields vs ws with
    | isTrue h, isTrue h', isTrue h'' => isTrue (h ▸ h' ▸ h'' ▸ rfl)
    | isFalse h, _, _ => isFalse fun e => h (Prod.mk.inj (List.cons.inj e).1).1
    | _, isFalse h, _ => isFalse fun e => h (Prod.mk.inj (List.cons.inj e).1).2
    | _, _, isFalse h => isFalse fun e => h (List.cons.inj e).2
  | [], _ :: _ => isFalse nofun
  | _ :: _, [] => isFalse nofun

end

instance : DecidableEq Value := decEq

instance : Inhabited Value := ⟨.null⟩

/-- A text as a value. -/
abbrev text (s : Text) : Value := .scalar (.text s)

abbrev bool (b : Bool) : Value := .scalar (.bool b)

abbrev int (n : Int) : Value := .scalar (.int n)

/-- What a call of a class makes. -/
abbrev instanceOf (className : Text) : Value := .made (.ofClass className)

/-- Whether the value can be placed in a URL. -/
def isPlain : Value → Bool
  | .scalar _ => true
  | .made _ => true
  | _ => false

/-- Whether the value can be called. -/
def isCallable : Value → Bool
  | .code _ => true
  | _ => false

mutual

/-- The value with every data model inside it opened into a dictionary. -/
def opened : Value → Value
  | .collection kind elements => .collection kind (openedAll elements)
  | .object .dictionary fields => .object .dictionary (openedFields fields)
  | .object .mapping fields => .object .mapping fields
  | .object (.model _) fields => .object .dictionary (openedFields fields)
  | v => v

def openedAll : List Value → List Value
  | [] => []
  | v :: vs => opened v :: openedAll vs

def openedFields : List (Value × Value) → List (Value × Value)
  | [] => []
  | (key, v) :: rest => (key, opened v) :: openedFields rest

end

/-- The fields of an object, to be bound by name; nothing else has any. -/
def fields? : Value → Option Fields
  | .object (.model _) fields => some (openedFields fields)
  | .object _ fields => some fields
  | _ => none

/-- The values that a value is gone through in, if it can be: the characters of a text, the numbers
of bytes, the elements of a collection, the keys of a mapping and the fields of a data model, each
with its name. -/
def elements? : Value → Option (List Value)
  | .scalar (.text s) => some (s.map fun c => text [c])
  | .scalar (.bytes data) => some (data.map fun byte => int byte.toNat)
  | .collection _ elements => some elements
  | .object (.model _) fields => some (fields.map fun p => .collection .tuple [p.1, p.2])
  | .object _ fields => some (fields.map Prod.fst)
  | _ => none

/-- How many elements a value has, if they are counted: a data model does not count its fields. -/
def size? : Value → Option Nat
  | .object (.model _) _ => none
  | v => v.elements?.map List.length

/-- The name of a value's type, as messages give it. -/
def typeName : Value → Text
  | .null => "NoneType"
  | .scalar (.bool _) => "bool"
  | .scalar (.int _) => "int"
  | .scalar (.float _) => "float"
  | .scalar (.text _) => "str"
  | .scalar (.bytes _) => "bytes"
  | .collection .list _ => "list"
  | .collection .tuple _ => "tuple"
  | .collection .set _ => "set"
  | .collection .fixedSet _ => "frozenset"
  | .object .dictionary _ => "dict"
  | .object .mapping _ => "mappingproxy"
  | .object (.model className) _ => className
  | .code .function => "function"
  | .code .classObject => "type"
  | .made i => i.className

/-- Zero, the empty text, the empty collection and nothing count as false, all else as true. -/
def isTrue : Value → Bool
  | .null => false
  | .scalar (.bool b) => b
  | .scalar (.int n) => n != 0
  | .scalar (.float x) => !x.isZero
  | .scalar (.text s) => !s.isEmpty
  | .scalar (.bytes data) => !data.isEmpty
  | .collection _ elements => !elements.isEmpty
  | .object (.model _) _ => true
  | .object _ fields => !fields.isEmpty
  | .code _ => true
  | .made i => i.isTrue

mutual

/-- Whether the value may be a key: it has no fields, and nothing in it can change. -/
def isKey : Value → Bool
  | .collection .list _ => false
  | .collection .set _ => false
  | .collection .tuple elements => areKeys elements
  | .collection .fixedSet elements => areKeys elements
  | .object .. => false
  | .made i => i.isKey
  | _ => true

def areKeys : List Value → Bool
  | [] => true
  | v :: vs => isKey v && areKeys vs

end

/-- The text, of a text. -/
def text? : Value → Option Text
  | .scalar (.text s) => some s
  | _ => none

theorem text?_eq_some_iff {v : Value} {s : Text} : v.text? = some s ↔ v = .text s := by
  constructor
  · intro h
    unfold text? at h
    split at h
    · rw [Option.some.inj h]
    · exact nomatch h
  · rintro rfl
    rfl

end Value

end Routing
