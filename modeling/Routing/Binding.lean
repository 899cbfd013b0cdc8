import Routing.Pattern
import Routing.Value.Fields
import Routing.Fault

/-!
# Binding a pattern to arguments

Arguments are used up from left to right against the URL as it stands.  An object fills the
placeholders that bear the names of its fields, and its other fields follow as query pairs; any
other value fills the first placeholder left, whatever its name.  A value that cannot be placed in a
URL is passed over, or refused when binding is strict.  What is substituted is not escaped and is
read again by later arguments.  A URL with a placeholder left over at the end is not complete.
-/

namespace Routing

/-- How binding ends when no value is refused. -/
inductive Binding where
  | complete (url : Text)
  /-- `placeholder` is the first one left in `url`. -/
  | short (placeholder url : Text)
  deriving DecidableEq

namespace Binding

/-- Whether a value goes into the URL under a key.  One that cannot be placed does not, and is
refused altogether when binding is strict. -/
def admits (strict : Bool) (key v : Value) : Except Fault Bool :=
  if v.isPlain then .ok true
  else if strict then .error (.unplaceableValue key v)
  else .ok false

/-- Lets one value fill the first placeholder. -/
def fillByPlace (strict : Bool) (url : Text) (v : Value) : Except Fault Text :=
  match Pattern.first? url with
  | none => .ok url
  | some hole => do
    if ← admits strict (.text hole.name) v then
      return hole.before ++ v.written ++ hole.after
    else
      return url

/-- Lets fields fill the placeholders with these names.  A field is used up by the first of them,
even if its value is passed over. -/
def fillNames (strict : Bool) : List Text → Text → Fields → Except Fault (Text × Fields)
  | [], url, fields => .ok (url, fields)
  | name :: names, url, fields =>
    match Fields.take? name fields with
    | none => fillNames strict names url fields
    | some (v, others) => do
      if ← admits strict (.text name) v then
        fillNames strict names (Pattern.fill name v.written url) others
      else
        fillNames strict names url others

/-- What comes before the next query pair. -/
def pairSeparator (url : Text) : Char := if '?' ∈ url then '&' else '?'

/-- A URL with one more query pair. -/
def addPair (url : Text) (key v : Value) : Text :=
  url ++ pairSeparator url :: key.written ++ '=' :: v.written

/-- Lets the fields follow as query pairs, in their order. -/
def addQuery (strict : Bool) : Text → Fields → Except Fault Text
  | url, [] => .ok url
  | url, (key, v) :: rest => do
    if ← admits strict key v then addQuery strict (addPair url key v) rest
    else addQuery strict url rest

/-- Lets an object's fields fill the placeholders they name and follow as query pairs otherwise. -/
def fillByName (strict : Bool) (url : Text) (fields : Fields) : Except Fault Text := do
  let (url, rest) ← fillNames strict (Pattern.names url) url fields
  addQuery strict url rest

/-- Uses up one argument. -/
def consume (strict : Bool) (url : Text) : Value → Except Fault Text
  | .null => .ok url
  | v =>
    match v.fields? with
    | some fields => fillByName strict url fields
    | none => fillByPlace strict url v

/-- Uses up arguments from left to right. -/
def consumeAll (strict : Bool) : Text → List Value → Except Fault Text
  | url, [] => .ok url
  | url, v :: rest => do
    let url ← consume strict url v
    consumeAll strict url rest

/-- Arguments as a list: a list or tuple is one already, any other value is the only argument. -/
def arguments : Value → List Value
  | .collection .list elements => elements
  | .collection .tuple elements => elements
  | v => [v]

/-- Whether a URL is complete, and what is missing if it is not. -/
def ofUrl (url : Text) : Binding :=
  match Pattern.first? url with
  | none => .complete url
  | some hole => .short (Pattern.placeholder hole.name) url

/-- Binds arguments that are already a list. -/
def ofList (strict : Bool) (pattern : Text) (args : List Value) : Except Fault Binding :=
  (consumeAll strict pattern args).map ofUrl

/-- Binds a pattern to arguments. -/
def ofArgs (strict : Bool) (pattern : Text) (args : Value) : Except Fault Binding :=
  ofList strict pattern (arguments args)

/-- The URL of a complete binding; a short one is a fault. -/
def url : Binding → Except Fault Text
  | .complete url => .ok url
  | .short placeholder url => .error (.unfilledPlaceholder placeholder url)

/-- The URL that a pattern and arguments make. -/
def urlOf (strict : Bool) (pattern : Text) (args : Value) : Except Fault Text := do
  (← ofArgs strict pattern args).url

/-- The URL that an object's fields make of another. -/
def extend (strict : Bool) (url : Text) (v : Value) : Except Fault Text :=
  match v.fields? with
  | some fields => fillByName strict url fields
  | none => .error (.notAnObject v.typeName)

@[simp] theorem admits_of_plain {v : Value} (h : v.isPlain = true) (strict : Bool) (key : Value) :
    admits strict key v = .ok true := by
  simp [admits, h]

theorem fields?_of_plain {v : Value} (h : v.isPlain = true) : v.fields? = none := by
  cases v with
  | scalar s => rfl
  | made i => rfl
  | _ => exact nomatch h

/-- A binding that is not strict refuses nothing. -/
theorem admits_lenient (key v : Value) : admits false key v = .ok v.isPlain := by
  unfold admits
  cases v.isPlain <;> rfl

theorem ofUrl_complete_iff {url u : Text} :
    ofUrl url = .complete u ↔ u = url ∧ Pattern.names url = [] := by
  unfold ofUrl
  rw [← Pattern.first?_eq_none_iff]
  cases h : Pattern.first? url <;> simp [eq_comm]

end Binding

end Routing
