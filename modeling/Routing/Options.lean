import Routing.Expansion
import Routing.Settings
import Routing.Value.Fields

/-!
# Router options

Seven options, each with a default, given by name in two rounds of which the second wins.  The first
round is one value, a mapping or pairs; the second gives each option by itself.  An option given as
nothing counts as not given.  Options are kept as they were given; what they have to be is asked
where they are used.
-/

namespace Routing

structure Options where
  controllersPath : Value
  rootPath : Value
  routesFile : Value
  templateVar : Value
  strictValues : Value
  staticPrefix : Value
  wildcard : Value
  deriving DecidableEq

namespace Options

/-- The options as they are when nothing is given and the working directory is `home`. -/
def default (home : Text) : Options where
  controllersPath := .text "app/controllers/"
  rootPath := .text home
  routesFile := .text "config/routes.conf"
  templateVar := .text "routeconf"
  strictValues := .bool false
  staticPrefix := .text "staticDir:"
  wildcard := .text "\x7bmethod\x7d"

/-- The options by name. -/
def toSettings (o : Options) : Settings :=
  [("controllers_path", o.controllersPath), ("root_path", o.rootPath),
    ("routes_file", o.routesFile), ("template_var", o.templateVar),
    ("strict_values", o.strictValues), ("static_prefix", o.staticPrefix),
    ("wildcard", o.wildcard)]

/-- What is given, unless it is missing or nothing. -/
def orDefault (given : Option Value) (default : Value) : Value :=
  match given with
  | none | some .null => default
  | some v => v

/-- An option that may be given. -/
def chosen (given : Settings) (name : Text) (default : Value) : Value :=
  orDefault (Assoc.get? name given) default

/-- Options by name, over the default ones. -/
def ofSettings (home : Text) (given : Settings) : Options :=
  let d := default home
  { controllersPath := chosen given "controllers_path" d.controllersPath
    rootPath := chosen given "root_path" d.rootPath
    routesFile := chosen given "routes_file" d.routesFile
    templateVar := chosen given "template_var" d.templateVar
    strictValues := chosen given "strict_values" d.strictValues
    staticPrefix := chosen given "static_prefix" d.staticPrefix
    wildcard := chosen given "wildcard" d.wildcard }

/-- The given names that are no option's, in order. -/
def unknownNames (home : Text) (given : Settings) : List Text :=
  ((Assoc.keys given).filter fun name =>
    !(Assoc.keys (default home).toSettings).contains name).mergeSort Text.precedes

/-- The two elements that a value has to have to be a field. -/
def fieldOf (v : Value) : Except Fault (Value × Value) :=
  match v.elements? with
  | some [key, v] => if key.isKey then .ok (key, v) else .error .unusableKey
  | some _ => .error .optionFieldNotPair
  | none => .error .optionsNotFields

/-- The fields of a value that gives options: those of an object, or its elements as pairs.  A value
that counts as false has none. -/
def fieldsOf (v : Value) : Except Fault Fields :=
  if v.isTrue then
    match v with
    | .object _ fields => .ok fields
    | v =>
      match v.elements? with
      | some elements => do return Fields.ofPairs (← elements.mapM fieldOf)
      | none => .error .optionsNotFields
  else .ok []

/-- The name under which the first round may be given with the second. -/
def firstRoundName : Text := "options"

/-- The value of the first round, which can be given once: by itself or with the second. -/
def firstRound (options : Option Value) (overrides : Settings) : Except Fault Value :=
  if (Assoc.get? Settings.ownName overrides).isSome then .error .optionsGivenTwice
  else
    match options, Assoc.get? firstRoundName overrides with
    | none, given => .ok (given.getD .null)
    | some v, none => .ok v
    | some _, some _ => .error .optionsGivenTwice

/-- All fields that two rounds give. -/
def givenFields (options : Option Value) (overrides : Settings) : Except Fault Fields := do
  let first ← fieldsOf (← firstRound options overrides)
  return (Assoc.erase firstRoundName overrides).foldl
    (fun fields p => Fields.set (.text p.1) p.2 fields) first

/-- Fields whose keys are texts, as settings. -/
def settingsOf? (fields : Fields) : Option Settings :=
  fields.mapM fun p => p.1.text?.map fun name => (name, p.2)

/-- The options that two rounds of giving make. -/
def ofRounds (home : Text) (options : Option Value) (overrides : Settings) :
    Except Fault Options := do
  match settingsOf? (← givenFields options overrides) with
  | none => throw .optionNameNotText
  | some given =>
    match unknownNames home given with
    | [] => return ofSettings home given
    | names => throw (.unknownOptions names)

/-- An option that has to be a text. -/
def asText (v : Value) : Except Fault Text :=
  match v.text? with
  | some s => .ok s
  | none => .error .optionNotText

/-- Whether values that cannot be placed in a URL are refused. -/
def isStrict (o : Options) : Bool := o.strictValues.isTrue

/-- What marks targets.  A wildcard that is no text is no method's name, like the empty one. -/
def marks (o : Options) : Marks := ⟨FolderMark.ofValue o.staticPrefix, o.wildcard.text?.getD []⟩

end Options

end Routing
