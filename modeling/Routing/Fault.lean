import Routing.Value.Written

/-!
# Faults

Everything that can go wrong, one constructor for each cause.  `Fault.family` says which general
situation a fault belongs to, `Fault.message` what is said about it; faults that speak for
themselves have no message.
-/

namespace Routing

/-- The general situations. -/
inductive Family where
  | value
  | system
  | loading
  | access
  | type
  | lookup
  | key
  | name
  | arithmetic
  | state
  | validation
  deriving DecidableEq

/-- What another fault was caused by. -/
inductive Cause where
  | loading
  | system
  | badSource
  | undecodable
  deriving DecidableEq

/-- What is wrong with one setting of a plugin. -/
inductive SettingFault where
  | notReadableAsBool
  | notBool
  | notText
  | notUtf8
  | unexpected
  | missing
  | givenTwice
  deriving DecidableEq

/-- What a controller's own code raised: the name of its kind and what it said, if anything. -/
structure Raised where
  kind : Text
  message : Option Text
  deriving DecidableEq

/-- The kind that says that there is nothing more to go through. -/
def Raised.endKind : Text := "StopIteration"

inductive Fault where
  -- the table and its sources
  | unknownVerb (verb path : Text)
  | malformedLine (line reason : Text) (number : Option Int)
  | unreadableFile (path reason : Text) (cause : Option Cause)
  | missingController (controller location : Text) (cause : Option Cause)
  | missingMethod (controller method : Text)
  | missingFolder (directory : Text)
  -- binding and reversing
  | unfilledPlaceholder (placeholder url : Text)
  | unplaceableValue (key v : Value)
  | unknownAction (action : Text)
  | notAnObject (typeName : Text)
  -- options, paths and controllers
  | unknownOptions (names : List Text)
  | optionsNotFields
  | optionFieldNotPair
  | optionNameNotText
  | optionsGivenTwice
  | optionNotText
  | unusableKey
  | pathHoldsNul
  | nameTooLong
  | sourceHoldsNul
  | undefinedName
  | notCallable
  | badArguments
  | exportsNotIterable
  | moduleWithoutName
  | controllerRaised (raised : Raised)
  | searchCutShort
  -- hosts and handlers
  | unknownHost (host : Text)
  | hostWithoutContext (host : Text)
  | hostCannotRegister (host verb : Text)
  | hostCannotMount
  | entryRejected (message : Text)
  | handlerRaised (message : Text)
  | clockOutOfRange
  -- plugins
  | notAPluginClass
  | pluginWithoutCode (className : Text)
  | pluginCodeTaken (code : Text)
  | pluginNameNotText (typeName : Text)
  | unknownPlugin (name : Text) (available : List Text)
  | pluginAlreadyAttached (code : Text)
  | noSuchPlugin (name : Text)
  | noSuchAttribute
  | invalidSettings (faults : List (Text × SettingFault))
  | unexpectedSetting
  | settingGivenTwice
  | targetNotText
  | targetNotDivisible
  | globNotText
  | globClassInPieces
  | flagsNotText
  | flagsInBytes
  | loggerUnusable
  deriving DecidableEq

namespace Fault

def family : Fault → Family
  | unknownVerb .. => .value
  | malformedLine .. => .value
  | unreadableFile .. => .system
  | missingController .. => .loading
  | missingMethod .. => .access
  | missingFolder _ => .value
  | unfilledPlaceholder .. => .value
  | unplaceableValue .. => .type
  | unknownAction _ => .lookup
  | notAnObject _ => .type
  | unknownOptions _ => .type
  | optionsNotFields => .type
  | optionFieldNotPair => .value
  | optionNameNotText => .type
  | optionsGivenTwice => .type
  | optionNotText => .type
  | unusableKey => .type
  | pathHoldsNul => .value
  | nameTooLong => .system
  | sourceHoldsNul => .value
  | undefinedName => .name
  | notCallable => .type
  | badArguments => .type
  | exportsNotIterable => .type
  | moduleWithoutName => .access
  | controllerRaised _ => .loading
  | searchCutShort => .state
  | unknownHost _ => .key
  | hostWithoutContext _ => .type
  | hostCannotRegister .. => .type
  | hostCannotMount => .access
  | entryRejected _ => .value
  | handlerRaised _ => .value
  | clockOutOfRange => .arithmetic
  | notAPluginClass => .type
  | pluginWithoutCode _ => .value
  | pluginCodeTaken _ => .value
  | pluginNameNotText _ => .type
  | unknownPlugin .. => .value
  | pluginAlreadyAttached _ => .value
  | noSuchPlugin _ => .access
  | noSuchAttribute => .access
  | invalidSettings _ => .validation
  | unexpectedSetting => .type
  | settingGivenTwice => .type
  | targetNotText => .type
  | targetNotDivisible => .access
  | globNotText => .type
  | globClassInPieces => .access
  | flagsNotText => .access
  | flagsInBytes => .type
  | loggerUnusable => .access

/-- A fault as it leaves a search that goes through entries one by one.  Nothing in between can tell
the search that there is nothing more. -/
def leavingSearch : Fault → Fault
  | controllerRaised raised =>
    if raised.kind = Raised.endKind then searchCutShort else controllerRaised raised
  | fault => fault

/-- `name` and what follows it, if anything does. -/
def withDetail (start separator detail stop : Text) : Text :=
  if detail = [] then start else start ++ separator ++ detail ++ stop

def message : Fault → Option Text
  | unknownVerb verb path =>
    some ("Unrecognised HTTP verb '".toList ++ verb ++ "' for route: ".toList ++ path)
  | malformedLine line reason number =>
    let place : Text :=
      match number with
      | none => []
      | some n => " (line ".toList ++ Text.ofInt n ++ ")".toList
    some ("Malformed route line".toList ++ place ++ ": ".toList ++ Text.quoted line ++
      ": ".toList ++ reason)
  | unreadableFile path reason _ =>
    some (withDetail ("Unable to read routes file: ".toList ++ path) " (" reason ")")
  | missingController controller location _ =>
    some (withDetail ("Controller '".toList ++ controller ++ "' not found".toList) " at " location
      [])
  | missingMethod controller method =>
    some ("Controller '".toList ++ controller ++ "' has no callable '".toList ++ method ++
      "'".toList)
  | missingFolder directory =>
    some ("Static path is missing or not a directory: ".toList ++ directory)
  | unfilledPlaceholder placeholder _ =>
    some ("Insufficient parameters passed. Unable to bind: ".toList ++ placeholder)
  | unplaceableValue key v =>
    some ("Value for '".toList ++ key.written ++ "' cannot be placed in a URL: ".toList ++ v.typeName)
  | unknownAction action => some ("No matching action was found: ".toList ++ action)
  | notAnObject typeName =>
    some ("bind_object() expects a mapping or model, got ".toList ++ typeName)
  | unknownOptions names =>
    some ("Unknown router options: ".toList ++ Text.joinWith ", " names)
  | controllerRaised raised => raised.message
  | hostWithoutContext host =>
    some ("Host <host ".toList ++ host ++ "> exposes neither 'context' nor 'locals'".toList)
  | hostCannotRegister host verb =>
    some ("Host <host ".toList ++ host ++ "> cannot register '".toList ++ verb ++
      "' routes".toList)
  | entryRejected message => some message
  | handlerRaised message => some message
  | notAPluginClass => some "plugin_class must be a BasePlugin subclass"
  | pluginWithoutCode className =>
    some ("Plugin ".toList ++ className ++ " is missing plugin_code".toList)
  | pluginCodeTaken code => some ("Plugin '".toList ++ code ++ "' already registered".toList)
  | pluginNameNotText typeName =>
    some ("Plugin must be referenced by name string, got ".toList ++ typeName)
  | unknownPlugin name available =>
    let listed : Text := if available = [] then "none" else Text.joinWith ", " available
    some ("Unknown plugin '".toList ++ name ++ "'. Available plugins: ".toList ++ listed)
  | pluginAlreadyAttached code =>
    some ("Plugin '".toList ++ code ++ "' already attached".toList)
  | noSuchPlugin name =>
    some ("No plugin named '".toList ++ name ++ "' attached to router".toList)
  | _ => none

end Fault

end Routing
