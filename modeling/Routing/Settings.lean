import Routing.Assoc
import Routing.Fault
import Routing.Text.Blank
import Routing.Text.Utf8

/-!
# Settings

What a plugin is configured with: values under names, in the order in which the names were first
given.  What is wrong with given settings is up to an `Acceptance`, which a plugin may have any; the
usual one, `Settings.faults`, goes by the settings that are declared with their kinds, first these in
the order of declaration and then the others as given.  Settings can also be given as flags, a text of
names with `off` or anything else after a colon.
-/

namespace Routing

abbrev Settings := Assoc Value

/-- Everything that is wrong with given settings, each with the name of the setting; settings with
which nothing is wrong are accepted. -/
abbrev Acceptance := Settings → List (Text × SettingFault)

inductive SettingKind where
  | bool
  | text
  deriving DecidableEq

/-- A setting that a plugin declares. -/
structure Declared where
  name : Text
  kind : SettingKind
  required : Bool
  deriving DecidableEq

namespace SettingKind

/-- The words that read as a truth value, in lower case. -/
def falseWords : List Text :=
  ["0".toList, "off".toList, "f".toList, "false".toList, "n".toList, "no".toList]

def trueWords : List Text :=
  ["1".toList, "on".toList, "t".toList, "true".toList, "y".toList, "yes".toList]

/-- The truth value that a word spells in any case of its ASCII letters. -/
def boolOfWord? (word : Text) : Option Bool :=
  let lower := word.map Char.toLower
  if lower ∈ falseWords then some false
  else if lower ∈ trueWords then some true
  else none

/-- The truth value that a word spells, or why it spells none. -/
def readWord (word : Text) : Except SettingFault Bool :=
  match boolOfWord? word with
  | some b => .ok b
  | none => .error .notReadableAsBool

/-- Zero and one read as truth values; any other integer could have been one of them. -/
def readInt (n : Int) : Except SettingFault Bool :=
  if n = 0 then .ok false else if n = 1 then .ok true else .error .notReadableAsBool

/-- The truth value that a value reads as: itself, the numbers zero and one, and the words for it,
as a text or as UTF-8.  Integers that need more than 64 bits, and numbers that are no integers, are
of a wrong kind altogether. -/
def readBool : Value → Except SettingFault Bool
  | .scalar (.bool b) => .ok b
  | .scalar (.int n) => if -Int.pow 2 63 ≤ n ∧ n < Int.pow 2 63 then readInt n else .error .notBool
  | .scalar (.float x) =>
    match x.integer? with
    | some n => if -Int.pow 2 63 < n ∧ n < Int.pow 2 63 then readInt n else .error .notBool
    | none => .error .notBool
  | .scalar (.text word) => readWord word
  | .scalar (.bytes data) =>
    match Text.ofUtf8? data with
    | some word => readWord word
    | none => .error .notReadableAsBool
  | _ => .error .notBool

/-- The text that a value reads as: itself, or bytes that are UTF-8. -/
def readText : Value → Except SettingFault Text
  | .scalar (.text s) => .ok s
  | .scalar (.bytes data) =>
    match Text.ofUtf8? data with
    | some s => .ok s
    | none => .error .notUtf8
  | _ => .error .notText

/-- What is wrong with a value of a setting of this kind, if anything is. -/
def fault? (kind : SettingKind) (v : Value) : Option SettingFault :=
  match kind with
  | .bool => match readBool v with
    | .ok _ => none
    | .error fault => some fault
  | .text => match readText v with
    | .ok _ => none
    | .error fault => some fault

end SettingKind

namespace Settings

/-- What is wrong with a declared setting among the given ones. -/
def declaredFault? (given : Settings) (d : Declared) : Option (Text × SettingFault) :=
  match Assoc.get? d.name given with
  | some v => (d.kind.fault? v).map fun fault => (d.name, fault)
  | none => if d.required then some (d.name, .missing) else none

/-- The name under which a plugin is handed to its own configuration. -/
def ownName : Text := "self"

/-- The acceptance of declared settings and of no others. -/
def faults (declared : List Declared) : Acceptance := fun given =>
  ((Assoc.get? ownName given).toList.map fun _ => (ownName, .givenTwice)) ++
    declared.filterMap (declaredFault? given) ++
    ((given.filter fun p => p.1 != ownName && !(declared.map Declared.name).contains p.1).map
      fun p => (p.1, .unexpected))

/-- Accepts the given settings or reports all that is wrong with them. -/
def check (acceptance : Acceptance) (given : Settings) : Except Fault Unit :=
  match acceptance given with
  | [] => .ok ()
  | all => .error (.invalidSettings all)

/-- A name and whether it is on, from one chunk of flags. -/
def ofFlag (chunk : Text) : Text × Bool :=
  if ':' ∈ chunk then
    let (name, word) := Text.cutAt ':' chunk
    (Text.trim Text.isBlank name,
      (Text.trim Text.isBlank word).map Char.toLower != "off".toList)
  else (chunk, true)

/-- The chunks of a text between commas, less the blanks around them; empty ones are left out. -/
def chunks (s : Text) : List Text :=
  ((Text.splitAt ',' s).map (Text.trim Text.isBlank)).filter (!·.isEmpty)

/-- The settings that flags spell; the last word for a name counts. -/
def ofFlags (flags : Text) : Settings :=
  Assoc.merge [] ((chunks flags).map fun chunk => ((ofFlag chunk).1, .bool (ofFlag chunk).2))

theorem check_eq_ok_iff {acceptance : Acceptance} {given : Settings} :
    check acceptance given = .ok () ↔ acceptance given = [] := by
  unfold check
  split <;> simp_all

end Settings

end Routing
