import Routing.Text.Quoted
import Routing.Value

/-!
# The text of a value

`written` is the text under which a value goes into a URL or a message, `shown` the text it has
inside a collection.  They differ for texts, which are quoted inside, for objects, and for instances
that say so.
-/

namespace Routing

/-- The text of a plain value. -/
def Scalar.written : Scalar → Text
  | .bool true => "True"
  | .bool false => "False"
  | .int n => Text.ofInt n
  | .float x => x.text
  | .text s => s
  | .bytes data => Text.quotedBytes data

namespace Value

mutual

/-- The text of a value inside a collection. -/
def shown : Value → Text
  | .null => "None"
  | .scalar (.text s) => Text.quoted s
  | .scalar s => s.written
  | .collection kind elements =>
    let inner := Text.joinWith ", " (shownAll elements)
    match kind, elements with
    | .list, _ => '[' :: inner ++ [']']
    | .tuple, [_] => '(' :: inner ++ [',', ')']
    | .tuple, _ => '(' :: inner ++ [')']
    | .set, [] => "set()"
    | .set, _ => '{' :: inner ++ ['}']
    | .fixedSet, [] => "frozenset()"
    | .fixedSet, _ => "frozenset(\x7b".toList ++ inner ++ "\x7d)".toList
  | .object kind fields =>
    match kind with
    | .dictionary => '{' :: Text.joinWith ", " (shownFields fields) ++ ['}']
    | .mapping =>
      "mappingproxy(\x7b".toList ++ Text.joinWith ", " (shownFields fields) ++ "\x7d)".toList
    | .model className =>
      className ++ '(' :: Text.joinWith ", " (shownAttributes fields) ++ [')']
  | .code .function => "<function>"
  | .code .classObject => "<class>"
  | .made i => i.shown

def shownAll : List Value → List Text
  | [] => []
  | v :: vs => shown v :: shownAll vs

/-- Keys and values as a dictionary shows them. -/
def shownFields : List (Value × Value) → List Text
  | [] => []
  | (key, v) :: rest => (shown key ++ ": ".toList ++ shown v) :: shownFields rest

/-- Keys and values as a data model shows them. -/
def shownAttributes : List (Value × Value) → List Text
  | [] => []
  | (.scalar key, v) :: rest => (key.written ++ '=' :: shown v) :: shownAttributes rest
  | (_, v) :: rest => ('=' :: shown v) :: shownAttributes rest

end

/-- The text of a value on its own. -/
def written : Value → Text
  | .scalar s => s.written
  | .object .mapping fields => shown (.object .dictionary fields)
  | .object (.model _) fields => Text.joinWith " " (shownAttributes fields)
  | .made i => i.written
  | v => shown v

@[simp] theorem written_text (s : Text) : written (text s) = s := rfl

@[simp] theorem written_scalar (s : Scalar) : written (.scalar s) = s.written := rfl

example : shown (.collection .tuple [int 1, text "x"]) = "(1, 'x')" := by decide

end Value

end Routing
