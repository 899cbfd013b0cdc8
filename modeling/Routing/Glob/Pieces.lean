import Routing.Fault
import Routing.Glob

/-!
# Globs in pieces

A glob can also be given as a row of values.  A value that is a star or a question mark is a
wildcard, any other text stands for its characters, whatever they are.  Brackets would be looked
into as a text, which a row is not: it is a fault to close them, and an open one stands for itself.
-/

namespace Routing.Glob

/-- Whether brackets are closed by some value after the opening one, by the rule of `inside?`. -/
def closes (pieces : List Value) : Bool :=
  let inside := if pieces.head? = some (.text "!") then pieces.drop 1 else pieces
  (inside.drop 1).contains (.text "]")

/-- The tokens of a glob in pieces.  Bytes are found out last, any other value that is no text at
once. -/
def ofPieces : List Value → Except Fault (List Token)
  | [] => .ok []
  | .scalar (.text piece) :: pieces => do
    if piece = ['['] ∧ closes pieces = true then throw .globClassInPieces
    let tokens ← ofPieces pieces
    if piece = ['*'] then return .star :: tokens
    else if piece = ['?'] then return .any :: tokens
    else return piece.map .literal ++ tokens
  | .scalar (.bytes _) :: pieces => do
    let _ ← ofPieces pieces
    throw .globNotText
  | _ :: _ => .error .globNotText

end Routing.Glob
