import Routing.Charset.Grid
import Routing.Charset.Reader

/-!
# Several bytes a character

East Asian charsets without modes: the bytes held since the last character tell alone whether they
are the next one.  The charsets of one country share its sets and differ in where they put the rows:
`extended` has both numbers past 0xa0, `shifted` folds two rows under one first byte.  Main fact:
`read_packed_of_plain` (bytes that are characters of their own are read as they are).
-/

namespace Routing.Charset

open Text (inRanges)

/-- What bytes are where a character should be: all of one, the beginning of one, or neither. -/
inductive Verdict where
  | whole (c : Char)
  | begun
  | broken
  deriving DecidableEq

/-- A charset by what its bytes are where a character should be. -/
def packed (verdict : List Nat → Verdict) : Reader (List Nat) where
  start := []
  step held byte :=
    let bytes := held ++ [byte.toNat]
    match verdict bytes with
    | .whole c => some ([], [c])
    | .begun => some (bytes, [])
    | .broken => none
  finish := noneHeld

/-- Bytes below 0x80 that are characters of their own are read as they are. -/
theorem read_packed_of_plain {verdict : List Nat → Verdict}
    (h : ∀ byte, byte < 0x80 → verdict [byte] = .whole (Char.ofNat byte)) {data : List UInt8}
    (hd : ∀ byte ∈ data, byte.toNat < 0x80) :
    (packed verdict).read data = some (data.map Reader.plain) :=
  (packed verdict).read_of_steady rfl fun byte hb => by
    simp [packed, Reader.plain, h byte.toNat (hd byte hb)]

/-- A character outside ASCII where there is one. -/
def taken (isTaken : Bool) : Verdict := if isTaken then .whole standIn else .broken

/-- A byte by itself: below 0x80 it stands for itself, and past that it begins a character where it
is not a whole one. -/
def opening (alone : List (Nat × Nat)) (byte : Nat) : Verdict :=
  if byte < 0x80 then .whole (Char.ofNat byte)
  else if inRanges byte alone then .whole standIn
  else .begun

/-- One byte or two. -/
def pairs (alone : List (Nat × Nat)) (has : Nat → Nat → Bool) : List Nat → Verdict
  | [byte] => opening alone byte
  | [first, second] => taken (has first second)
  | _ => .broken

/-! ### Rows and cells past 0xa0 -/

/-- Whether two bytes that add 0xa0 to a row and a cell lead to a place that is taken.  There is
neither a row nor a cell of number zero. -/
def isHigh (has : Nat → Nat → Bool) (row cell : Nat) : Bool := has (row - 0xa0) (cell - 0xa0)

/-- The Japanese sets: the first one in two bytes, narrow letters after 0x8e, and the second one
after 0x8f, which has the tilde too. -/
def extended (first second : Nat → Nat → Bool) : List Nat → Verdict
  | [byte] => opening [] byte
  | [0x8e, narrow] => taken (inRanges narrow [(0xa1, 0xdf)])
  | [0x8f, _] => .begun
  | [row, cell] => taken (isHigh first row cell)
  | [0x8f, 0xa2, 0xb7] => .whole '~'
  | [0x8f, row, cell] => taken (isHigh second row cell)
  | _ => .broken

/-- The first plane in the edition of 2000. -/
def hasIn2000 (row cell : Nat) : Bool := jisX0213.has row cell && !jisX0213Added.has row cell

/-- The second plane together with the older supplementary set. -/
def hasInSecond (row cell : Nat) : Bool := jisX0213Second.has row cell || jisX0212.has row cell

def eucJp : Reader (List Nat) := packed (extended jisX0208.has jisX0212.has)

def eucJisX0213 : Reader (List Nat) := packed (extended hasIn2000 hasInSecond)

def eucJis2004 : Reader (List Nat) := packed (extended jisX0213.has hasInSecond)

def eucCn : Reader (List Nat) := packed (pairs [] (isHigh Charset.gb2312.has))

/-- The consonants that a syllable begins with, the vowels, and the consonants that it ends on, with
the filler for none. -/
def syllable : List (List (Nat × Nat)) :=
  [[(0xa1, 0xa2), (0xa4, 0xa4), (0xa7, 0xa9), (0xb1, 0xb3), (0xb5, 0xbe)],
   [(0xbf, 0xd3)],
   [(0xa1, 0xa7), (0xa9, 0xb2), (0xb4, 0xb8), (0xba, 0xbe), (0xd4, 0xd4)]]

/-- A syllable that has no place of its own is the filler and three letters. -/
def eucKr : Reader (List Nat) :=
  packed fun
    | [0xa4, 0xd4, 0xa4, lead, 0xa4, vowel, 0xa4, tail] =>
      taken (([lead, vowel, tail].zip syllable).all fun (letter, ranges) => inRanges letter ranges)
    | 0xa4 :: 0xd4 :: letters => if letters.length < 6 then .begun else .broken
    | bytes => pairs [] (isHigh ksX1001.has) bytes

/-! ### Two rows under one first byte -/

/-- The row and the cell of a pair of bytes. -/
def shiftedPlace (lead trail : Nat) : Nat × Nat :=
  let fold := if lead < 0xa0 then lead - 0x81 else lead - 0xc1
  if trail < 0x7f then (2 * fold + 1, trail - 0x3f)
  else if trail < 0x9f then (2 * fold + 1, trail - 0x40)
  else (2 * fold + 2, trail - 0x9e)

/-- Whether a pair of bytes leads to a place that is taken. -/
def isShifted (has : Nat → Nat → Bool) (lead trail : Nat) : Bool :=
  inRanges lead [(0x81, 0x9f), (0xe0, 0xfc)] && inRanges trail [(0x40, 0x7e), (0x80, 0xfc)] &&
    has (shiftedPlace lead trail).1 (shiftedPlace lead trail).2

/-- The narrow letters. -/
def narrow : List (Nat × Nat) := [(0xa1, 0xdf)]

def shiftJis : Reader (List Nat) := packed (pairs narrow (isShifted jisX0208.has))

/-- The rows of the second plane, which follow those of the first one. -/
def foldedRows : List Nat := [1, 8, 3, 4, 5, 12, 13, 14, 15] ++ (List.range 17).map (· + 78)

/-- Whether a place is taken where the rows after the last one are those of the second plane. -/
def hasFolded (first : Nat → Nat → Bool) (row cell : Nat) : Bool :=
  if row ≤ 94 then first row cell
  else foldedRows[row - 95]?.any fun row => jisX0213Second.has row cell

/-- A yen sign and an overline have the places of the backslash and the tilde, which are pairs. -/
def shifted (first : Nat → Nat → Bool) : List Nat → Verdict
  | [0x5c] => .whole standIn
  | [0x7e] => .whole standIn
  | [0x81, 0x5f] => .whole '\\'
  | [0x81, 0xb0] => .whole '~'
  | bytes => pairs narrow (isShifted (hasFolded first)) bytes

def shiftJisX0213 : Reader (List Nat) := packed (shifted hasIn2000)

def shiftJis2004 : Reader (List Nat) := packed (shifted jisX0213.has)

/-! ### Tables of their own -/

/-- A charset by a table of pairs. -/
def table (alone : List (Nat × Nat)) (grid : Grid) : Reader (List Nat) :=
  packed (pairs alone grid.has)

/-- The number of four bytes, of which the second and the fourth are digits. -/
def fourPlace (a b c d : Nat) : Nat :=
  (((a - 0x81) * 10 + (b - 0x30)) * 126 + (c - 0x81)) * 10 + (d - 0x30)

/-- All of the code points in two or in four bytes: first those of two bytes that no older table
has, far behind them the supplementary planes. -/
def gb18030 : Reader (List Nat) :=
  packed fun
    | [byte] => opening [] byte
    | [lead, trail] =>
      if inRanges trail [(0x30, 0x39)] then .begun
      else taken (inRanges lead [(0x81, 0xfe)] && inRanges trail [(0x40, 0x7e), (0x80, 0xfe)])
    | [_, _, _] => .begun
    | [a, b, c, d] =>
      taken (inRanges a [(0x81, 0xfe)] && inRanges c [(0x81, 0xfe)] && inRanges d [(0x30, 0x39)] &&
        inRanges (fourPlace a b c d) [(0, 39419), (189000, 1237575)])
    | _ => .broken

end Routing.Charset
