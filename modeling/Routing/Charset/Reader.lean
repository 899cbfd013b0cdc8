import Routing.Text

/-!
# Reading bytes one after the other

A charset is read by what each byte adds to the text and where it leaves the reading.  Which
character outside ASCII some bytes stand for makes no difference to who reads for blanks and
remarks, so where a charset has a table of its own, one stand-in serves for all of them.  Main fact:
`read_of_steady` (bytes that stand for themselves wherever a text starts are read as they are).
-/

namespace Routing.Charset

/-- Stands for any character outside ASCII. -/
def standIn : Char := Char.ofNat 0xfffd

/-- A way to read bytes: where it starts, what a byte adds to the text and where it leaves the
reading, and what the end of the bytes adds where they may end. -/
structure Reader (σ : Type) where
  start : σ
  step : σ → UInt8 → Option (σ × Text)
  finish : σ → Option Text

namespace Reader

variable {σ : Type} (r : Reader σ)

/-- The text of bytes and where they leave the reading. -/
def readFrom (s : σ) : List UInt8 → Option (Text × σ)
  | [] => some ([], s)
  | byte :: data => do
    let (next, text) ← r.step s byte
    let (rest, last) ← readFrom next data
    return (text ++ rest, last)

/-- The text of bytes, if they are written in the charset. -/
def read (data : List UInt8) : Option Text := do
  let (text, last) ← r.readFrom r.start data
  return text ++ (← r.finish last)

/-- The character of the same number as a byte. -/
def plain (byte : UInt8) : Char := Char.ofNat byte.toNat

/-- Bytes that stand for themselves wherever a text starts are read as they are. -/
theorem read_of_steady {data : List UInt8} (hf : r.finish r.start = some [])
    (hs : ∀ byte ∈ data, r.step r.start byte = some (r.start, [plain byte])) :
    r.read data = some (data.map plain) := by
  have key : r.readFrom r.start data = some (data.map plain, r.start) := by
    induction data with
    | nil => rfl
    | cons byte data ih =>
      have hb := hs byte (List.mem_cons_self ..)
      have ht := ih fun b hb => hs b (List.mem_cons_of_mem _ hb)
      simp [readFrom, hb, ht]
  simp [read, key, hf]

end Reader

/-- The end of bytes that may end only where none is held back. -/
def noneHeld (held : List Nat) : Option Text := if held.isEmpty then some [] else none

/-- One byte a character. -/
def singles (read : UInt8 → Option Char) : Reader Unit where
  start := ()
  step _ byte := (read byte).map fun c => ((), [c])
  finish _ := some []

/-- Bytes below 0x80 that stand for themselves are read as they are. -/
theorem read_singles_of_plain {read : UInt8 → Option Char}
    (h : ∀ byte, byte < 0x80 → read byte = some (Reader.plain byte)) {data : List UInt8}
    (hd : ∀ byte ∈ data, byte < 0x80) :
    (singles read).read data = some (data.map Reader.plain) :=
  (singles read).read_of_steady rfl fun byte hb => by simp [singles, h byte (hd byte hb)]

end Routing.Charset
