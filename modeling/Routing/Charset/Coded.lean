import Routing.Charset.Reader

/-!
# Characters by their numbers

Charsets that write characters outside ASCII as numbers in ASCII: in base 64 between a plus sign and
whatever is no digit, or in hexadecimal after a backslash.  A number in the range of surrogates is
no character, except that base 64 has pairs of them for the supplementary planes.  Main facts:
`read_utf7_of_plain` and `read_escapes_of_plain` (text without what numbers begin with is read as it
is).
-/

namespace Routing.Charset

/-- The character of a number. -/
def ofCode? (code : Nat) : Option Char :=
  if code.isValidChar then some (Char.ofNat code) else none

/-! ### Base 64 -/

/-- The value of a digit in base 64. -/
def digit64? (byte : Nat) : Option Nat :=
  let c := Char.ofNat byte
  if c.isUpper then some (byte - 0x41)
  else if c.isLower then some (byte - 0x61 + 26)
  else if c.isDigit then some (byte - 0x30 + 52)
  else if c = '+' then some 62
  else if c = '/' then some 63
  else none

/-- The digits read since a plus sign: the bits that are left over, how many there are, and the
first surrogate of a pair. -/
structure Digits where
  bits : Nat
  count : Nat
  surrogate : Option Nat

/-- Where the reading is. -/
inductive Section64 where
  | outside
  /-- Right after a plus sign. -/
  | opened
  | inside (digits : Digits)

/-- The digits after sixteen bits more. -/
def unit64 (digits : Digits) (unit : Nat) : Option (Section64 × Text) :=
  match digits.surrogate with
  | some high =>
    if 0xdc00 ≤ unit ∧ unit < 0xe000 then
      (ofCode? (0x10000 + (high - 0xd800) * 0x400 + (unit - 0xdc00))).map fun c =>
        (.inside { digits with surrogate := none }, [c])
    else none
  | none =>
    if 0xd800 ≤ unit ∧ unit < 0xdc00 then
      some (.inside { digits with surrogate := some unit }, [])
    else (ofCode? unit).map fun c => (.inside digits, [c])

/-- The digits after one more. -/
def digit64 (digits : Digits) (value : Nat) : Option (Section64 × Text) :=
  let bits := digits.bits * 64 + value
  let count := digits.count + 6
  if count < 16 then some (.inside { digits with bits, count }, [])
  else
    let left := count - 16
    unit64 { digits with bits := bits % Nat.pow 2 left, count := left } (bits / Nat.pow 2 left)

/-- A byte outside of base 64. -/
def plain64 (byte : Nat) : Option (Section64 × Text) :=
  if byte = '+'.toNat then some (.opened, [])
  else if byte < 0x80 then some (.outside, [Char.ofNat byte])
  else none

/-- Whether base 64 may end after these digits: fewer than six bits are left, all of them zero, and
no pair is half. -/
def Digits.mayEnd (digits : Digits) : Bool :=
  decide (digits.count < 6) && digits.bits == 0 && digits.surrogate.isNone

/-- Base 64 after a plus sign.  The hyphen that ends it is no part of the text. -/
def utf7 : Reader Section64 where
  start := .outside
  step s byte :=
    let byte := byte.toNat
    match s with
    | .outside => plain64 byte
    | .opened =>
      if byte = '-'.toNat then some (.outside, ['+'])
      else (digit64? byte).bind (digit64 ⟨0, 0, none⟩)
    | .inside digits =>
      match digit64? byte with
      | some value => digit64 digits value
      | none =>
        if digits.mayEnd then
          if byte = '-'.toNat then some (.outside, []) else plain64 byte
        else none
  finish
    | .inside digits => if digits.mayEnd then some [] else none
    | _ => some []

/-- Text without a plus sign is read as it is. -/
theorem read_utf7_of_plain {data : List UInt8}
    (h : ∀ byte ∈ data, byte.toNat < 0x80 ∧ byte.toNat ≠ '+'.toNat) :
    utf7.read data = some (data.map Reader.plain) :=
  utf7.read_of_steady rfl fun byte hb => by
    obtain ⟨hl, hp⟩ := h byte hb
    simp only [utf7, plain64, hp, hl, if_false, if_true, Reader.plain]

/-! ### Backslashes -/

/-- Where the reading is. -/
inductive Escaped where
  | outside
  /-- Right after a backslash. -/
  | opened
  /-- In a number in octal that may have so many digits more. -/
  | octal (value more : Nat)
  /-- In a number in hexadecimal that has to have so many digits more. -/
  | hex (value more : Nat)

/-- The value of a digit in hexadecimal. -/
def digit16? (byte : Nat) : Option Nat :=
  let c := Char.ofNat byte
  if c.isDigit then some (byte - 0x30)
  else if 'a' ≤ c ∧ c ≤ 'f' then some (byte - 0x61 + 10)
  else if 'A' ≤ c ∧ c ≤ 'F' then some (byte - 0x41 + 10)
  else none

/-- The value of a digit in octal. -/
def digit8? (byte : Nat) : Option Nat :=
  if 0x30 ≤ byte ∧ byte < 0x38 then some (byte - 0x30) else none

/-- A byte that no backslash has to do with: the character of its number. -/
def unescaped (byte : Nat) : Option (Escaped × Text) :=
  if byte = '\\'.toNat then some (.opened, []) else some (.outside, [Char.ofNat byte])

/-- A number in hexadecimal after one digit more. -/
def hexStep (value more byte : Nat) : Option (Escaped × Text) := do
  let digit ← digit16? byte
  match more with
  | 0 | 1 => (ofCode? (value * 16 + digit)).map fun c => (.outside, [c])
  | more + 1 => some (.hex (value * 16 + digit) more, [])

/-- What a letter after a backslash stands for. -/
def letters : List (Char × Text) :=
  [('\n', []), ('\\', ['\\']), ('\'', ['\'']), ('"', ['"']), ('a', ['\x07']), ('b', ['\x08']),
   ('t', ['\t']), ('n', ['\n']), ('v', ['\x0b']), ('f', ['\x0c']), ('r', ['\r'])]

/-- The letters that a number in hexadecimal follows, with how many digits it has. -/
def numbered : List (Char × Nat) := [('x', 2), ('u', 4), ('U', 8)]

/-- All escapes.  A backslash before anything that makes none stands for itself. -/
def escapes : Reader Escaped where
  start := .outside
  step s byte :=
    let byte := byte.toNat
    match s with
    | .outside => unescaped byte
    | .opened =>
      let c := Char.ofNat byte
      match letters.lookup c, numbered.lookup c, digit8? byte with
      | some text, _, _ => some (.outside, text)
      | none, some digits, _ => some (.hex 0 digits, [])
      | none, none, some digit => some (.octal digit 2, [])
      | none, none, none => if c = 'N' then none else some (.outside, ['\\', c])
    | .octal value more =>
      match digit8? byte with
      | some digit =>
        if more ≤ 1 then some (.outside, [Char.ofNat (value * 8 + digit)])
        else some (.octal (value * 8 + digit) (more - 1), [])
      | none => (unescaped byte).map fun (s, text) => (s, Char.ofNat value :: text)
    | .hex value more => hexStep value more byte
  finish
    | .outside => some []
    | .octal value _ => some [Char.ofNat value]
    | _ => none

/-- Text without a backslash is read as it is. -/
theorem read_escapes_of_plain {data : List UInt8} (h : ∀ byte ∈ data, byte.toNat ≠ '\\'.toNat) :
    escapes.read data = some (data.map Reader.plain) :=
  escapes.read_of_steady rfl fun byte hb => by
    simp only [escapes, unescaped, h byte hb, if_false, Reader.plain]

/-- Numbers of four and of eight digits only. -/
def numberEscapes : Reader Escaped where
  start := .outside
  step s byte :=
    let byte := byte.toNat
    match s with
    | .opened =>
      let c := Char.ofNat byte
      if c = 'u' then some (.hex 0 4, [])
      else if c = 'U' then some (.hex 0 8, [])
      else some (.outside, ['\\', c])
    | .hex value more => hexStep value more byte
    | _ => unescaped byte
  finish
    | .outside => some []
    | _ => none

end Routing.Charset
