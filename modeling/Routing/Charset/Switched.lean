import Routing.Charset.Packed

/-!
# Charsets that switch between sets

Seven-bit charsets in which a sequence of bytes puts another set of characters in the place of
ASCII.  In one family the sequences begin with an escape and there are three places for sets: the
one in use, one that a shift puts in use up to the end of the line, and one for a single character.
In the other family a tilde opens and closes the only set that there is besides ASCII.  Main fact:
`read_hz_of_plain`.
-/

namespace Routing.Charset

open Text (inRanges)

/-- What bytes below 0x80 can stand for. -/
inductive Repertoire where
  | ascii
  /-- ASCII with a yen sign and an overline. -/
  | roman
  /-- Narrow Japanese letters. -/
  | narrow
  /-- The second halves of two charsets, for single characters only. -/
  | latin
  | greek
  /-- Two bytes for a row and a cell. -/
  | double (has : Nat → Nat → Bool)

namespace Repertoire

/-- What bytes are where a character of the set in use should be. -/
def verdict : Repertoire → List Nat → Verdict
  | ascii, [byte] => .whole (Char.ofNat byte)
  | roman, [byte] => .whole (if byte = 0x5c ∨ byte = 0x7e then standIn else Char.ofNat byte)
  | narrow, [byte] => taken (inRanges byte [(0x21, 0x5f)])
  | double _, [_] => .begun
  | double has, [row, cell] => taken (has (row - 0x20) (cell - 0x20))
  | _, _ => .broken

/-- What is missing in the second half of the Greek charset, less 0x80. -/
def greekGaps : List (Nat × Nat) :=
  [(0x24, 0x25), (0x2a, 0x2a), (0x2e, 0x2e), (0x52, 0x52), (0x7f, 0x7f)]

/-- The single character that a byte stands for. -/
def single? : Repertoire → Nat → Option Char
  | ascii, byte => if byte < 0x80 then some (Char.ofNat byte) else none
  | latin, byte => if byte < 0x80 then some standIn else none
  | greek, byte =>
    if byte < 0x80 then if inRanges byte greekGaps then none else some standIn
    else some (Char.ofNat (byte - 0x80))
  | _, _ => none

end Repertoire

/-- The three places for sets. -/
inductive Place where
  | first
  | second
  | third
  deriving DecidableEq

/-- One charset of the family with escapes. -/
structure Escapes where
  /-- Its sets, by the last byte of the sequences that put them in place. -/
  sets : List (Char × Repertoire)
  hasShifts : Bool
  hasThird : Bool
  /-- Whether the sequence for the newer edition of a set may say so in front. -/
  hasEditions : Bool

/-- Where the reading of such a charset is. -/
structure Switches where
  inFirst : Repertoire
  inSecond : Repertoire
  inThird : Repertoire
  isShifted : Bool
  /-- Whether a sequence that means nothing here is being passed on. -/
  isPassing : Bool
  held : List Nat

namespace Escapes

def escape : Nat := 0x1b

/-- The sequences that put one set in place. -/
def sequencesFor (e : Escapes) (last : Char) : Repertoire → List (Text × Place)
  | .double _ => [(['$', last], .first), (['$', '(', last], .first), (['$', ')', last], .second)]
  | _ => [(['(', last], .first), ([')', last], .second)] ++
      if e.hasThird then [(['.', last], .third)] else []

/-- All sequences after the escape, with what they put where. -/
def sequences (e : Escapes) : List (Text × Place × Repertoire) :=
  let plain := (('B', Repertoire.ascii) :: e.sets).flatMap fun (last, set) =>
    (e.sequencesFor last set).map fun (bytes, place) => (bytes, place, set)
  plain ++
    if e.hasEditions then
      (plain.filter (·.1 = ['$', 'B'])).map fun (bytes, what) =>
        (['&', '@', '\x1b'] ++ bytes, what)
    else []

/-- Whether a byte ends a sequence. -/
def isLast (byte : Nat) : Bool := inRanges byte [(0x40, 0x5a)]

/-- A byte of a sequence that means nothing here. -/
def passed (byte : Nat) : Char := if byte < 0x80 then Char.ofNat byte else standIn

def Switches.put (s : Switches) (set : Repertoire) : Place → Switches
  | .first => { s with inFirst := set, held := [] }
  | .second => { s with inSecond := set, held := [] }
  | .third => { s with inThird := set, held := [] }

/-- The reading after a byte that follows an escape. -/
def afterEscape (e : Escapes) (s : Switches) (bytes : List Nat) : Option (Switches × Text) :=
  match bytes with
  | [0x4e, byte] => (s.inThird.single? byte).map fun c => ({ s with held := [] }, [c])
  | _ =>
    match e.sequences.find? fun (sequence, _) => sequence.map Char.toNat = bytes with
    | some (_, place, set) => some (Switches.put s set place, [])
    | none =>
      if e.sequences.any fun (sequence, _) => bytes.isPrefixOf (sequence.map Char.toNat) then
        some ({ s with held := escape :: bytes }, [])
      else none

/-- The reading after the byte right after an escape. -/
def startSequence (e : Escapes) (s : Switches) (byte : Nat) : Option (Switches × Text) :=
  if byte ∈ ['(', ')', '$', '.', '&'].map Char.toNat then e.afterEscape s [byte]
  else if e.hasThird ∧ byte = 'N'.toNat then some ({ s with held := [escape, byte] }, [])
  else
    some ({ s with held := [], isPassing := !isLast byte }, [Char.ofNat escape, passed byte])

/-- The reading after a byte of a character. -/
def inCharacter (s : Switches) (bytes : List Nat) : Option (Switches × Text) :=
  match (if s.isShifted then s.inSecond else s.inFirst).verdict bytes with
  | .whole c => some ({ s with held := [] }, [c])
  | .begun => some ({ s with held := bytes }, [])
  | .broken => none

/-- The reading after a byte between characters. -/
def between (e : Escapes) (s : Switches) (byte : Nat) : Option (Switches × Text) :=
  if byte = escape then some ({ s with held := [escape] }, [])
  else if e.hasShifts ∧ byte = 0x0e then some ({ s with isShifted := true }, [])
  else if e.hasShifts ∧ byte = 0x0f then some ({ s with isShifted := false }, [])
  else if byte = 0x0a then some ({ s with isShifted := false }, ['\n'])
  else if byte < 0x20 then some (s, [Char.ofNat byte])
  else if byte < 0x80 then inCharacter s [byte]
  else none

/-- The charset. -/
def reader (e : Escapes) : Reader Switches where
  start := ⟨.ascii, .ascii, .ascii, false, false, []⟩
  step s byte :=
    let byte := byte.toNat
    if s.isPassing then some ({ s with isPassing := !isLast byte }, [passed byte])
    else
      match s.held with
      | [] => e.between s byte
      | [0x1b] => e.startSequence s byte
      | 0x1b :: held => e.afterEscape s (held ++ [byte])
      | held => inCharacter s (held ++ [byte])
  finish s := noneHeld s.held

end Escapes

/-! ### The charsets with escapes -/

def japanese : List (Char × Repertoire) := [('B', .double jisX0208.has)]

/-- The oldest edition has the places of the one that followed. -/
def japaneseOld : List (Char × Repertoire) :=
  japanese ++ [('@', .double jisX0208.has), ('J', .roman)]

def supplementary : List (Char × Repertoire) := [('D', .double jisX0212.has)]

/-- KS X 1001 with its filler. -/
def hasWithFiller (row cell : Nat) : Bool := ksX1001.has row cell || (row == 4 && cell == 52)

def korean : List (Char × Repertoire) := [('C', .double hasWithFiller)]

def iso2022Jp (more : List (Char × Repertoire)) (hasThird : Bool) : Reader Switches :=
  Escapes.reader ⟨japaneseOld ++ more, false, hasThird, true⟩

/-- The charset with the sets of East and West. -/
def iso2022Jp2 : Reader Switches :=
  iso2022Jp (supplementary ++ korean ++
    [('A', .double gb2312.has), ('A', .latin), ('F', .greek)]) true

def iso2022Jp3 (last : Char) (has : Nat → Nat → Bool) : Reader Switches :=
  Escapes.reader
    ⟨japanese ++ [(last, .double has), ('P', .double jisX0213Second.has)], false, false, true⟩

def iso2022Kr : Reader Switches := Escapes.reader ⟨korean, true, false, false⟩

/-! ### Tildes -/

/-- Where the reading between tildes is. -/
structure Tildes where
  isOpen : Bool
  held : List Nat

/-- GB 2312 between tildes with braces.  A tilde at the end of a line joins it to the next one. -/
def hz : Reader Tildes where
  start := ⟨false, []⟩
  step s byte :=
    match s.isOpen, s.held, byte.toNat with
    | false, [0x7e], 0x7e => some (⟨false, []⟩, ['~'])
    | false, [0x7e], 0x7b => some (⟨true, []⟩, [])
    | false, [0x7e], 0x0a => some (⟨false, []⟩, [])
    | true, [0x7e], 0x7d => some (⟨false, []⟩, [])
    | _, [0x7e], _ => none
    | _, [], 0x7e => some ({ s with held := [0x7e] }, [])
    | false, _, byte => if byte < 0x80 then some (s, [Char.ofNat byte]) else none
    | true, [], byte => if byte < 0x80 then some (⟨true, [byte]⟩, []) else none
    | true, held, byte =>
      match (Repertoire.double gb2312.has).verdict (held ++ [byte]) with
      | .whole c => some (⟨true, []⟩, [c])
      | _ => none
  finish s := noneHeld s.held

/-- Text without a tilde is read as it is. -/
theorem read_hz_of_plain {data : List UInt8}
    (h : ∀ byte ∈ data, byte.toNat < 0x80 ∧ byte.toNat ≠ 0x7e) :
    hz.read data = some (data.map Reader.plain) :=
  hz.read_of_steady rfl fun byte hb => by
    have hl := (h byte hb).1
    have hn := (h byte hb).2
    simp only [hz]
    split <;> simp_all [Reader.plain]

end Routing.Charset
