import Routing.Text
import Routing.Text.Printable

/-!
# Quoted text

How a text or a string of bytes is shown inside a message: between quotes, on one line, with
everything that would not show written as an escape.  Apostrophes are the quotes unless the content
holds one and holds no double quote.
-/

namespace Routing.Text

/-- The lower-case hexadecimal digits of `n`, at least `width` of them. -/
def hex (width n : Nat) : Text :=
  let digits := Nat.toDigits 16 n
  List.replicate (width - digits.length) '0' ++ digits

/-- The quote that goes around a content. -/
def quoteFor (s : Text) : Char :=
  if '\'' ∈ s ∧ '"' ∉ s then '"' else '\''

/-- The escapes that both kinds of quoting share: the backslash, the quote in use, and the three
control characters that have letters. -/
def shortEscape? (quote c : Char) : Option Text :=
  if c = quote ∨ c = '\\' then some ['\\', c]
  else if c = '\t' then some ['\\', 't']
  else if c = '\n' then some ['\\', 'n']
  else if c = '\r' then some ['\\', 'r']
  else none

/-- A character between quotes: itself if it is printable, else the shortest escape that can name
its code point. -/
def quoteChar (quote c : Char) : Text :=
  match shortEscape? quote c with
  | some escape => escape
  | none =>
    if isPrintable c then [c]
    else if c.toNat ≤ 0xff then '\\' :: 'x' :: hex 2 c.toNat
    else if c.toNat ≤ 0xffff then '\\' :: 'u' :: hex 4 c.toNat
    else '\\' :: 'U' :: hex 8 c.toNat

/-- A text between quotes. -/
def quoted (s : Text) : Text :=
  let quote := quoteFor s
  quote :: s.flatMap (quoteChar quote) ++ [quote]

/-- Texts between quotes, in brackets. -/
def quotedList (items : List Text) : Text :=
  '[' :: joinWith ", " (items.map quoted) ++ [']']

/-- A byte between quotes: itself if it is a visible ASCII character or a space. -/
def quoteByte (quote : Char) (byte : UInt8) : Text :=
  let c := Char.ofNat byte.toNat
  match shortEscape? quote c with
  | some escape => escape
  | none => if 0x20 ≤ byte ∧ byte < 0x7f then [c] else '\\' :: 'x' :: hex 2 byte.toNat

/-- Bytes between quotes, marked by a leading `b`. -/
def quotedBytes (bytes : List UInt8) : Text :=
  let quote := quoteFor (bytes.map fun b => Char.ofNat b.toNat)
  'b' :: quote :: bytes.flatMap (quoteByte quote) ++ [quote]

example : quoted "it's" = "\"it's\"" ∧ quoted "\"it's\"\t" = "'\"it\\'s\"\\t'" := by decide

example : quotedBytes [0x61, 0x00, 0xff] = "b'a\\x00\\xff'" := by decide

end Routing.Text
