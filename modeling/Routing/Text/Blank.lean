import Routing.Text.Ranges

/-!
# Blank characters

A character is blank if Unicode calls it white space by its property or by its bidirectional class:
so the information separators U+001C to U+001F count, and the zero-width space does not.
-/

namespace Routing.Text

/-- The blank characters, as ranges of code points. -/
def blankRanges : List (Nat × Nat) :=
  [(0x9, 0xd), (0x1c, 0x20), (0x85, 0x85), (0xa0, 0xa0), (0x1680, 0x1680), (0x2000, 0x200a),
  (0x2028, 0x2029), (0x202f, 0x202f), (0x205f, 0x205f), (0x3000, 0x3000)]

/-- Whether a character separates fields and may be trimmed. -/
def isBlank (c : Char) : Bool := inRanges c.toNat blankRanges

end Routing.Text
