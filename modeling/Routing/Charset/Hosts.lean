import Routing.Charset.Coded
import Routing.Charset.Single
import Routing.Text.Composed

/-!
# Names of hosts

ASCII in which a label between dots may stand for one with other characters: after a mark of its own
come the characters of ASCII in their order, and then in base 36 where each of the others goes.  The
digits of a number go on while they reach a threshold, which follows the size of the numbers
before.  A label may be written so only if it has to be, and only if it is prepared: small letters
in their one spelling, and all from right to left if one is.  Main fact: `hosts_of_plain` (text
without the mark is read as it is).
-/

namespace Routing.Charset

open Text (inRanges)

/-! ### Where characters go -/

/-- The mark of labels that stand for others. -/
def mark : Text := "xn--"

/-- The value of a digit in base 36, in which letters come first. -/
def digit36? (c : Char) : Option Nat :=
  let c := c.toLower
  if c.isLower then some (c.toNat - 0x61)
  else if c.isDigit then some (c.toNat - 0x30 + 26)
  else none

/-- What the digit at a place of a number has to reach for the number to go on. -/
def threshold (place bias : Nat) : Nat := min 26 (max 1 (36 * (place + 1) - bias))

/-- A number made small, and thirty-six for every step that took. -/
def folded (n : Nat) : Nat × Nat :=
  if 455 < n then ((folded (n / 35)).1, (folded (n / 35)).2 + 36) else (n, 0)
termination_by n

/-- The bias after a number that put one more character into a text of some length. -/
def biasAfter (n : Nat) (isFirst : Bool) (length : Nat) : Nat :=
  let part := if isFirst then n / 700 else n / 2
  let (small, steps) := folded (part + part / length)
  steps + 36 * small / (small + 38)

/-- Characters being put into a text: the text so far, the code point and the spot of the last one,
and the number being read. -/
structure Insertion where
  text : Text
  code : Nat
  spot : Nat
  bias : Nat
  isFirst : Bool
  number : Nat
  weight : Nat
  place : Nat

/-- Before the first character has been put into a text. -/
def Insertion.start (text : Text) : Insertion := ⟨text, 0x80, 0, 72, true, 0, 1, 0⟩

/-- One digit more.  A number counts spots, and code points whenever it runs past the end of the
text. -/
def Insertion.step (s : Insertion) (digit : Char) : Option Insertion := do
  let value ← digit36? digit
  let number := s.number + value * s.weight
  let least := threshold s.place s.bias
  if value < least then
    let spots := s.text.length + 1
    let code := s.code + (s.spot + number) / spots
    let spot := (s.spot + number) % spots
    let c ← ofCode? code
    return ⟨s.text.take spot ++ c :: s.text.drop spot, code, spot + 1,
      biasAfter number s.isFirst spots, false, 0, 1, 0⟩
  else return { s with number, weight := s.weight * (36 - least), place := s.place + 1 }

/-- The text before the last hyphen and the text after it. -/
def cutAtLastHyphen (s : Text) : Text × Text :=
  let back := (s.reverse.takeWhile (· != '-')).reverse
  ((s.take (s.length - back.length)).dropLast, back)

/-- The label that a text after the mark stands for.  Without ASCII in it there is no hyphen. -/
def decoded? (coded : Text) : Option Text := do
  let (plain, numbers) := cutAtLastHyphen coded
  if numbers = [] ∨ (plain = [] ∧ coded.head? = some '-') then none
  else
    let s ← numbers.foldlM Insertion.step (.start plain)
    if s.place = 0 then some s.text else none

/-! ### Prepared labels -/

/-- Characters outside ASCII that are not small. -/
def capitals : List (Nat × Nat) :=
  [(0xc0, 0xd6), (0xd8, 0xdf), (0x181, 0x182), (0x18a, 0x18b), (0x18e, 0x191), (0x193, 0x194),
   (0x196, 0x198), (0x19c, 0x19d), (0x19f, 0x1a0), (0x1b2, 0x1b3), (0x1b8, 0x1b8), (0x1bc, 0x1bc),
   (0x1f7, 0x1f8), (0x23a, 0x23b), (0x23d, 0x23e), (0x244, 0x246), (0x345, 0x345), (0x376, 0x376),
   (0x37f, 0x37f), (0x389, 0x38a), (0x392, 0x3a1), (0x3a3, 0x3ab), (0x3c2, 0x3c2), (0x3cf, 0x3cf),
   (0x3f7, 0x3f7), (0x3fa, 0x3fa), (0x3fd, 0x42f), (0x531, 0x556), (0x10a0, 0x10c5),
   (0x10c7, 0x10c7), (0x10cd, 0x10cd), (0x13a0, 0x13f5), (0x1c90, 0x1cba), (0x1cbd, 0x1cbf),
   (0x1f08, 0x1f0f), (0x1f18, 0x1f1d), (0x1f28, 0x1f2f), (0x1f38, 0x1f3f), (0x1f48, 0x1f4d),
   (0x1f68, 0x1f6f), (0x1f80, 0x1faf), (0x1fb2, 0x1fb4), (0x1fb7, 0x1fba), (0x1fbc, 0x1fbc),
   (0x1fc2, 0x1fc4), (0x1fc7, 0x1fc8), (0x1fd8, 0x1fda), (0x1fe8, 0x1fea), (0x1fec, 0x1fec),
   (0x1ff2, 0x1ff4), (0x1ff7, 0x1ff8), (0x2132, 0x2132), (0x2183, 0x2183), (0x2c00, 0x2c2f),
   (0x2c63, 0x2c64), (0x2c6e, 0x2c70), (0x2c72, 0x2c72), (0x2c75, 0x2c75), (0x2c7e, 0x2c80),
   (0x2cf2, 0x2cf2), (0xa7ab, 0xa7ae), (0xa7b0, 0xa7b4), (0xa7c5, 0xa7c7), (0xa7c9, 0xa7c9),
   (0xa7d0, 0xa7d0), (0xa7f5, 0xa7f5), (0x10400, 0x10427), (0x104b0, 0x104d3), (0x10570, 0x1057a),
   (0x1057c, 0x1058a), (0x1058c, 0x10592), (0x10594, 0x10595), (0x10c80, 0x10cb2),
   (0x118a0, 0x118bf), (0x16e40, 0x16e5f), (0x1e900, 0x1e921)]

/-- Ranges in which every other character is not small, from the first one on. -/
def alternatingCapitals : List (Nat × Nat) :=
  [(0x100, 0x130), (0x134, 0x136), (0x139, 0x13d), (0x141, 0x147), (0x14a, 0x178), (0x179, 0x17d),
   (0x184, 0x186), (0x187, 0x189), (0x1a2, 0x1a6), (0x1a7, 0x1a9), (0x1ac, 0x1ae), (0x1af, 0x1b1),
   (0x1b5, 0x1b7), (0x1cd, 0x1db), (0x1de, 0x1ee), (0x1f4, 0x1f6), (0x1fa, 0x232), (0x241, 0x243),
   (0x248, 0x24e), (0x370, 0x372), (0x386, 0x388), (0x38c, 0x38e), (0x38f, 0x391), (0x3d8, 0x3ee),
   (0x460, 0x480), (0x48a, 0x4c0), (0x4c1, 0x4cd), (0x4d0, 0x52e), (0x1e00, 0x1e94),
   (0x1e9e, 0x1efe), (0x1f59, 0x1f5f), (0x1fca, 0x1fcc), (0x1ffa, 0x1ffc), (0x2c60, 0x2c62),
   (0x2c67, 0x2c6d), (0x2c82, 0x2ce2), (0x2ceb, 0x2ced), (0xa640, 0xa66c), (0xa680, 0xa69a),
   (0xa722, 0xa72e), (0xa732, 0xa76e), (0xa779, 0xa77d), (0xa77e, 0xa786), (0xa78b, 0xa78d),
   (0xa790, 0xa792), (0xa796, 0xa7aa), (0xa7b6, 0xa7c4), (0xa7d6, 0xa7d8)]

/-- Characters that no label has: marks without a look of their own and code points for private use.
-/
def unusable : List (Nat × Nat) :=
  [(0x80, 0x9f), (0xad, 0xad), (0x34f, 0x34f), (0x6dd, 0x6dd), (0x70f, 0x70f), (0x1680, 0x1680),
   (0x1806, 0x1806), (0x180b, 0x180e), (0x200b, 0x200f), (0x2028, 0x202e), (0x2060, 0x2063),
   (0x206a, 0x206f), (0x2ff0, 0x2ffb), (0xd800, 0xf8ff), (0xfdd0, 0xfdef), (0xfe00, 0xfe0f),
   (0xfeff, 0xfeff), (0xfff9, 0xffff), (0x1d173, 0x1d17a), (0xe0001, 0xe0001), (0xe0020, 0xe007f),
   (0xefffe, 0x10ffff)]

/-- Characters of no name that are only forms of others. -/
def forms : List (Nat × Nat) :=
  [(0xa0, 0xa0), (0xa8, 0xa8), (0xaf, 0xaf), (0xb2, 0xb4), (0xb8, 0xb9), (0xbc, 0xbe),
   (0x2d8, 0x2dd), (0x37a, 0x37a), (0x37e, 0x37e), (0x384, 0x385), (0xf0c, 0xf0c), (0x1fbd, 0x1fbd),
   (0x1fbf, 0x1fc1), (0x1fcd, 0x1fcf), (0x1fdd, 0x1fdf), (0x1fed, 0x1fef), (0x1ffd, 0x1ffe),
   (0x2000, 0x200a), (0x2011, 0x2011), (0x2017, 0x2017), (0x2024, 0x2026), (0x202f, 0x202f),
   (0x2033, 0x2034), (0x2036, 0x2037), (0x203c, 0x203c), (0x203e, 0x203e), (0x2047, 0x2049),
   (0x2057, 0x2057), (0x205f, 0x205f), (0x2070, 0x2070), (0x2074, 0x207e), (0x2080, 0x208e),
   (0x20a8, 0x20a8), (0x2100, 0x2101), (0x2103, 0x2103), (0x2105, 0x2106), (0x2109, 0x2109),
   (0x2116, 0x2116), (0x2120, 0x2122), (0x2140, 0x2140), (0x2153, 0x215f), (0x222c, 0x222d),
   (0x222f, 0x2230), (0x2329, 0x232a), (0x2460, 0x24ea), (0x2a0c, 0x2a0c), (0x2a74, 0x2a76),
   (0x2adc, 0x2adc), (0x2e9f, 0x2e9f), (0x2ef3, 0x2ef3), (0x2f00, 0x2fd5), (0x3000, 0x3000),
   (0x3036, 0x3036), (0x309b, 0x309c), (0x3192, 0x319f), (0x3200, 0x321c), (0x3220, 0x3243),
   (0x3251, 0x327b), (0x3280, 0x32cb), (0x32d0, 0x32fe), (0x3300, 0x3376), (0x337b, 0x33dd),
   (0x33e0, 0x33fe), (0xfb29, 0xfb29), (0xfc5e, 0xfc63), (0xfdfa, 0xfdfc), (0xfe30, 0xfe32),
   (0xfe35, 0xfe44), (0xfe49, 0xfe4c), (0xfe50, 0xfe52), (0xfe54, 0xfe66), (0xfe68, 0xfe6b),
   (0xfe70, 0xfe70), (0xfe72, 0xfe72), (0xfe74, 0xfe74), (0xfe76, 0xfe76), (0xfe78, 0xfe78),
   (0xfe7a, 0xfe7a), (0xfe7c, 0xfe7c), (0xfe7e, 0xfe7e), (0xff01, 0xff0f), (0xff1a, 0xff20),
   (0xff3b, 0xff3e), (0xff40, 0xff40), (0xff5b, 0xff65), (0xffe0, 0xffe6), (0xffe8, 0xffee),
   (0x1d15e, 0x1d164), (0x1d1bb, 0x1d1c0), (0x1d6c1, 0x1d6c1), (0x1d6db, 0x1d6db),
   (0x1d6fb, 0x1d6fb), (0x1d715, 0x1d715), (0x1d735, 0x1d735), (0x1d74f, 0x1d74f),
   (0x1d76f, 0x1d76f), (0x1d789, 0x1d789), (0x1d7a9, 0x1d7a9), (0x1d7c3, 0x1d7c3)]

/-- Characters younger than the preparation of labels, which leaves them as they are. -/
def younger : List (Nat × Nat) :=
  [(0x10fc, 0x10fc), (0x1d2c, 0x1d2e), (0x1d30, 0x1d3a), (0x1d3c, 0x1d4d), (0x1d4f, 0x1d6a),
   (0x1d78, 0x1d78), (0x1d9b, 0x1dbf), (0x2090, 0x209c), (0x213b, 0x213c), (0x2150, 0x2152),
   (0x2189, 0x2189), (0x2c7c, 0x2c7d), (0x2d6f, 0x2d6f), (0x321d, 0x321e), (0x3244, 0x3247),
   (0x3250, 0x3250), (0x327c, 0x327e), (0x32cc, 0x32cf), (0x32ff, 0x32ff), (0x3377, 0x337a),
   (0x33de, 0x33df), (0x33ff, 0x33ff), (0xa69c, 0xa69d), (0xa770, 0xa770), (0xa7f2, 0xa7f4),
   (0xa7f8, 0xa7f9), (0xab5c, 0xab5f), (0xab69, 0xab69), (0xfa2e, 0xfa2f), (0xfa6b, 0xfa6d),
   (0xfa70, 0xfad9), (0xfe10, 0xfe19), (0xfe47, 0xfe48), (0x10781, 0x10785), (0x10787, 0x107b0),
   (0x107b2, 0x107ba), (0x1d4c1, 0x1d4c1), (0x1d6a4, 0x1d6a5), (0x1d7ca, 0x1d7cb),
   (0x1ee00, 0x1ee03), (0x1ee05, 0x1ee1f), (0x1ee21, 0x1ee22), (0x1ee24, 0x1ee24),
   (0x1ee27, 0x1ee27), (0x1ee29, 0x1ee32), (0x1ee34, 0x1ee37), (0x1ee39, 0x1ee39),
   (0x1ee3b, 0x1ee3b), (0x1ee42, 0x1ee42), (0x1ee47, 0x1ee47), (0x1ee49, 0x1ee49),
   (0x1ee4b, 0x1ee4b), (0x1ee4d, 0x1ee4f), (0x1ee51, 0x1ee52), (0x1ee54, 0x1ee54),
   (0x1ee57, 0x1ee57), (0x1ee59, 0x1ee59), (0x1ee5b, 0x1ee5b), (0x1ee5d, 0x1ee5d),
   (0x1ee5f, 0x1ee5f), (0x1ee61, 0x1ee62), (0x1ee64, 0x1ee64), (0x1ee67, 0x1ee6a),
   (0x1ee6c, 0x1ee72), (0x1ee74, 0x1ee77), (0x1ee79, 0x1ee7c), (0x1ee7e, 0x1ee7e),
   (0x1ee80, 0x1ee89), (0x1ee8b, 0x1ee9b), (0x1eea1, 0x1eea3), (0x1eea5, 0x1eea9),
   (0x1eeab, 0x1eebb), (0x1f100, 0x1f10a), (0x1f110, 0x1f12e), (0x1f130, 0x1f14f),
   (0x1f16a, 0x1f16c), (0x1f190, 0x1f190), (0x1f200, 0x1f202), (0x1f210, 0x1f23b),
   (0x1f240, 0x1f248), (0x1f250, 0x1f251), (0x1fbf0, 0x1fbf9)]

/-- Letters written from right to left. -/
def backward : List (Nat × Nat) :=
  [(0x5be, 0x5be), (0x5c0, 0x5c0), (0x5c3, 0x5c3), (0x5d0, 0x5ea), (0x5f0, 0x5f4), (0x61b, 0x61b),
   (0x61f, 0x61f), (0x621, 0x63a), (0x640, 0x64a), (0x66d, 0x66f), (0x671, 0x674), (0x679, 0x6d5),
   (0x6e5, 0x6e6), (0x6fa, 0x6fe), (0x700, 0x70d), (0x710, 0x710), (0x712, 0x72c), (0x780, 0x7a5),
   (0x7b1, 0x7b1), (0xfe73, 0xfe73)]

/-- Characters written from left to right. -/
def forward : List (Nat × Nat) :=
  [(0xe0, 0xf6), (0xf8, 0x21f), (0x223, 0x233), (0x250, 0x2ad), (0x2bb, 0x2c1), (0x2d0, 0x2d1),
   (0x2ee, 0x2ee), (0x3ac, 0x3f3), (0x430, 0x482), (0x48b, 0x4ce), (0x4d1, 0x4f5), (0x4f9, 0x4f9),
   (0x501, 0x50f), (0x559, 0x55f), (0x561, 0x586), (0x589, 0x589), (0x903, 0x903), (0x905, 0x939),
   (0x93d, 0x940), (0x949, 0x94c), (0x950, 0x950), (0x960, 0x961), (0x964, 0x970), (0x982, 0x983),
   (0x985, 0x98c), (0x98f, 0x990), (0x993, 0x9a8), (0x9aa, 0x9b0), (0x9b2, 0x9b2), (0x9b6, 0x9b9),
   (0x9be, 0x9c0), (0x9c7, 0x9c8), (0x9cb, 0x9cc), (0x9d7, 0x9d7), (0x9e0, 0x9e1), (0x9e6, 0x9f1),
   (0x9f4, 0x9fa), (0xa05, 0xa0a), (0xa0f, 0xa10), (0xa13, 0xa28), (0xa2a, 0xa30), (0xa32, 0xa32),
   (0xa35, 0xa35), (0xa38, 0xa39), (0xa3e, 0xa40), (0xa5c, 0xa5c), (0xa66, 0xa6f), (0xa72, 0xa74),
   (0xa83, 0xa83), (0xa85, 0xa8b), (0xa8d, 0xa8d), (0xa8f, 0xa91), (0xa93, 0xaa8), (0xaaa, 0xab0),
   (0xab2, 0xab3), (0xab5, 0xab9), (0xabd, 0xac0), (0xac9, 0xac9), (0xacb, 0xacc), (0xad0, 0xad0),
   (0xae0, 0xae0), (0xae6, 0xaef), (0xb02, 0xb03), (0xb05, 0xb0c), (0xb0f, 0xb10), (0xb13, 0xb28),
   (0xb2a, 0xb30), (0xb32, 0xb33), (0xb36, 0xb39), (0xb3d, 0xb3e), (0xb40, 0xb40), (0xb47, 0xb48),
   (0xb4b, 0xb4c), (0xb57, 0xb57), (0xb5f, 0xb61), (0xb66, 0xb70), (0xb83, 0xb83), (0xb85, 0xb8a),
   (0xb8e, 0xb90), (0xb92, 0xb95), (0xb99, 0xb9a), (0xb9c, 0xb9c), (0xb9e, 0xb9f), (0xba3, 0xba4),
   (0xba8, 0xbaa), (0xbae, 0xbb5), (0xbb7, 0xbb9), (0xbbe, 0xbbf), (0xbc1, 0xbc2), (0xbc6, 0xbc8),
   (0xbca, 0xbcc), (0xbd7, 0xbd7), (0xbe7, 0xbf2), (0xc01, 0xc03), (0xc05, 0xc0c), (0xc0e, 0xc10),
   (0xc12, 0xc28), (0xc2a, 0xc33), (0xc35, 0xc39), (0xc41, 0xc44), (0xc60, 0xc61), (0xc66, 0xc6f),
   (0xc82, 0xc83), (0xc85, 0xc8c), (0xc8e, 0xc90), (0xc92, 0xca8), (0xcaa, 0xcb3), (0xcb5, 0xcb9),
   (0xcbe, 0xcbe), (0xcc0, 0xcc4), (0xcc7, 0xcc8), (0xcca, 0xccb), (0xcd5, 0xcd6), (0xcde, 0xcde),
   (0xce0, 0xce1), (0xce6, 0xcef), (0xd02, 0xd03), (0xd05, 0xd0c), (0xd0e, 0xd10), (0xd12, 0xd28),
   (0xd2a, 0xd39), (0xd3e, 0xd40), (0xd46, 0xd48), (0xd4a, 0xd4c), (0xd57, 0xd57), (0xd60, 0xd61),
   (0xd66, 0xd6f), (0xd82, 0xd83), (0xd85, 0xd96), (0xd9a, 0xdb1), (0xdb3, 0xdbb), (0xdbd, 0xdbd),
   (0xdc0, 0xdc6), (0xdcf, 0xdd1), (0xdd8, 0xddf), (0xdf2, 0xdf4), (0xe01, 0xe30), (0xe32, 0xe32),
   (0xe40, 0xe46), (0xe4f, 0xe5b), (0xe81, 0xe82), (0xe84, 0xe84), (0xe87, 0xe88), (0xe8a, 0xe8a),
   (0xe8d, 0xe8d), (0xe94, 0xe97), (0xe99, 0xe9f), (0xea1, 0xea3), (0xea5, 0xea5), (0xea7, 0xea7),
   (0xeaa, 0xeab), (0xead, 0xeb0), (0xeb2, 0xeb2), (0xebd, 0xebd), (0xec0, 0xec4), (0xec6, 0xec6),
   (0xed0, 0xed9), (0xf00, 0xf17), (0xf1a, 0xf34), (0xf36, 0xf36), (0xf38, 0xf38), (0xf3e, 0xf47),
   (0xf49, 0xf6a), (0xf7f, 0xf7f), (0xf85, 0xf85), (0xf88, 0xf8b), (0xfbe, 0xfc5), (0xfc7, 0xfcc),
   (0xfcf, 0xfcf), (0x1000, 0x1021), (0x1023, 0x1027), (0x1029, 0x102a), (0x102c, 0x102c),
   (0x1031, 0x1031), (0x1038, 0x1038), (0x1040, 0x1057), (0x10d0, 0x10f8), (0x10fb, 0x10fb),
   (0x1100, 0x1159), (0x115f, 0x11a2), (0x11a8, 0x11f9), (0x1200, 0x1206), (0x1208, 0x1246),
   (0x1248, 0x1248), (0x124a, 0x124d), (0x1250, 0x1256), (0x1258, 0x1258), (0x125a, 0x125d),
   (0x1260, 0x1286), (0x1288, 0x1288), (0x128a, 0x128d), (0x1290, 0x12ae), (0x12b0, 0x12b0),
   (0x12b2, 0x12b5), (0x12b8, 0x12be), (0x12c0, 0x12c0), (0x12c2, 0x12c5), (0x12c8, 0x12ce),
   (0x12d0, 0x12d6), (0x12d8, 0x12ee), (0x12f0, 0x130e), (0x1310, 0x1310), (0x1312, 0x1315),
   (0x1318, 0x131e), (0x1320, 0x1346), (0x1348, 0x135a), (0x1361, 0x137c), (0x1401, 0x1676),
   (0x1681, 0x169a), (0x16a0, 0x16f0), (0x1700, 0x170c), (0x170e, 0x1711), (0x1720, 0x1731),
   (0x1735, 0x1736), (0x1740, 0x1751), (0x1760, 0x176c), (0x176e, 0x1770), (0x1780, 0x17b6),
   (0x17be, 0x17c5), (0x17c7, 0x17c8), (0x17d4, 0x17da), (0x17dc, 0x17dc), (0x17e0, 0x17e9),
   (0x1810, 0x1819), (0x1820, 0x1877), (0x1880, 0x18a8), (0x1e01, 0x1e95), (0x1ea1, 0x1ef9),
   (0x1f00, 0x1f15), (0x1f20, 0x1f45), (0x1f51, 0x1f57), (0x1f60, 0x1f7c), (0x1fb0, 0x1fb1),
   (0x1fd0, 0x1fd1), (0x1fe0, 0x1fe5), (0x2180, 0x2182), (0x2336, 0x237a), (0x2395, 0x2395),
   (0x3005, 0x3007), (0x3021, 0x3029), (0x3031, 0x3035), (0x303b, 0x303c), (0x3041, 0x3096),
   (0x309d, 0x309e), (0x30a1, 0x30fa), (0x30fc, 0x30fe), (0x3105, 0x312c), (0x3190, 0x31b7),
   (0x31f0, 0x31ff), (0x327f, 0x327f), (0x3400, 0x4db5), (0x4e00, 0x9fa5), (0xa000, 0xa48c),
   (0xac00, 0xd7a3), (0xfa0e, 0xfa29), (0x10300, 0x1031e), (0x10320, 0x10323), (0x10330, 0x1034a),
   (0x10428, 0x1044d), (0x1d000, 0x1d0f5), (0x1d100, 0x1d126), (0x1d12a, 0x1d166),
   (0x1d16a, 0x1d172), (0x1d183, 0x1d184), (0x1d18c, 0x1d1a9), (0x1d1ae, 0x1d1dd),
   (0x20000, 0x2a6d6)]

/-- Whether a character is as it should be. -/
def isSmall (c : Char) : Bool :=
  let code := c.toNat
  code < 0x80 ||
    !(inRanges code capitals || inRanges code unusable || inRanges code forms ||
      code % 0x10000 ≥ 0xfffe ||
      alternatingCapitals.any fun r => r.1 ≤ code && code ≤ r.2 && (code - r.1) % 2 == 0)

def isBackward (c : Char) : Bool := inRanges c.toNat backward

/-- Whether a character is written from left to right. -/
def isForward (c : Char) : Bool :=
  if c.toNat < 0x80 then c.isAlpha else inRanges c.toNat forward

/-- Whether a label runs in one direction. -/
def isStraight (label : Text) : Bool :=
  !label.any isBackward ||
    (!label.any isForward && label.head?.any isBackward && label.getLast?.any isBackward)

/-- Whether a label is as it should be but for capitals of ASCII. -/
def isPrepared (label : Text) : Bool :=
  let small := label.map Char.toLower
  let older := small.filter fun c => !inRanges c.toNat younger
  small.all isSmall && Text.unified older == older && isStraight small && !mark.isPrefixOf small

/-! ### Hosts -/

def longestLabel : Nat := 63

/-- The label that one between dots stands for. -/
def label? (s : Text) : Option Text :=
  match Text.dropPrefix? mark s with
  | none => some s
  | some coded =>
    if s.length ≤ longestLabel then (decoded? coded).filter isPrepared else none

/-- The text of names of hosts. -/
def hosts (data : List UInt8) : Option Text := do
  let labels ← (Text.splitAt '.' (← ascii.read data)).mapM label?
  return Text.joinWith ['.'] labels

/-- Text in which no label has the mark is read as it is. -/
theorem hosts_of_plain {data : List UInt8} {s : Text} (h : ascii.read data = some s)
    (hm : ∀ label ∈ Text.splitAt '.' s, Text.dropPrefix? mark label = none) :
    hosts data = some s := by
  have key : ∀ labels : List Text, (∀ label ∈ labels, Text.dropPrefix? mark label = none) →
      labels.mapM label? = some labels := by
    intro labels hl
    induction labels with
    | nil => rfl
    | cons label labels ih =>
      have hf : label? label = some label := by simp [label?, hl label (List.mem_cons_self ..)]
      have ht := ih fun l hm => hl l (List.mem_cons_of_mem _ hm)
      simp [List.mapM_cons, hf, ht]
  have hj := Text.joinWith_splitWhen '.' s
  simp only [hosts, h, key _ hm, Option.bind_eq_bind, Option.bind_some, Option.pure_def]
  exact congrArg some hj

end Routing.Charset
