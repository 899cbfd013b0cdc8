import Routing.Text.Ranges

/-!
# Grids

A set of characters with two numbers each, a row and a cell in it: the national sets by rows and
cells from 1 to 94, other tables by the two bytes themselves.  A grid says which places are taken;
rows that have the same places taken stand together.
-/

namespace Routing.Charset

open Text (inRanges)

/-- Ranges of rows, each with the ranges of the cells taken in them. -/
abbrev Grid := List (List (Nat × Nat) × List (Nat × Nat))

/-- Whether a place is taken. -/
def Grid.has (grid : Grid) (row cell : Nat) : Bool :=
  grid.any fun (rows, cells) => inRanges row rows && inRanges cell cells

/-! ### National sets, by rows and cells -/

/-- The set of JIS X 0208. -/
def jisX0208 : Grid :=
  [([(1, 1), (16, 46), (48, 83)], [(1, 94)]),
   ([(2, 2)], [(1, 14), (26, 33), (42, 48), (60, 74), (82, 89), (94, 94)]),
   ([(3, 3)], [(16, 25), (33, 58), (65, 90)]),
   ([(4, 4)], [(1, 83)]),
   ([(5, 5)], [(1, 86)]),
   ([(6, 6)], [(1, 24), (33, 56)]),
   ([(7, 7)], [(1, 33), (49, 81)]),
   ([(8, 8)], [(1, 32)]),
   ([(47, 47)], [(1, 51)]),
   ([(84, 84)], [(1, 6)])]

/-- The supplementary set of JIS X 0212. -/
def jisX0212 : Grid :=
  [([(2, 2)], [(15, 25), (34, 36), (75, 81)]),
   ([(6, 6)], [(65, 69), (71, 71), (73, 74), (76, 76), (81, 92)]),
   ([(7, 7)], [(34, 46), (82, 94)]),
   ([(9, 9)], [(1, 2), (4, 4), (6, 6), (8, 9), (11, 13), (15, 16), (33, 48)]),
   ([(10, 10)], [(1, 24), (26, 87)]),
   ([(11, 11)], [(1, 27), (29, 35), (37, 87)]),
   ([(16, 76)], [(1, 94)]),
   ([(77, 77)], [(1, 67)])]

/-- The first plane of JIS X 0213. -/
def jisX0213 : Grid :=
  [([(1, 3), (5, 7), (9, 11), (14, 94)], [(1, 94)]),
   ([(4, 4)], [(1, 91)]),
   ([(8, 8)], [(1, 62), (71, 92)]),
   ([(12, 12)], [(1, 83), (93, 94)]),
   ([(13, 13)], [(1, 55), (63, 79), (83, 83), (88, 89), (93, 94)])]

/-- What the edition of 2004 added to that plane. -/
def jisX0213Added : Grid :=
  [([(14, 14)], [(1, 1)]),
   ([(15, 15)], [(94, 94)]),
   ([(47, 47)], [(52, 52), (94, 94)]),
   ([(84, 84)], [(7, 7)]),
   ([(94, 94)], [(90, 94)])]

/-- The second plane of JIS X 0213. -/
def jisX0213Second : Grid :=
  [([(1, 1), (3, 5), (8, 8), (12, 15), (78, 93)], [(1, 94)]),
   ([(94, 94)], [(1, 86)])]

/-- The set of KS X 1001 less its filler. -/
def ksX1001 : Grid :=
  [([(1, 1), (3, 3), (9, 9), (16, 40), (42, 93)], [(1, 94)]),
   ([(2, 2)], [(1, 71)]),
   ([(4, 4)], [(1, 51), (53, 94)]),
   ([(5, 5)], [(1, 10), (16, 25), (33, 56), (65, 88)]),
   ([(6, 6)], [(1, 68)]),
   ([(7, 7)], [(1, 79)]),
   ([(8, 8)], [(1, 4), (6, 6), (8, 15), (17, 94)]),
   ([(10, 10)], [(1, 83)]),
   ([(11, 11)], [(1, 86)]),
   ([(12, 12)], [(1, 33), (49, 81)])]

/-- The set of GB 2312. -/
def gb2312 : Grid :=
  [([(1, 1), (3, 3), (16, 54), (56, 87)], [(1, 94)]),
   ([(2, 2)], [(17, 66), (69, 78), (81, 92)]),
   ([(4, 4)], [(1, 83)]),
   ([(5, 5)], [(1, 86)]),
   ([(6, 6)], [(1, 24), (33, 56)]),
   ([(7, 7)], [(1, 33), (49, 81)]),
   ([(8, 8)], [(1, 26), (37, 73)]),
   ([(9, 9)], [(4, 79)]),
   ([(55, 55)], [(1, 89)])]

/-! ### Tables of pairs, by bytes -/

/-- The pairs of Big5. -/
def big5 : Grid :=
  [([(0xa1, 0xa2), (0xa4, 0xc6), (0xc9, 0xf8)], [(0x40, 0x7e), (0xa1, 0xfe)]),
   ([(0xa3, 0xa3)], [(0x40, 0x7e), (0xa1, 0xbf)]),
   ([(0xc7, 0xc7)], [(0x40, 0x7e), (0xa1, 0xfc)]),
   ([(0xf9, 0xf9)], [(0x40, 0x7e), (0xa1, 0xd5)])]

/-- The pairs of Big5 with the characters of Hong Kong. -/
def big5Hkscs : Grid :=
  [([(0x87, 0x87)], [(0x40, 0x65), (0x67, 0x79)]),
   ([(0x88, 0x88)], [(0x40, 0x7e), (0xa1, 0xaa)]),
   ([(0x89, 0x89)], [(0x40, 0x41), (0x43, 0x43), (0x46, 0x49), (0x4c, 0x7e), (0xa1, 0xa6),
     (0xab, 0xae), (0xb0, 0xb2), (0xb5, 0xbf), (0xc1, 0xc3), (0xc5, 0xfe)]),
   ([(0x8a, 0x8a)], [(0x40, 0x41), (0x43, 0x62), (0x64, 0x74), (0x76, 0x7e), (0xa1, 0xaa),
     (0xac, 0xb0), (0xb2, 0xb9), (0xbb, 0xc7), (0xc9, 0xcc), (0xce, 0xdc), (0xdf, 0xf4),
     (0xf6, 0xfe)]),
   ([(0x8b, 0x8b)], [(0x40, 0x53), (0x55, 0x7e), (0xa1, 0xdc), (0xde, 0xfd)]),
   ([(0x8c, 0x8c)], [(0x40, 0x7e), (0xa1, 0xa5), (0xa7, 0xc5), (0xc9, 0xcc), (0xce, 0xe4),
     (0xe6, 0xfe)]),
   ([(0x8d, 0x8d)], [(0x40, 0x40), (0x42, 0x7e), (0xa1, 0xfe)]),
   ([(0x8e, 0x8e)], [(0x40, 0x68), (0x6a, 0x6e), (0x70, 0x7d), (0xa1, 0xaa), (0xac, 0xb3),
     (0xb5, 0xcc), (0xce, 0xcf), (0xd1, 0xfe)]),
   ([(0x8f, 0x8f)], [(0x40, 0x56), (0x58, 0x68), (0x6a, 0x6d), (0x6f, 0x7e), (0xa1, 0xca),
     (0xcd, 0xfd)]),
   ([(0x90, 0x90)], [(0x40, 0x6c), (0x6e, 0x79), (0x7b, 0x7e), (0xa1, 0xdb), (0xdd, 0xf0),
     (0xf2, 0xfe)]),
   ([(0x91, 0x91)], [(0x40, 0x7e), (0xa1, 0xbe), (0xc0, 0xfe)]),
   ([(0x92, 0x92)], [(0x40, 0x43), (0x45, 0x7e), (0xa1, 0xae), (0xb3, 0xc7), (0xc9, 0xd0),
     (0xd2, 0xfe)]),
   ([(0x93, 0x93), (0x97, 0x9a), (0xa1, 0xa2), (0xa4, 0xc5), (0xc7, 0xc7), (0xc9, 0xf9)],
     [(0x40, 0x7e), (0xa1, 0xfe)]),
   ([(0x94, 0x94)], [(0x40, 0x46), (0x48, 0x7e), (0xa1, 0xc9), (0xcb, 0xfe)]),
   ([(0x95, 0x95)], [(0x40, 0x7e), (0xa1, 0xd8), (0xda, 0xfe)]),
   ([(0x96, 0x96)], [(0x40, 0x43), (0x45, 0x7e), (0xa1, 0xec), (0xee, 0xfb), (0xfd, 0xfe)]),
   ([(0x9b, 0x9b)], [(0x40, 0x60), (0x62, 0x75), (0x77, 0x77), (0x79, 0x7a), (0x7c, 0x7e),
     (0xa1, 0xc5), (0xc7, 0xdd), (0xdf, 0xeb), (0xed, 0xf5), (0xf7, 0xfe)]),
   ([(0x9c, 0x9c)], [(0x40, 0x41), (0x43, 0x52), (0x54, 0x61), (0x63, 0x67), (0x69, 0x6a),
     (0x6c, 0x76), (0x78, 0x7e), (0xa1, 0xbb), (0xbe, 0xcf), (0xd1, 0xfe)]),
   ([(0x9d, 0x9d)], [(0x40, 0x56), (0x58, 0x59), (0x5b, 0x7e), (0xa1, 0xc3), (0xc5, 0xfe)]),
   ([(0x9e, 0x9e)], [(0x40, 0x7e), (0xa1, 0xa8), (0xaa, 0xab), (0xad, 0xc3), (0xc5, 0xee),
     (0xf0, 0xf3), (0xf5, 0xfc), (0xfe, 0xfe)]),
   ([(0x9f, 0x9f)], [(0x40, 0x4d), (0x4f, 0x5f), (0x61, 0x65), (0x67, 0x7e), (0xa1, 0xac),
     (0xae, 0xb0), (0xb2, 0xbf), (0xc1, 0xc7), (0xc9, 0xca), (0xcc, 0xd7), (0xd9, 0xd9),
     (0xdb, 0xe5), (0xe7, 0xe9), (0xeb, 0xee), (0xf0, 0xfe)]),
   ([(0xa0, 0xa0)], [(0x40, 0x53), (0x55, 0x56), (0x58, 0x59), (0x5b, 0x61), (0x64, 0x71),
     (0x73, 0x76), (0x78, 0x7e), (0xa1, 0xa4), (0xa6, 0xac), (0xae, 0xae), (0xb0, 0xd2),
     (0xd4, 0xd4), (0xd6, 0xde), (0xe0, 0xe0), (0xe2, 0xe3), (0xe5, 0xfe)]),
   ([(0xa3, 0xa3)], [(0x40, 0x7e), (0xa1, 0xbf)]),
   ([(0xc6, 0xc6)], [(0x40, 0x7e), (0xa1, 0xce), (0xd0, 0xd2), (0xd4, 0xd4), (0xd6, 0xd6),
     (0xd8, 0xdd), (0xe0, 0xfe)]),
   ([(0xc8, 0xc8)], [(0x40, 0x7e), (0xa1, 0xa4), (0xcd, 0xf1), (0xf5, 0xfe)]),
   ([(0xfa, 0xfa)], [(0x40, 0x5e), (0x60, 0x65), (0x67, 0x7e), (0xa1, 0xbc), (0xbe, 0xc4),
     (0xc6, 0xd4), (0xd6, 0xfe)]),
   ([(0xfb, 0xfb)], [(0x40, 0x47), (0x49, 0x7e), (0xa1, 0xb7), (0xb9, 0xf2), (0xf4, 0xf8),
     (0xfa, 0xfe)]),
   ([(0xfc, 0xfc)], [(0x40, 0x4e), (0x50, 0x6b), (0x6d, 0x7e), (0xa1, 0xb8), (0xba, 0xe1),
     (0xe3, 0xf0), (0xf2, 0xfe)]),
   ([(0xfd, 0xfd)], [(0x40, 0x7e), (0xa1, 0xb6), (0xb9, 0xba), (0xbc, 0xf0), (0xf2, 0xfe)]),
   ([(0xfe, 0xfe)], [(0x40, 0x51), (0x53, 0x6e), (0x70, 0x7e), (0xa1, 0xa9), (0xab, 0xdc),
     (0xde, 0xfe)])]

/-- The pairs of code page 950. -/
def cp950 : Grid :=
  [([(0xa1, 0xa2), (0xa4, 0xc6), (0xc9, 0xf9)], [(0x40, 0x7e), (0xa1, 0xfe)]),
   ([(0xa3, 0xa3)], [(0x40, 0x7e), (0xa1, 0xbf), (0xe1, 0xe1)]),
   ([(0xc7, 0xc7)], [(0x40, 0x7e), (0xa1, 0xfc)])]

/-- The pairs of GBK. -/
def gbk : Grid :=
  [([(0x81, 0xa0), (0xb0, 0xd6), (0xd8, 0xf7)], [(0x40, 0x7e), (0x80, 0xfe)]),
   ([(0xa1, 0xa1), (0xa3, 0xa3)], [(0xa1, 0xfe)]),
   ([(0xa2, 0xa2)], [(0xa1, 0xaa), (0xb1, 0xe2), (0xe5, 0xee), (0xf1, 0xfc)]),
   ([(0xa4, 0xa4)], [(0xa1, 0xf3)]),
   ([(0xa5, 0xa5)], [(0xa1, 0xf6)]),
   ([(0xa6, 0xa6)], [(0xa1, 0xb8), (0xc1, 0xd8), (0xe0, 0xeb), (0xee, 0xf2), (0xf4, 0xf5)]),
   ([(0xa7, 0xa7)], [(0xa1, 0xc1), (0xd1, 0xf1)]),
   ([(0xa8, 0xa8)], [(0x40, 0x7e), (0x80, 0x95), (0xa1, 0xbb), (0xbd, 0xbe), (0xc0, 0xc0),
     (0xc5, 0xe9)]),
   ([(0xa9, 0xa9)], [(0x40, 0x57), (0x59, 0x5a), (0x5c, 0x5c), (0x60, 0x7e), (0x80, 0x88),
     (0x96, 0x96), (0xa4, 0xef)]),
   ([(0xaa, 0xaf), (0xf8, 0xfd)], [(0x40, 0x7e), (0x80, 0xa0)]),
   ([(0xd7, 0xd7)], [(0x40, 0x7e), (0x80, 0xf9)]),
   ([(0xfe, 0xfe)], [(0x40, 0x4f)])]

/-- The pairs of code page 949. -/
def cp949 : Grid :=
  [([(0x81, 0xa1), (0xa3, 0xa4), (0xa9, 0xa9), (0xb0, 0xc5)], [(0x41, 0x5a), (0x61, 0x7a),
     (0x81, 0xfe)]),
   ([(0xa2, 0xa2)], [(0x41, 0x5a), (0x61, 0x7a), (0x81, 0xe7)]),
   ([(0xa5, 0xa5)], [(0x41, 0x5a), (0x61, 0x7a), (0x81, 0xaa), (0xb0, 0xb9), (0xc1, 0xd8),
     (0xe1, 0xf8)]),
   ([(0xa6, 0xa6)], [(0x41, 0x5a), (0x61, 0x7a), (0x81, 0xe4)]),
   ([(0xa7, 0xa7)], [(0x41, 0x5a), (0x61, 0x7a), (0x81, 0xef)]),
   ([(0xa8, 0xa8)], [(0x41, 0x5a), (0x61, 0x7a), (0x81, 0xa4), (0xa6, 0xa6), (0xa8, 0xaf),
     (0xb1, 0xfe)]),
   ([(0xaa, 0xaa)], [(0x41, 0x5a), (0x61, 0x7a), (0x81, 0xf3)]),
   ([(0xab, 0xab)], [(0x41, 0x5a), (0x61, 0x7a), (0x81, 0xf6)]),
   ([(0xac, 0xac)], [(0x41, 0x5a), (0x61, 0x7a), (0x81, 0xc1), (0xd1, 0xf1)]),
   ([(0xad, 0xaf)], [(0x41, 0x5a), (0x61, 0x7a), (0x81, 0xa0)]),
   ([(0xc6, 0xc6)], [(0x41, 0x52), (0xa1, 0xfe)]),
   ([(0xc7, 0xc8), (0xca, 0xfd)], [(0xa1, 0xfe)])]

/-- The pairs of Johab. -/
def johab : Grid :=
  [([(0x84, 0x84)], [(0x41, 0x51), (0x53, 0x5d), (0x61, 0x61), (0x81, 0x81), (0xa1, 0xa1),
     (0xc1, 0xc1), (0xe1, 0xe1)]),
   ([(0x85, 0x86)], [(0x41, 0x41), (0x61, 0x61), (0x81, 0x81), (0xa1, 0xa1), (0xc1, 0xc1),
     (0xe1, 0xe1)]),
   ([(0x87, 0x87)], [(0x41, 0x41), (0x61, 0x61), (0x81, 0x81), (0xa1, 0xa1)]),
   ([(0x88, 0x88), (0x8c, 0x8c), (0x90, 0x90), (0x94, 0x94), (0x98, 0x98), (0x9c, 0x9c),
     (0xa0, 0xa0), (0xa4, 0xa4), (0xa8, 0xa8), (0xac, 0xac), (0xb0, 0xb0), (0xb4, 0xb4),
     (0xb8, 0xb8), (0xbc, 0xbc), (0xc0, 0xc0), (0xc4, 0xc4), (0xc8, 0xc8), (0xcc, 0xcc),
     (0xd0, 0xd0)], [(0x41, 0x41), (0x61, 0x71), (0x73, 0x7d), (0x81, 0x91), (0x93, 0x9d),
     (0xa1, 0xb1), (0xb3, 0xbd), (0xc1, 0xd1), (0xd3, 0xdd), (0xe1, 0xf1), (0xf3, 0xfd)]),
   ([(0x89, 0x8a), (0x8d, 0x8e), (0x91, 0x92), (0x95, 0x96), (0x99, 0x9a), (0x9d, 0x9e),
     (0xa1, 0xa2), (0xa5, 0xa6), (0xa9, 0xaa), (0xad, 0xae), (0xb1, 0xb2), (0xb5, 0xb6),
     (0xb9, 0xba), (0xbd, 0xbe), (0xc1, 0xc2), (0xc5, 0xc6), (0xc9, 0xca), (0xcd, 0xce),
     (0xd1, 0xd2)], [(0x41, 0x51), (0x53, 0x5d), (0x61, 0x71), (0x73, 0x7d), (0x81, 0x91),
     (0x93, 0x9d), (0xa1, 0xb1), (0xb3, 0xbd), (0xc1, 0xd1), (0xd3, 0xdd), (0xe1, 0xf1),
     (0xf3, 0xfd)]),
   ([(0x8b, 0x8b), (0x8f, 0x8f), (0x93, 0x93), (0x97, 0x97), (0x9b, 0x9b), (0x9f, 0x9f),
     (0xa3, 0xa3), (0xa7, 0xa7), (0xab, 0xab), (0xaf, 0xaf), (0xb3, 0xb3), (0xb7, 0xb7),
     (0xbb, 0xbb), (0xbf, 0xbf), (0xc3, 0xc3), (0xc7, 0xc7), (0xcb, 0xcb), (0xcf, 0xcf),
     (0xd3, 0xd3)], [(0x41, 0x51), (0x53, 0x5d), (0x61, 0x71), (0x73, 0x7d), (0x81, 0x91),
     (0x93, 0x9d), (0xa1, 0xb1), (0xb3, 0xbd)]),
   ([(0xd9, 0xd9)], [(0x31, 0x7e), (0x91, 0xe7)]),
   ([(0xda, 0xda)], [(0x31, 0x7e), (0x91, 0xa0), (0xd4, 0xfe)]),
   ([(0xdb, 0xdb)], [(0x31, 0x3a), (0x40, 0x49), (0x51, 0x68), (0x71, 0x7e), (0x91, 0x9a),
     (0xa1, 0xe4)]),
   ([(0xdc, 0xdc)], [(0x31, 0x7e), (0x91, 0x91), (0xa1, 0xa4), (0xa6, 0xa6), (0xa8, 0xaf),
     (0xb1, 0xfe)]),
   ([(0xdd, 0xdd)], [(0x31, 0x7e), (0x91, 0xf3)]),
   ([(0xde, 0xde)], [(0x31, 0x7e), (0x91, 0x98), (0xa1, 0xc1), (0xd1, 0xf1)]),
   ([(0xe0, 0xf9)], [(0x31, 0x7e), (0x91, 0xfe)])]

/-- The pairs of code page 932. -/
def cp932 : Grid :=
  [([(0x81, 0x81)], [(0x40, 0x7e), (0x80, 0xac), (0xb8, 0xbf), (0xc8, 0xce), (0xda, 0xe8),
     (0xf0, 0xf7), (0xfc, 0xfc)]),
   ([(0x82, 0x82)], [(0x4f, 0x58), (0x60, 0x79), (0x81, 0x9a), (0x9f, 0xf1)]),
   ([(0x83, 0x83)], [(0x40, 0x7e), (0x80, 0x96), (0x9f, 0xb6), (0xbf, 0xd6)]),
   ([(0x84, 0x84)], [(0x40, 0x60), (0x70, 0x7e), (0x80, 0x91), (0x9f, 0xbe)]),
   ([(0x87, 0x87)], [(0x40, 0x5d), (0x5f, 0x75), (0x7e, 0x7e), (0x80, 0x9c)]),
   ([(0x88, 0x88)], [(0x9f, 0xfc)]),
   ([(0x89, 0x97), (0x99, 0x9f), (0xe0, 0xe9), (0xed, 0xed), (0xf0, 0xfb)], [(0x40, 0x7e),
     (0x80, 0xfc)]),
   ([(0x98, 0x98)], [(0x40, 0x72), (0x9f, 0xfc)]),
   ([(0xea, 0xea)], [(0x40, 0x7e), (0x80, 0xa4)]),
   ([(0xee, 0xee)], [(0x40, 0x7e), (0x80, 0xec), (0xef, 0xfc)]),
   ([(0xfc, 0xfc)], [(0x40, 0x4b)])]

end Routing.Charset
