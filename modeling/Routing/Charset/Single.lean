import Routing.Charset.Reader
import Routing.Text.Ranges

/-!
# One byte a character

Charsets that have ASCII below 0x80 and other characters, a byte each, past it.  What differs is
which bytes stand for none; two of them have blanks and signs of ASCII a second time, for text that
runs from right to left.
-/

namespace Routing.Charset

open Text (inRanges)

/-- ASCII, and past it a character for every byte but some. -/
def halved (missing : List (Nat × Nat)) : Reader Unit :=
  singles fun byte =>
    if byte < 0x80 then some (Char.ofNat byte.toNat)
    else if inRanges byte.toNat missing then none
    else some standIn

/-- What is below 0x80 is read as it is, whatever is missing past it. -/
theorem read_halved_of_plain (missing : List (Nat × Nat)) {data : List UInt8}
    (h : ∀ byte ∈ data, byte < 0x80) :
    (halved missing).read data = some (data.map Reader.plain) :=
  read_singles_of_plain (fun byte hb => by simp [hb, Reader.plain]) h

def ascii : Reader Unit := halved [(0x80, 0xff)]

/-- A sign of its own has the place of the percent sign. -/
def cp864 : Reader Unit :=
  singles fun byte =>
    if byte = 0x25 then some standIn
    else if byte < 0x80 then some (Char.ofNat byte.toNat)
    else if inRanges byte.toNat [(0x9b, 0x9c), (0x9f, 0x9f), (0xa6, 0xa7), (0xff, 0xff)] then none
    else some standIn

/-- The bytes that are signs of ASCII for text from right to left. -/
def repeated : List (Nat × Nat) :=
  [(0xa0, 0xa4), (0xa6, 0xab), (0xad, 0xaf), (0xba, 0xba), (0xbc, 0xbe), (0xdb, 0xdf), (0xfb, 0xfd)]

def rightToLeft : Reader Unit :=
  singles fun byte =>
    if byte < 0x80 then some (Char.ofNat byte.toNat)
    else if inRanges byte.toNat repeated then some (Char.ofNat (byte.toNat - 0x80))
    else some standIn

/-- The other charsets by their names, with what is missing in them. -/
def halvedCharsets : List (List String × List (Nat × Nat)) :=
  [(["cp1006", "cp1125", "cp1256", "cp437", "cp720", "cp737", "cp775", "cp850", "cp852", "cp855",
    "cp858", "cp860", "cp861", "cp862", "cp863", "cp865", "cp866", "iso8859_1", "iso8859_2",
    "iso8859_4", "iso8859_5", "iso8859_9", "iso8859_10", "iso8859_13", "iso8859_14", "iso8859_15",
    "iso8859_16", "koi8_r", "koi8_u", "latin_1", "charmap", "mac_croatian", "mac_cyrillic",
    "mac_greek", "mac_iceland", "mac_latin2", "mac_roman", "mac_romanian", "mac_turkish",
    "palmos", "ptcp154"], []),
  (["cp1250"], [(0x81, 0x81), (0x83, 0x83), (0x88, 0x88), (0x90, 0x90), (0x98, 0x98)]),
  (["cp1251", "kz1048"], [(0x98, 0x98)]),
  (["cp1252"], [(0x81, 0x81), (0x8d, 0x8d), (0x8f, 0x90), (0x9d, 0x9d)]),
  (["cp1253"],
    [(0x81, 0x81), (0x88, 0x88), (0x8a, 0x8a), (0x8c, 0x90), (0x98, 0x98), (0x9a, 0x9a),
    (0x9c, 0x9f), (0xaa, 0xaa), (0xd2, 0xd2), (0xff, 0xff)]),
  (["cp1254"], [(0x81, 0x81), (0x8d, 0x90), (0x9d, 0x9e)]),
  (["cp1255"],
    [(0x81, 0x81), (0x8a, 0x8a), (0x8c, 0x90), (0x9a, 0x9a), (0x9c, 0x9f), (0xca, 0xca),
    (0xd9, 0xdf), (0xfb, 0xfc), (0xff, 0xff)]),
  (["cp1257"],
    [(0x81, 0x81), (0x83, 0x83), (0x88, 0x88), (0x8a, 0x8a), (0x8c, 0x8c), (0x90, 0x90),
    (0x98, 0x98), (0x9a, 0x9a), (0x9c, 0x9c), (0x9f, 0x9f), (0xa1, 0xa1), (0xa5, 0xa5)]),
  (["cp1258"], [(0x81, 0x81), (0x8a, 0x8a), (0x8d, 0x90), (0x9a, 0x9a), (0x9d, 0x9e)]),
  (["cp856"],
    [(0x9b, 0x9b), (0x9d, 0x9d), (0x9f, 0xa8), (0xad, 0xad), (0xb5, 0xb7), (0xc6, 0xc7),
    (0xd0, 0xd8), (0xde, 0xde), (0xe0, 0xe5), (0xe7, 0xed)]),
  (["cp857"], [(0xd5, 0xd5), (0xe7, 0xe7), (0xf2, 0xf2)]),
  (["cp869"], [(0x80, 0x85), (0x87, 0x87), (0x93, 0x94)]),
  (["cp874"], [(0x81, 0x84), (0x86, 0x90), (0x98, 0x9f), (0xdb, 0xde), (0xfc, 0xff)]),
  (["hp_roman8"], [(0xff, 0xff)]),
  (["iso8859_11"], [(0xdb, 0xde), (0xfc, 0xff)]),
  (["iso8859_3"],
    [(0xa5, 0xa5), (0xae, 0xae), (0xbe, 0xbe), (0xc3, 0xc3), (0xd0, 0xd0), (0xe3, 0xe3),
    (0xf0, 0xf0)]),
  (["iso8859_6"],
    [(0xa1, 0xa3), (0xa5, 0xab), (0xae, 0xba), (0xbc, 0xbe), (0xc0, 0xc0), (0xdb, 0xdf),
    (0xf3, 0xff)]),
  (["iso8859_7"], [(0xae, 0xae), (0xd2, 0xd2), (0xff, 0xff)]),
  (["iso8859_8"], [(0xa1, 0xa1), (0xbf, 0xde), (0xfb, 0xfc), (0xff, 0xff)]),
  (["koi8_t"],
    [(0x88, 0x88), (0x8f, 0x8f), (0x98, 0x98), (0x9a, 0x9a), (0x9c, 0xa0), (0xa8, 0xaa),
    (0xaf, 0xaf), (0xb4, 0xb4), (0xb8, 0xb8), (0xba, 0xba), (0xbc, 0xbe)]),
  (["tis_620"], [(0xa0, 0xa0), (0xdb, 0xde), (0xfc, 0xff)])]

end Routing.Charset
