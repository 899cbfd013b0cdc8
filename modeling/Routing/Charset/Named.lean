import Routing.Charset.Hosts
import Routing.Charset.Single
import Routing.Charset.Switched
import Routing.Text.Utf8

/-!
# Charsets by name

Every charset that a remark of its own can name: those that have ASCII in its place, at least until
something switches away from it.  In any other the sign of a remark is another character.  Names are
told apart by their words only, and most charsets have more than one.
-/

namespace Routing

/-- A charset is how its bytes are read. -/
abbrev Charset := List UInt8 → Option Text

namespace Charset

/-- The charsets by the name that each goes by. -/
def byName : List (String × Charset) :=
  halvedCharsets.flatMap (fun (names, missing) =>
    names.map fun name => (name, (halved missing).read)) ++
  [("ascii", ascii.read), ("utf_8", Text.ofUtf8?), ("utf_8_sig", Text.ofUtf8?),
   ("cp864", cp864.read), ("mac_arabic", rightToLeft.read), ("mac_farsi", rightToLeft.read),
   ("big5", (table [] big5).read), ("big5hkscs", (table [] big5Hkscs).read),
   ("cp932", (table [(0x80, 0x80), (0xa0, 0xdf), (0xfd, 0xff)] cp932).read),
   ("cp949", (table [] cp949).read), ("cp950", (table [] cp950).read), ("gbk", (table [] gbk).read),
   ("johab", (table [] johab).read), ("gb18030", gb18030.read), ("gb2312", eucCn.read),
   ("euc_jis_2004", eucJis2004.read), ("euc_jisx0213", eucJisX0213.read), ("euc_jp", eucJp.read),
   ("euc_kr", eucKr.read), ("shift_jis", shiftJis.read), ("shift_jis_2004", shiftJis2004.read),
   ("shift_jisx0213", shiftJisX0213.read), ("hz", hz.read),
   ("iso2022_jp", (iso2022Jp [] false).read),
   ("iso2022_jp_1", (iso2022Jp supplementary false).read), ("iso2022_jp_2", iso2022Jp2.read),
   ("iso2022_jp_ext", (iso2022Jp (supplementary ++ [('I', .narrow)]) false).read),
   ("iso2022_jp_3", (iso2022Jp3 'O' hasIn2000).read),
   ("iso2022_jp_2004", (iso2022Jp3 'Q' jisX0213.has).read), ("iso2022_kr", iso2022Kr.read),
   ("utf_7", utf7.read), ("unicode_escape", escapes.read),
   ("raw_unicode_escape", numberEscapes.read), ("idna", hosts)]

/-- The other names of charsets. -/
def otherNames : List (String × List String) :=
  [("ascii", ["646", "ansi_x3.4_1968", "ansi_x3_4_1968", "ansi_x3.4_1986", "cp367", "csascii",
    "ibm367", "iso646_us", "iso_646.irv_1991", "iso_ir_6", "us", "us_ascii"]),
  ("big5", ["big5_tw", "csbig5", "x_mac_trad_chinese"]),
  ("big5hkscs", ["big5_hkscs", "hkscs"]),
  ("cp1125", ["1125", "ibm1125", "cp866u", "ruscii"]),
  ("cp1250", ["1250", "windows_1250"]),
  ("cp1251", ["1251", "windows_1251"]),
  ("cp1252", ["1252", "windows_1252"]),
  ("cp1253", ["1253", "windows_1253"]),
  ("cp1254", ["1254", "windows_1254"]),
  ("cp1255", ["1255", "windows_1255"]),
  ("cp1256", ["1256", "windows_1256"]),
  ("cp1257", ["1257", "windows_1257"]),
  ("cp1258", ["1258", "windows_1258"]),
  ("cp437", ["437", "cspc8codepage437", "ibm437"]),
  ("cp775", ["775", "cspc775baltic", "ibm775"]),
  ("cp850", ["850", "cspc850multilingual", "ibm850"]),
  ("cp852", ["852", "cspcp852", "ibm852"]),
  ("cp855", ["855", "csibm855", "ibm855"]),
  ("cp857", ["857", "csibm857", "ibm857"]),
  ("cp858", ["858", "csibm858", "ibm858"]),
  ("cp860", ["860", "csibm860", "ibm860"]),
  ("cp861", ["861", "cp_is", "csibm861", "ibm861"]),
  ("cp862", ["862", "cspc862latinhebrew", "ibm862"]),
  ("cp863", ["863", "csibm863", "ibm863"]),
  ("cp864", ["864", "csibm864", "ibm864"]),
  ("cp865", ["865", "csibm865", "ibm865"]),
  ("cp866", ["866", "csibm866", "ibm866"]),
  ("cp869", ["869", "cp_gr", "csibm869", "ibm869"]),
  ("cp932", ["932", "ms932", "mskanji", "ms_kanji"]),
  ("cp949", ["949", "ms949", "uhc"]),
  ("cp950", ["950", "ms950"]),
  ("euc_jis_2004", ["jisx0213", "eucjis2004", "euc_jis2004"]),
  ("euc_jisx0213", ["eucjisx0213"]),
  ("euc_jp", ["eucjp", "ujis", "u_jis"]),
  ("euc_kr", ["euckr", "korean", "ksc5601", "ks_c_5601", "ks_c_5601_1987", "ksx1001", "ks_x_1001",
    "x_mac_korean"]),
  ("gb18030", ["gb18030_2000"]),
  ("gb2312", ["chinese", "csiso58gb231280", "euc_cn", "euccn", "eucgb2312_cn", "gb2312_1980",
    "gb2312_80", "iso_ir_58", "x_mac_simp_chinese"]),
  ("gbk", ["936", "cp936", "ms936"]),
  ("hp_roman8", ["roman8", "r8", "cp1051", "ibm1051"]),
  ("hz", ["hzgb", "hz_gb", "hz_gb_2312"]),
  ("iso2022_jp", ["csiso2022jp", "iso2022jp", "iso_2022_jp"]),
  ("iso2022_jp_1", ["iso2022jp_1", "iso_2022_jp_1"]),
  ("iso2022_jp_2", ["iso2022jp_2", "iso_2022_jp_2"]),
  ("iso2022_jp_2004", ["iso_2022_jp_2004", "iso2022jp_2004"]),
  ("iso2022_jp_3", ["iso2022jp_3", "iso_2022_jp_3"]),
  ("iso2022_jp_ext", ["iso2022jp_ext", "iso_2022_jp_ext"]),
  ("iso2022_kr", ["csiso2022kr", "iso2022kr", "iso_2022_kr"]),
  ("iso8859_10", ["csisolatin6", "iso_8859_10", "iso_8859_10_1992", "iso_ir_157", "l6",
    "latin6"]),
  ("iso8859_11", ["thai", "iso_8859_11", "iso_8859_11_2001"]),
  ("iso8859_13", ["iso_8859_13", "l7", "latin7"]),
  ("iso8859_14", ["iso_8859_14", "iso_8859_14_1998", "iso_celtic", "iso_ir_199", "l8", "latin8"]),
  ("iso8859_15", ["iso_8859_15", "l9", "latin9"]),
  ("iso8859_16", ["iso_8859_16", "iso_8859_16_2001", "iso_ir_226", "l10", "latin10"]),
  ("iso8859_2", ["csisolatin2", "iso_8859_2", "iso_8859_2_1987", "iso_ir_101", "l2", "latin2"]),
  ("iso8859_3", ["csisolatin3", "iso_8859_3", "iso_8859_3_1988", "iso_ir_109", "l3", "latin3"]),
  ("iso8859_4", ["csisolatin4", "iso_8859_4", "iso_8859_4_1988", "iso_ir_110", "l4", "latin4"]),
  ("iso8859_5", ["csisolatincyrillic", "cyrillic", "iso_8859_5", "iso_8859_5_1988",
    "iso_ir_144"]),
  ("iso8859_6", ["arabic", "asmo_708", "csisolatinarabic", "ecma_114", "iso_8859_6",
    "iso_8859_6_1987", "iso_ir_127"]),
  ("iso8859_7", ["csisolatingreek", "ecma_118", "elot_928", "greek", "greek8", "iso_8859_7",
    "iso_8859_7_1987", "iso_ir_126"]),
  ("iso8859_8", ["csisolatinhebrew", "hebrew", "iso_8859_8", "iso_8859_8_1988", "iso_ir_138"]),
  ("iso8859_9", ["csisolatin5", "iso_8859_9", "iso_8859_9_1989", "iso_ir_148", "l5", "latin5"]),
  ("johab", ["cp1361", "ms1361"]),
  ("koi8_r", ["cskoi8r"]),
  ("kz1048", ["kz_1048", "rk1048", "strk1048_2002"]),
  ("latin_1", ["8859", "cp819", "csisolatin1", "ibm819", "iso8859", "iso8859_1", "iso_8859_1",
    "iso_8859_1_1987", "iso_ir_100", "l1", "latin", "latin1"]),
  ("mac_cyrillic", ["maccyrillic"]),
  ("mac_greek", ["macgreek"]),
  ("mac_iceland", ["maciceland"]),
  ("mac_latin2", ["maccentraleurope", "mac_centeuro", "maclatin2"]),
  ("mac_roman", ["macintosh", "macroman"]),
  ("mac_turkish", ["macturkish"]),
  ("ptcp154", ["csptcp154", "pt154", "cp154", "cyrillic_asian"]),
  ("shift_jis", ["csshiftjis", "shiftjis", "sjis", "s_jis", "x_mac_japanese"]),
  ("shift_jis_2004", ["shiftjis2004", "sjis_2004", "s_jis_2004"]),
  ("shift_jisx0213", ["shiftjisx0213", "sjisx0213", "s_jisx0213"]),
  ("tis_620", ["tis620", "tis_620_0", "tis_620_2529_0", "tis_620_2529_1", "iso_ir_166"]),
  ("utf_7", ["u7", "utf7", "unicode_1_1_utf_7"]),
  ("utf_8", ["u8", "utf", "utf8", "utf8_ucs2", "utf8_ucs4", "cp65001"])]

/-- A name as the tables have it: its words in small letters with an underscore between neighbours.
-/
def tidied (name : Text) : Text :=
  Text.joinWith "_"
    ((Text.splitWhen (fun c => !c.isAlphanum && c != '.') (name.map Char.toLower)).filter
      (!·.isEmpty))

/-- The name that a charset of another name goes by. -/
def ownName? (name : Text) : Option String :=
  (otherNames.find? fun (_, names) => names.contains (String.ofList name)).map (·.1)

/-- The charset of a name.  A dot in another name of it may be an underscore in the table. -/
def find? (name : Text) : Option Charset :=
  let name := tidied name
  let own := (ownName? name <|> ownName? (name.map fun c => if c = '.' then '_' else c)).getD
    (String.ofList name)
  byName.lookup own

end Charset

end Routing
