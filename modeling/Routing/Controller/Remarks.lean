import Routing.Charset.Named
import Routing.Fault
import Routing.RoutesFile

/-!
# Files without members

A file that stands where a controller should and gives no members can still be read as one if it
says nothing: if every line of it is blank or a remark.  A remark on one of the first two lines may
name the charset of the file, in which the file then has to be written; with no charset, or with
UTF-8, remarks are not looked into.  A byte order mark in front says UTF-8, and no remark may say
otherwise.  Main fact: `saysNothing_remark` (one remark is enough).
-/

namespace Routing.Remarks

/-! ### Text that says nothing -/

/-- Whether a character may stand before a remark. -/
def isMargin (c : Char) : Bool := c == ' ' || c == '\t' || c == '\x0c'

/-- Where a reader for blanks and remarks is. -/
inductive Spot where
  | remark
  /-- In front of what a line says.  It is indented if blanks have come since the last form feed,
  and stays so if they came before a line end that was joined. -/
  | margin (isIndented staysIndented : Bool)
  deriving DecidableEq

/-- At the front of a line. -/
def Spot.front : Spot := .margin false false

/-- Whether a text says nothing from a spot on.  A backslash at the end of a blank line joins it to
the next one, which there has to be; and a text may not end on blanks that indent what they stand
before. -/
def isSilent : Spot → Text → Bool
  | .remark, [] => true
  | .margin isIndented staysIndented, [] => !(isIndented || staysIndented)
  | _, '\n' :: cs => isSilent .front cs
  | .remark, _ :: cs => isSilent .remark cs
  | .margin .., '#' :: cs => isSilent .remark cs
  | .margin isIndented staysIndented, '\\' :: '\n' :: c :: cs =>
    isSilent (.margin isIndented (isIndented || staysIndented)) (c :: cs)
  | .margin _ staysIndented, '\x0c' :: cs => isSilent (.margin false staysIndented) cs
  | .margin _ staysIndented, c :: cs => isMargin c && isSilent (.margin true staysIndented) cs

/-- Whether every line of a text is blank or a remark.  A NUL ends the text. -/
def saysNothing (s : Text) : Bool := isSilent .front (s.takeWhile (· != '\x00'))

/-! ### Charsets -/

/-- How a file is to be read. -/
inductive Reading where
  /-- As UTF-8 that is not looked into. -/
  | trusted
  /-- In a charset that it names. -/
  | named (charset : Charset)
  /-- There is no charset of the name. -/
  | unknown

/-- Whether a name is one of some, alone or with more words after a hyphen. -/
def isOneOf (names : List Text) (name : Text) : Bool :=
  names.any fun known => known == name || (known ++ ['-']).isPrefixOf name

/-- How a file whose charset is named so is to be read. -/
def readingOf (name : Text) : Reading :=
  let plain := (name.take 12).map fun c => if c = '_' then '-' else c.toLower
  if isOneOf ["utf-8".toList] plain then .trusted
  else if isOneOf ["latin-1".toList, "iso-8859-1".toList, "iso-latin-1".toList] plain then
    .named (Charset.halved []).read
  else
    match Charset.find? name with
    | some charset => .named charset
    | none => .unknown

/-- Whether a character may stand in the name of a charset. -/
def isNamePart (c : Char) : Bool := c.isAlphanum || c == '-' || c == '_' || c == '.'

/-- The name of a charset after the word that announces one: it comes after a colon or an equals
sign and blanks. -/
def announced? : Text → Option Text
  | c :: cs =>
    if c = ':' ∨ c = '=' then
      match (cs.dropWhile fun c => c == ' ' || c == '\t').takeWhile isNamePart with
      | [] => none
      | name => some name
    else none
  | [] => none

/-- The first name of a charset that a remark announces. -/
def namedIn? : Text → Option Text
  | [] => none
  | c :: cs =>
    match (Text.dropPrefix? "coding" (c :: cs)).bind announced? with
    | some name => some name
    | none => namedIn? cs

/-- The name of a charset in the first two lines, of which the second one counts after a line that
says nothing. -/
def charsetName? : List Text → Option Text
  | [] => none
  | first :: rest =>
    match first.dropWhile isMargin with
    | [] => rest.head?.bind inRemark?
    | '#' :: remark => namedIn? remark <|> rest.head?.bind inRemark?
    | _ => none
where
  inRemark? (line : Text) : Option Text :=
    match line.dropWhile isMargin with
    | '#' :: remark => namedIn? remark
    | _ => none

/-! ### Files -/

/-- The bytes after a byte order mark, if there is one. -/
def afterMark? : List UInt8 → Option (List UInt8)
  | 0xef :: 0xbb :: 0xbf :: data => some data
  | _ => none

/-- Bytes as the characters of the same numbers. -/
def unread (data : List UInt8) : Text := data.map fun byte => Char.ofNat byte.toNat

/-- The lines of a file as they stand, each with a line feed at its end.  An empty one follows a
last line that ends with a carriage return and a line feed. -/
def withLastLine (s : Text) : Text :=
  let lines := RoutesFile.withLineFeeds s
  if lines.getLast? = some '\n' ∧ ¬ ['\r', '\n'].isSuffixOf s then lines else lines ++ ['\n']

/-- The text of a file as far as it is looked into. -/
def textOf? (data : List UInt8) : Option Text :=
  let content := withLastLine (unread ((afterMark? data).getD data))
  match (charsetName? (Text.splitAt '\n' content)).map readingOf with
  | none => some content
  | some .trusted => some content
  | some .unknown => none
  | some (.named charset) =>
    if (afterMark? data).isSome then none
    else charset (content.map fun c => UInt8.ofNat c.toNat)

/-- Reads a file as a controller without members. -/
def read (data : List UInt8) : Except Fault Unit :=
  if data.contains 0 then .error .sourceHoldsNul
  else if (textOf? data).any saysNothing then .ok ()
  else .error (.controllerRaised .unreadable)

/-! ### Facts -/

/-- A remark may be all that is left. -/
theorem isSilent_remark {remark : Text} (h : '\n' ∉ remark) : isSilent .remark remark = true := by
  induction remark with
  | nil => simp [isSilent]
  | cons c remark ih =>
    have hc : c ≠ '\n' := fun hc => h (hc ▸ List.mem_cons_self ..)
    rw [isSilent]
    · exact ih fun hr => h (List.mem_cons_of_mem _ hr)
    · exact hc

/-- One remark says nothing. -/
theorem saysNothing_remark {remark : Text} (h : '\n' ∉ remark) :
    saysNothing ('#' :: remark) = true := by
  have ht : '\n' ∉ remark.takeWhile (· != '\x00') :=
    fun ht => h ((List.takeWhile_sublist _).subset ht)
  simp [saysNothing, Spot.front, isSilent, isSilent_remark ht]

end Routing.Remarks
