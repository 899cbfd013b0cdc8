import Routing.FileTree
import Routing.Directive
import Routing.Text.Quoted
import Routing.Text.Utf8

/-!
# Reading a routes file

A routes file is UTF-8 without exception, and a carriage return ends a line there with or without a
line feed after it.  A file that cannot be opened or decoded is reported with the reason.
-/

namespace Routing.RoutesFile

/-- The text with every kind of line end written as a line feed. -/
def withLineFeeds : Text → Text
  | [] => []
  | '\r' :: '\n' :: cs => '\n' :: withLineFeeds cs
  | '\r' :: cs => '\n' :: withLineFeeds cs
  | c :: cs => c :: withLineFeeds cs

/-- What is said of a path that cannot be opened. -/
def reason (code : Text) (what : Text) (p : Path) : Text :=
  "[Errno ".toList ++ code ++ "] ".toList ++ what ++ ": ".toList ++ Text.quoted p.text

/-- The text of the file that a path leads to, for a reader who calls the path `name`. -/
def readText (t : FileTree) (name : Text) (p : Path) : Except Fault Text :=
  match t.lookup p with
  | .file (.text s) => .ok (withLineFeeds s)
  | .file (.bytes data) =>
    match Text.ofUtf8? data with
    | some s => .ok (withLineFeeds s)
    | none => .error (.unreadableFile name "<decode error>" (some .undecodable))
  | .file (.controller _) => .ok []
  | .directory => failed "21" "Is a directory"
  | .missing => failed "2" "No such file or directory"
  | .notDirectory => failed "20" "Not a directory"
  | .tooLong => failed "36" "File name too long"
  | .unusable => .error .pathHoldsNul
where
  failed (code what : Text) : Except Fault Text :=
    .error (.unreadableFile name (reason code what p) (some .system))

/-- The lines of the file that say something. -/
def readLines (t : FileTree) (name : Text) (p : Path) : Except Fault (List Text) :=
  (readText t name p).map Directive.kept

/-- No carriage return is left in what is read. -/
theorem not_mem_withLineFeeds (s : Text) : '\r' ∉ withLineFeeds s := by
  fun_induction withLineFeeds s <;> simp_all [eq_comm]

end Routing.RoutesFile
