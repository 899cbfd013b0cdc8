import Routing.Text

/-!
# Globs

A glob matches whole texts.  A star stands for any text, a question mark for any character, and
brackets for one character out of a class or, after an exclamation mark, out of none of it.  A
bracket that is never closed stands for itself.

The inside of brackets is cut at the hyphens that make ranges: never at its first character, nor at
the two after a cut.  A range whose ends are in the wrong order is dropped, ends and all.

What matches is said by `run`, which tries every length for every star.  `isMatch` finds the same
without trying any text twice: it goes through the tokens once, with all that can be left of the
text after each.  Main facts: `isMatch_eq_run`, `run_literals` (a glob without wildcards matches
itself alone) and `run_star_append` (a star takes any text).
-/

namespace Routing.Glob

inductive Token where
  | literal (c : Char)
  | any
  | star
  /-- One character that lies in one of the ranges, or, if `negated`, in none. -/
  | oneOf (negated : Bool) (ranges : List (Char × Char))
  deriving DecidableEq

/-- The inside of the brackets that a text opens with, the opening bracket gone.  A closing bracket
that comes first, or first after an exclamation mark, does not close. -/
def inside? (s : Text) : Option Text :=
  let start :=
    match s with
    | '!' :: ']' :: _ => 2
    | '!' :: _ => 1
    | ']' :: _ => 1
    | _ => 0
  if ']' ∈ s.drop start then some (s.take start ++ (s.drop start).takeWhile (· != ']')) else none

/-- Cuts at the first hyphen that has at least `skip` characters before it, and from then on at each
that has two since the last cut. -/
def cutRanges : (skip : Nat) → (piece : Text) → Text → List Text
  | _, piece, [] => [piece]
  | skip, piece, c :: cs =>
    if skip = 0 ∧ c = '-' then piece :: cutRanges 2 [] cs
    else cutRanges (skip - 1) (piece ++ [c]) cs

/-- A hyphen with nothing after it belongs to the piece before it. -/
def mendLast : List Text → List Text
  | [] => []
  | [piece, []] => [piece ++ ['-']]
  | piece :: pieces => piece :: mendLast pieces

/-- Puts a piece in front of others.  If the ends that meet make a range in the wrong order, they go
and the two pieces become one. -/
def consPiece (piece : Text) : List Text → List Text
  | [] => [piece]
  | next :: rest =>
    match piece.getLast?, next with
    | some low, high :: more =>
      if high < low then (piece.dropLast ++ more) :: rest else piece :: next :: rest
    | _, _ => piece :: next :: rest

/-- The pieces of the inside of brackets.  Where two pieces meet, their ends are the ends of a
range. -/
def pieces (inside : Text) : List Text :=
  if '-' ∈ inside then
    let skip := if inside.head? = some '!' then 2 else 1
    (mendLast (cutRanges skip [] inside)).foldr consPiece []
  else [inside]

/-- Characters, each as a range of its own. -/
def singles (s : Text) : List (Char × Char) := s.map fun c => (c, c)

/-- The ranges of a piece and those after it.  A hyphen with no piece before it stands for itself.
-/
def rangesFrom (piece : Text) : List Text → List (Char × Char)
  | [] => singles piece
  | next :: rest =>
    match piece.getLast?, next with
    | some low, high :: more => singles piece.dropLast ++ (low, high) :: rangesFrom more rest
    | some _, [] => singles (piece ++ ['-']) ++ rangesFrom [] rest
    | none, _ => rangesFrom ('-' :: next) rest

/-- What the inside of brackets stands for. -/
def classOf (inside : Text) : Token :=
  match pieces inside with
  | [] => .oneOf false []
  | [['!']] => .any
  | ('!' :: piece) :: rest => .oneOf true (rangesFrom piece rest)
  | piece :: rest => .oneOf false (rangesFrom piece rest)

/-- The tokens of a glob from a place where the next `skip` characters belong to brackets already
read. -/
def tokensFrom : (skip : Nat) → Text → List Token
  | _, [] => []
  | skip + 1, _ :: cs => tokensFrom skip cs
  | 0, c :: cs =>
    if c = '*' then .star :: tokensFrom 0 cs
    else if c = '?' then .any :: tokensFrom 0 cs
    else if c = '[' then
      match inside? cs with
      | some inside => classOf inside :: tokensFrom (inside.length + 1) cs
      | none => .literal c :: tokensFrom 0 cs
    else .literal c :: tokensFrom 0 cs

/-- The tokens of a glob. -/
def tokens (s : Text) : List Token := tokensFrom 0 s

/-- Whether a token that stands for one character stands for this one. -/
def Token.accepts (c : Char) : Token → Bool
  | .literal d => c == d
  | .any => true
  | .star => false
  | .oneOf negated ranges => ranges.any (fun r => decide (r.1 ≤ c ∧ c ≤ r.2)) != negated

/-- The ends of a text, from all of it down to nothing. -/
def suffixes : Text → List Text
  | [] => [[]]
  | c :: cs => (c :: cs) :: suffixes cs

/-- Whether tokens match the whole of a text. -/
def run : List Token → Text → Bool
  | [], s => s.isEmpty
  | .star :: ts, s => (suffixes s).any (run ts)
  | _ :: _, [] => false
  | t :: ts, c :: cs => t.accepts c && run ts cs

/-- What is left of a text after a token that stands for one character. -/
def rest? (t : Token) : Text → Option Text
  | [] => none
  | c :: cs => if t.accepts c then some cs else none

/-- What can be left of a text after more tokens, from what can be left of it before them; the
longest comes first, and all others are ends of it. -/
def remainders : List Token → List Text → List Text
  | [], ends => ends
  | .star :: ts, ends => remainders ts ((ends.head?.map suffixes).getD [])
  | t :: ts, ends => remainders ts (ends.filterMap (rest? t))

/-- Whether tokens match the whole of a text. -/
def matchesAll (ts : List Token) (s : Text) : Bool := (remainders ts [s]).any List.isEmpty

/-- Whether a glob matches the whole of a text. -/
def isMatch (glob s : Text) : Bool := matchesAll (tokens glob) s

theorem mem_suffixes {s u : Text} : u ∈ suffixes s ↔ ∃ before, s = before ++ u := by
  induction s with
  | nil => simp [suffixes]
  | cons c cs ih =>
    simp only [suffixes, List.mem_cons, ih]
    constructor
    · rintro (rfl | ⟨before, rfl⟩)
      · exact ⟨[], rfl⟩
      · exact ⟨c :: before, rfl⟩
    · rintro ⟨before, h⟩
      cases before with
      | nil => exact Or.inl h.symm
      | cons d ds => exact Or.inr ⟨ds, (List.cons.inj h).2⟩

theorem run_star_append {ts : List Token} {u : Text} (h : run ts u = true) (before : Text) :
    run (.star :: ts) (before ++ u) = true :=
  List.any_eq_true.2 ⟨u, mem_suffixes.2 ⟨before, rfl⟩, h⟩

theorem run_literals (s u : Text) : run (s.map Token.literal) u = true ↔ u = s := by
  induction s generalizing u with
  | nil => simp [run]
  | cons c cs ih =>
    cases u with
    | nil => simp [run]
    | cons d ds => simp [run, Token.accepts, ih]

theorem suffix_of_mem_suffixes {s u : Text} (h : u ∈ suffixes s) : u <:+ s := by
  obtain ⟨before, hb⟩ := mem_suffixes.1 h
  exact ⟨before, hb.symm⟩

theorem pairwise_suffixes (s : Text) : (suffixes s).Pairwise fun u v => v <:+ u := by
  induction s with
  | nil => simp [suffixes]
  | cons c cs ih =>
    refine List.pairwise_cons.2 ⟨fun v hv => ?_, ih⟩
    exact (suffix_of_mem_suffixes hv).trans (List.suffix_cons c cs)

theorem pairwise_rest {t : Token} {ends : List Text} (h : ends.Pairwise fun u v => v <:+ u) :
    (ends.filterMap (rest? t)).Pairwise fun u v => v <:+ u := by
  refine List.Pairwise.filterMap (R := fun u v => v <:+ u) _ (fun u v huv u' hu v' hv => ?_) h
  cases u with
  | nil => simp [rest?] at hu
  | cons c cs =>
    cases v with
    | nil => simp [rest?] at hv
    | cons d ds =>
      simp only [rest?, Option.ite_none_right_eq_some, Option.some.injEq] at hu hv
      obtain ⟨_, rfl⟩ := hu
      obtain ⟨_, rfl⟩ := hv
      rcases List.suffix_cons_iff.1 huv with he | hs
      · exact (List.cons.inj he).2 ▸ List.suffix_refl _
      · exact (List.suffix_cons d ds).trans hs

theorem run_cons_eq {t : Token} (ht : t ≠ .star) (ts : List Token) (s : Text) :
    run (t :: ts) s = ((rest? t s).map (run ts)).getD false := by
  cases s with
  | nil => cases t <;> simp_all [run, rest?]
  | cons c cs => cases t <;> simp_all [run, rest?] <;> split <;> simp_all

theorem any_remainders {ts : List Token} {ends : List Text}
    (h : ends.Pairwise fun u v => v <:+ u) :
    (remainders ts ends).any List.isEmpty = ends.any (run ts) := by
  induction ts generalizing ends with
  | nil => simp only [remainders]; congr
  | cons t ts ih =>
    by_cases ht : t = .star
    · subst ht
      cases ends with
      | nil => simp [remainders, ih]
      | cons s others =>
        rw [List.pairwise_cons] at h
        simp only [remainders, List.head?_cons, Option.map_some, Option.getD_some,
          ih (pairwise_suffixes s)]
        rw [Bool.eq_iff_iff]
        simp only [List.any_eq_true, List.mem_cons, run]
        constructor
        · rintro ⟨u, hu, hr⟩
          exact ⟨s, .inl rfl, u, hu, hr⟩
        · rintro ⟨v, hv, u, hu, hr⟩
          refine ⟨u, mem_suffixes.2 ?_, hr⟩
          have hvs : v <:+ s := by
            rcases hv with rfl | hv
            · exact List.suffix_refl _
            · exact h.1 v hv
          obtain ⟨before, hb⟩ := (suffix_of_mem_suffixes hu).trans hvs
          exact ⟨before, hb.symm⟩
    · rw [remainders.eq_3 _ _ _ ht, ih (pairwise_rest h), List.any_filterMap]
      congr
      funext s
      rw [run_cons_eq ht]
      cases rest? t s <;> rfl

/-- Going through the tokens once finds what trying every length finds. -/
theorem matchesAll_eq_run (ts : List Token) (s : Text) : matchesAll ts s = run ts s := by
  rw [matchesAll, any_remainders (List.pairwise_singleton ..)]
  simp

/-- A glob matches exactly the texts that its tokens run through. -/
theorem isMatch_eq_run (glob s : Text) : isMatch glob s = run (tokens glob) s :=
  matchesAll_eq_run _ _

example :
    isMatch "[!a-c]x" "dx" = true ∧ isMatch "[!a-c]x" "bx" = false ∧ isMatch "[z-a]" "z" = false ∧
      isMatch "[!" "[!" = true := by decide

end Routing.Glob
