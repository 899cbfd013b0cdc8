import Routing.Text

/-!
# Decimals with two places

Rounding a quotient to the nearest integer, and the two uses the library has for it: a whole number
of time units as a double would hold it, and a count of hundredths as text.  Main fact:
`two_mul_roundDiv_sub_le`, a rounded quotient is within half a unit of the true one.
-/

namespace Routing.Decimal

/-- The integer nearest to `n / d`; a half goes to the even neighbour. -/
def roundDiv (n : Int) (d : Nat) : Int :=
  let floor := n / d
  let twice := 2 * (n % d)
  if twice < d then floor
  else if d < twice then floor + 1
  else if floor % 2 = 0 then floor
  else floor + 1

/-- The integer nearest to `n` among those with at most `width` significant binary digits. -/
def roundBinary (width : Nat) (n : Int) : Int :=
  let step := Nat.pow 2 (n.natAbs.log2 + 1 - width)
  roundDiv n step * step

/-- A count of hundredths, written as units with two places. -/
def hundredths (n : Int) : Text :=
  let units := Text.ofNat (n.natAbs / 100)
  let rest := Text.ofNat (n.natAbs % 100)
  (if n < 0 then ['-'] else []) ++ units ++ '.' :: List.replicate (2 - rest.length) '0' ++ rest

theorem two_mul_roundDiv_sub_le (n : Int) {d : Nat} (hd : 0 < d) :
    2 * (roundDiv n d * d - n) ≤ d ∧ 2 * (n - roundDiv n d * d) ≤ d := by
  have h1 := Int.emod_nonneg n (b := (d : Int)) (by omega)
  have h2 := Int.emod_lt_of_pos n (b := (d : Int)) (by omega)
  have h3 := Int.mul_ediv_add_emod n d
  have h4 : (n / d + 1) * (d : Int) = d * (n / d) + d := by
    rw [Int.add_mul, Int.one_mul, Int.mul_comm]
  have h5 : n / d * (d : Int) = d * (n / d) := Int.mul_comm ..
  unfold roundDiv
  dsimp only
  split
  · rw [h5]; omega
  · split
    · rw [h4]; omega
    · split
      · rw [h5]; omega
      · rw [h4]; omega

example : hundredths (-684) = "-6.84" := by decide

end Routing.Decimal
