import Agenda.Number.Binary64

/-!
# Floats in JSON

A number with a point or an exponent is computed in two roundings: its digits, as far as they fit a word of 64 bits,
are rounded to a float, and that is multiplied with or divided by a power of ten, which is rounded as well.
-/

namespace Agenda.Json

open Number (Numeral Binary64)

/-- The digits that fit a word of 64 bits, as one number, and how many digits are left. -/
def fittingDigits (n : Nat) : List Char → Nat × Nat
  | [] => (n, 0)
  | d :: ds =>
    let m := n * 10 + Number.ofDigits [d]
    if m < Number.wordCount then fittingDigits m ds else (n, ds.length + 1)

/-- The greatest power of ten that a float holds. -/
def greatestTen : Nat := 308

/-- A power of ten as a float. -/
def powerOfTen (e : Nat) : Binary64 :=
  .ofScientific false 1 e

/-- The float times a power of ten. A power too small for a float is divided by in parts. -/
def timesTen (x : Binary64) (e : Int) : Binary64 :=
  if x.isZero then x
  else if 0 ≤ e then x.times (powerOfTen e.toNat)
  else if _h : -(greatestTen : Int) ≤ e then x.dividedBy (powerOfTen (-e).toNat)
  else timesTen (x.dividedBy (powerOfTen greatestTen)) (e + greatestTen)
termination_by (-e).toNat
decreasing_by
  simp only [greatestTen] at *
  omega

/-- The float that a written number names. -/
def floatOf (n : Numeral) : Binary64 :=
  let (significand, left) := fittingDigits 0 (n.whole ++ n.fraction)
  timesTen (.ofFraction n.negative significand 1) (n.scale + left)

end Agenda.Json
