import Agenda.Number.Numeral

/-!
# Binary floating-point numbers of 64 bits

Values, not bit patterns: a finite number is a sign, a mantissa below 2⁵³ and a power of two from -1074 to 971.
Rounding goes to the nearest value and from the middle to the even mantissa; the shortest text of a number is the
one with the fewest digits that rounds back to it.
-/

namespace Agenda.Number

/-- A value of the format. -/
inductive Binary64 where
  /-- The mantissa times a power of two; a mantissa below 2⁵² goes with the least power. -/
  | finite (negative : Bool) (mantissa : Nat) (power : Int)
  | infinite (negative : Bool)
  | nan
deriving DecidableEq

namespace Binary64

/-- The least power of two of a finite value. -/
def leastPower : Int := -1074

/-- The greatest power of two of a finite value. -/
def greatestPower : Int := 971

/-- Zero with a sign. -/
def zero (negative : Bool) : Binary64 :=
  finite negative 0 leastPower

/-- The quotient rounded to the nearest integer, from the middle to the even one. -/
def roundedQuotient (a b : Nat) : Nat :=
  let q := a / b
  let r := 2 * (a % b)
  if b < r || (r == b && q % 2 == 1) then q + 1 else q

/-- A fraction times a power of two, as numerator and denominator. -/
def timesPower (a b : Nat) (p : Int) : Nat × Nat :=
  if 0 ≤ p then (a * Nat.pow 2 p.toNat, b) else (a, b * Nat.pow 2 (-p).toNat)

/-- The power of two that makes the integer part of a fraction 53 bits long, or the least power. -/
def powerFor (a b : Nat) : Int :=
  let guess : Int := (a.log2 : Int) - b.log2 - 52
  let (x, y) := timesPower a b (-guess)
  max leastPower (if x / y < Nat.pow 2 52 then guess - 1 else guess)

/-- The value nearest to a fraction. -/
def ofFraction (negative : Bool) (a b : Nat) : Binary64 :=
  if a = 0 then zero negative
  else
    let p := powerFor a b
    let (x, y) := timesPower a b (-p)
    let m := roundedQuotient x y
    let (m, p) := if m = Nat.pow 2 53 then (Nat.pow 2 52, p + 1) else (m, p)
    if greatestPower < p then infinite negative else finite negative m p

/-- The value nearest to a number times a power of ten. Eight is a lower bound for ten: what is out of range by
powers of eight needs no computing. -/
def ofScientific (negative : Bool) (n : Nat) (exponent : Int) : Binary64 :=
  if n = 0 then zero negative
  else if 0 ≤ exponent then
    if 1024 < (n.log2 : Int) + 3 * exponent then infinite negative
    else ofFraction negative (n * Nat.pow 10 exponent.toNat) 1
  else if (n.log2 : Int) + 1 + 3 * exponent < -1080 then zero negative
  else ofFraction negative n (Nat.pow 10 (-exponent).toNat)

/-- The value nearest to an integer. -/
def ofInt (i : Int) : Binary64 :=
  ofFraction (i < 0) i.natAbs 1

/-- A value that is neither infinite nor no number. -/
def isFinite : Binary64 → Bool
  | finite .. => true
  | _ => false

/-- Zero of either sign. -/
def isZero : Binary64 → Bool
  | finite _ m _ => m == 0
  | _ => false

/-- The product of two values, rounded. -/
def times : Binary64 → Binary64 → Binary64
  | finite s m p, finite t n q =>
    let (a, b) := timesPower (m * n) 1 (p + q)
    ofFraction (s != t) a b
  | finite s m _, infinite t | infinite t, finite s m _ => if m = 0 then nan else infinite (s != t)
  | infinite s, infinite t => infinite (s != t)
  | _, _ => nan

/-- The quotient of two values, rounded. -/
def dividedBy : Binary64 → Binary64 → Binary64
  | finite s m p, finite t n q =>
    if n = 0 then (if m = 0 then nan else infinite (s != t))
    else
      let (a, b) := timesPower m n (p - q)
      ofFraction (s != t) a b
  | finite s _ _, infinite t => zero (s != t)
  | infinite s, finite t _ _ => infinite (s != t)
  | _, _ => nan

/-! ### The shortest text -/

/-- The fractions between which every number rounds to a mantissa times a power of two, over a common
denominator: the lower end, the value, the upper end, the denominator. -/
def roundingRange (m : Nat) (p : Int) : Nat × Nat × Nat × Nat :=
  let below := if m = Nat.pow 2 52 && leastPower < p then 1 else 2
  let (unit, den) := timesPower 1 4 p
  ((4 * m - below) * unit, 4 * m * unit, (4 * m + 2) * unit, den)

/-- The multiple of a power of ten, over a denominator, that lies in the range and is nearest to the value; of two
as near the greater. -/
def nearestInRange (range : Nat × Nat × Nat × Nat) (closed : Bool) (exponent : Int) : Option Nat :=
  let (low, value, high, den) := range
  let up := if exponent < 0 then Nat.pow 10 (-exponent).toNat else 1
  let unit := if exponent < 0 then den else den * Nat.pow 10 exponent.toNat
  let inside (d : Nat) : Bool :=
    let x := d * unit
    if closed then low * up ≤ x && x ≤ high * up else low * up < x && x < high * up
  let d := value * up / unit
  let rest := value * up % unit
  match inside d && 0 < d, inside (d + 1) with
  | true, true => some (if unit ≤ 2 * rest then d + 1 else d)
  | true, false => some d
  | false, true => some (d + 1)
  | false, false => none

/-- The greatest power of ten that is not above a positive fraction, searched downwards. -/
def decimalExponent (a b : Nat) : Nat → Int → Int
  | 0, e => e
  | n + 1, e =>
    let fits := if 0 ≤ e then b * Nat.pow 10 e.toNat ≤ a else b ≤ a * Nat.pow 10 (-e).toNat
    if fits then e else decimalExponent a b n (e - 1)

/-- The first exponent, counted down, at which some multiple of the power of ten lies in the range. -/
def shortestFrom (range : Nat × Nat × Nat × Nat) (closed : Bool) : Nat → Int → Nat × Int
  | 0, e => (0, e)
  | n + 1, e =>
    match nearestInRange range closed e with
    | some d => (d, e)
    | none => shortestFrom range closed n (e - 1)

/-- The fewest decimal digits, and their power of ten, that round to a mantissa times a power of two. -/
def shortest (m : Nat) (p : Int) : Nat × Int :=
  let range := roundingRange m p
  let guess : Int := ((m.log2 : Int) + p) * 30103 / 100000 + 1
  let top := decimalExponent range.2.1 range.2.2.2 4 guess
  shortestFrom range (m % 2 == 0) 20 (top + 1)

/-- Digits times a power of ten, written without exponent. -/
def positional (d : Nat) (e : Int) : List Char :=
  let ds := natText d
  if 0 ≤ e then ds ++ List.replicate e.toNat '0'
  else
    let places := (-e).toNat
    let ds := List.replicate (places + 1 - ds.length) '0' ++ ds
    ds.take (ds.length - places) ++ '.' :: ds.drop (ds.length - places)

/-- The shortest text that rounds back to the value, without exponent and without a point behind an integer. -/
def text : Binary64 → List Char
  | finite negative m p =>
    let sign := if negative then ['-'] else []
    if m = 0 then sign ++ ['0']
    else
      let (d, e) := shortest m p
      sign ++ positional d e
  | infinite negative => if negative then ['-', 'i', 'n', 'f'] else ['i', 'n', 'f']
  | nan => ['N', 'a', 'N']

/-- The nearest integer that is not negative, from the middle away from zero; what is below zero or no number
counts as zero, and what is above the greatest word of 64 bits as that. -/
def toWord : Binary64 → Nat
  | finite false m p =>
    let (x, y) := timesPower m 1 p
    min ((2 * x + y) / (2 * y)) (wordCount - 1)
  | infinite false => wordCount - 1
  | _ => 0

end Binary64

end Agenda.Number
