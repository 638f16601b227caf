import Agenda.Number.Decimal

/-!
# Written numbers

The parts of a number as it is written: sign, digits, digits after the point, exponent. `Numeral.read` takes one
off the front of a text by the grammar of JSON, where a point and an exponent mark need digits after them and a
leading zero stands alone.
-/

namespace Agenda.Number

/-- A written number. No exponent and no digits after the point make it an integer. -/
structure Numeral where
  negative : Bool := false
  whole : List Char
  fraction : List Char := []
  /-- The exponent, with the mark, sign and digits that it is written with. -/
  exponent : Option (List Char × Int) := none
deriving DecidableEq

namespace Numeral

/-- The digits without the point, as one number. -/
def significand (n : Numeral) : Nat :=
  ofDigits (n.whole ++ n.fraction)

/-- The power of ten that the significand is multiplied by. -/
def scale (n : Numeral) : Int :=
  (match n.exponent with
    | some (_, e) => e
    | none => 0) - n.fraction.length

/-- The integer that a number without point and exponent names; zero with a minus sign is none. -/
def toInt? (n : Numeral) : Option Int :=
  if n.fraction ≠ [] || n.exponent.isSome then none
  else
    let value : Int := ofDigits n.whole
    if n.negative then if value = 0 then none else some (-value) else some value

/-- The number as it was written. -/
def chars (n : Numeral) : List Char :=
  (if n.negative then ['-'] else []) ++ n.whole ++ (if n.fraction = [] then [] else '.' :: n.fraction) ++
    (match n.exponent with
      | some (written, _) => written
      | none => [])

/-- The number of an integer. -/
def ofInt (i : Int) : Numeral :=
  { negative := i < 0, whole := natText i.natAbs }

/-- Digits at the front of a text, at least one. -/
def takeDigits (cs : List Char) : Option (List Char × List Char) :=
  let ds := cs.takeWhile Char.isDigit
  if ds = [] then none else some (ds, cs.dropWhile Char.isDigit)

/-- Digits at the front of a text; a zero stands alone. -/
def readWhole : List Char → Option (List Char × List Char)
  | '0' :: cs => some (['0'], cs)
  | cs => takeDigits cs

/-- A point and digits, if a point follows. -/
def readFraction : List Char → Option (List Char × List Char)
  | '.' :: cs => takeDigits cs
  | cs => some ([], cs)

/-- The sign and digits of an exponent, read after its mark. -/
def readExponentDigits (mark : Char) : List Char → Option (Option (List Char × Int) × List Char)
  | '+' :: cs => (takeDigits cs).map fun (ds, cs) => (some (mark :: '+' :: ds, ofDigits ds), cs)
  | '-' :: cs => (takeDigits cs).map fun (ds, cs) => (some (mark :: '-' :: ds, -(ofDigits ds : Int)), cs)
  | cs => (takeDigits cs).map fun (ds, cs) => (some (mark :: ds, ofDigits ds), cs)

/-- An exponent, if its mark follows. -/
def readExponent : List Char → Option (Option (List Char × Int) × List Char)
  | 'e' :: cs => readExponentDigits 'e' cs
  | 'E' :: cs => readExponentDigits 'E' cs
  | cs => some (none, cs)

/-- A number without sign at the front of a text. -/
def readUnsigned (negative : Bool) (cs : List Char) : Option (Numeral × List Char) :=
  match readWhole cs with
  | none => none
  | some (whole, cs) =>
    match readFraction cs with
    | none => none
    | some (fraction, cs) =>
      match readExponent cs with
      | none => none
      | some (exponent, cs) => some ({ negative, whole, fraction, exponent }, cs)

/-- A number at the front of a text. -/
def read : List Char → Option (Numeral × List Char)
  | '-' :: cs => readUnsigned true cs
  | cs => readUnsigned false cs

end Numeral

end Agenda.Number
