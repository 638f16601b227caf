import Agenda.Number.Binary64

/-!
# Floats in texts

An optional sign, and then digits with an optional point among, before or behind them and an optional exponent; or
the words `inf`, `infinity` and `nan`, in any case.
-/

namespace Agenda.Number

/-- The exponent at the end of a number. -/
def readTrailingExponent : List Char → Option Int
  | [] => some 0
  | c :: cs =>
    if c = 'e' || c = 'E' then
      match cs with
      | '-' :: ds => (readDigits ds).map fun n => -(n : Int)
      | '+' :: ds => (readDigits ds).map fun n => (n : Int)
      | ds => (readDigits ds).map fun n => (n : Int)
    else none

/-- Digits with a point, and an exponent. -/
def readMagnitude (negative : Bool) (cs : List Char) : Option Binary64 :=
  let whole := cs.takeWhile Char.isDigit
  let rest := cs.dropWhile Char.isDigit
  let (fraction, rest) :=
    match rest with
    | '.' :: rest => (rest.takeWhile Char.isDigit, rest.dropWhile Char.isDigit)
    | rest => ([], rest)
  if whole ++ fraction = [] then none
  else
    (readTrailingExponent rest).map fun e =>
      Binary64.ofScientific negative (ofDigits (whole ++ fraction)) (e - fraction.length)

/-- A number without its sign. -/
def readUnsignedFloat (negative : Bool) (cs : List Char) : Option Binary64 :=
  let lower := String.ofList (cs.map Char.toLower)
  if lower = "inf" || lower = "infinity" then some (.infinite negative)
  else if lower = "nan" then some .nan
  else readMagnitude negative cs

/-- The float that a text names. -/
def readFloat : List Char → Option Binary64
  | '-' :: cs => readUnsignedFloat true cs
  | '+' :: cs => readUnsignedFloat false cs
  | cs => readUnsignedFloat false cs

end Agenda.Number
