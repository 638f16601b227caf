/-!
# Decimal numbers in texts

Reading of digit sequences and of signed and unsigned integers with a range, and writing with a least width.
Only the ten ASCII digits count.
-/

namespace Agenda.Number

/-- The number that a sequence of digits names. -/
def ofDigits (ds : List Char) : Nat :=
  Nat.ofDigitChars 10 ds 0

/-- A number in decimal digits, with leading zeros up to the width. -/
def padded (width n : Nat) : List Char :=
  let ds := Nat.toDigits 10 n
  List.replicate (width - ds.length) '0' ++ ds

/-- A number in decimal digits. -/
def natText (n : Nat) : List Char :=
  Nat.toDigits 10 n

/-- An integer in decimal digits, with a minus sign below zero. -/
def intText (i : Int) : List Char :=
  if i < 0 then '-' :: natText i.natAbs else natText i.natAbs

/-- A nonempty sequence of digits, read as a number. -/
def readDigits (ds : List Char) : Option Nat :=
  if ds ≠ [] && ds.all Char.isDigit then some (ofDigits ds) else none

/-- An optional plus sign and digits. -/
def readNat : List Char → Option Nat
  | '+' :: ds => readDigits ds
  | ds => readDigits ds

/-- An optional sign and digits. -/
def readInt : List Char → Option Int
  | '-' :: ds => (readDigits ds).map fun n => -(n : Int)
  | '+' :: ds => (readDigits ds).map fun n => (n : Int)
  | ds => (readDigits ds).map fun n => (n : Int)

/-- How many words of 64 bits there are. -/
def wordCount : Nat := 18446744073709551616

/-- The integers of a signed word of 64 bits. -/
def fitsWord (i : Int) : Bool :=
  -9223372036854775808 ≤ i && i < 9223372036854775808

/-- An optional sign and digits that name an integer of a signed word of 64 bits. -/
def readWord (cs : List Char) : Option Int :=
  (readInt cs).filter fitsWord

end Agenda.Number
