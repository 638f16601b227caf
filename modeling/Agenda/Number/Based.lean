/-!
# Numbers in other bases

Digits up to fifteen are the decimal digits and the letters from `a` to `f` in either case.
-/

namespace Agenda.Number

/-- The value of a hexadecimal digit. -/
def hexValue? (c : Char) : Option Nat :=
  if c.isDigit then some (c.toNat - 48)
  else if 'a' ≤ c && c ≤ 'f' then some (c.toNat - 87)
  else if 'A' ≤ c && c ≤ 'F' then some (c.toNat - 55)
  else none

/-- The value of a digit in a base up to sixteen. -/
def digitValue? (base : Nat) (c : Char) : Option Nat :=
  (hexValue? c).filter (· < base)

/-- The number that a nonempty sequence of digits names. -/
def readBased (base : Nat) (ds : List Char) : Option Nat :=
  if ds = [] then none else (ds.mapM (digitValue? base)).map (·.foldl (fun n d => n * base + d) 0)

end Agenda.Number
