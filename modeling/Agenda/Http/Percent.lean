import Agenda.Number.Based
import Agenda.Text.Split
import Agenda.Text.Utf8

/-!
# Percent-encoded texts

A percent sign and two hexadecimal digits name a byte; a percent sign without them stands for itself. In the
pairs of a query a plus sign is a space.
-/

namespace Agenda.Http

/-- The bytes that percent-encoded bytes name; `acc` holds the bytes so far, the last one first. -/
def percentBytes (acc : List Nat) : List Nat → List Nat
  | [] => acc.reverse
  | 0x25 :: a :: b :: bs =>
    match Number.hexValue? (Char.ofNat a), Number.hexValue? (Char.ofNat b) with
    | some x, some y => percentBytes ((x * 16 + y) :: acc) bs
    | _, _ => percentBytes (0x25 :: acc) (a :: b :: bs)
  | a :: bs => percentBytes (a :: acc) bs

/-- The text that a percent-encoded text names. -/
def percentDecode (cs : List Char) : List Char :=
  Text.Utf8.decode (percentBytes [] (Text.Utf8.encode cs))

/-- A name or value of a query. -/
def formDecode (cs : List Char) : String :=
  String.ofList (percentDecode (cs.map fun c => if c = '+' then ' ' else c))

/-- The name and value of one piece of a query; without an equals sign the value is empty. -/
def formPair (piece : List Char) : String × String :=
  let (name, value) := Text.cutAt '=' piece
  (formDecode name, formDecode (value.getD []))

/-- The pairs of a query, in order; empty pieces are none. -/
def formPairs (query : List Char) : List (String × String) :=
  ((Text.pieces '&' query).filter (· ≠ [])).map formPair

/-! ### Writing -/

/-- The characters that a query value may hold as themselves. -/
def isUnreserved (n : Nat) : Bool :=
  (0x30 ≤ n && n ≤ 0x39) || (0x41 ≤ n && n ≤ 0x5A) || (0x61 ≤ n && n ≤ 0x7A) || n == 0x2D || n == 0x2E || n == 0x5F ||
    n == 0x7E

/-- A hexadecimal digit in upper case. -/
def upperHex (n : Nat) : Char :=
  (Nat.digitChar n).toUpper

/-- One byte of a percent-encoded text. -/
def percentEncodeByte (b : Nat) : List Char :=
  if isUnreserved b then [Char.ofNat b] else ['%', upperHex (b / 16), upperHex (b % 16)]

/-- The text with all but unreserved characters percent-encoded. -/
def percentEncode (s : String) : List Char :=
  (Text.Utf8.encode s.toList).flatMap percentEncodeByte

end Agenda.Http
