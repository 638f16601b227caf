import Agenda.Number.Based

/-!
# Characters named by hexadecimal digits
-/

namespace Agenda.Text

/-- The character that so many hexadecimal digits at the front of a text name, and what follows them. -/
def readHexChar (digits : Nat) (cs : List Char) : Option (Char × List Char) :=
  let ds := cs.take digits
  if ds.length = digits then
    match Number.readBased 16 ds with
    | some n => if n.isValidChar then some (Char.ofNat n, cs.drop digits) else none
    | none => none
  else none

end Agenda.Text
