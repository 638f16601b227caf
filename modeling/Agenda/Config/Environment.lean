import Agenda.Config.Value
import Agenda.Number.Float

/-!
# The environment as a layer

Variables are pairs of a name and a value. A name becomes a path: in lower case, an underscore divides its parts,
and within a part an underscore takes the place of hyphens and spaces and goes between letters and digits. A value
is read as a truth value, an integer or a float if it can be; an empty one does not count.
-/

namespace Agenda.Config.Environment

/-- A character in lower case, as far as it can become an ASCII character. -/
def lower (c : Char) : Char :=
  if c = '\u212A' then 'k' else c.toLower

/-- A word may end between the two characters: one is a letter and the other a digit. -/
def isBoundary (a b : Char) : Bool :=
  (a.isLower && b.isDigit) || (a.isDigit && b.isLower)

/-- Puts a character in front of words. -/
def consWord (c : Char) (words : List (List Char)) : List (List Char) :=
  if c = '-' || c = ' ' || c = '_' then [] :: words
  else
    match words with
    | [] => [[c]]
    | [] :: ws => [c] :: ws
    | (d :: w) :: ws => if isBoundary c d then [c] :: (d :: w) :: ws else (c :: d :: w) :: ws

/-- The words of a part, with underscores between them. -/
def part (cs : List Char) : List Char :=
  Text.join '_' ((cs.foldr consWord [[]]).filter (· ≠ []))

/-- The path that a variable's name stands for. -/
def key (name : String) : String :=
  let cs := name.toList.map fun c => if c = '_' then '.' else lower c
  String.ofList (Text.join '.' ((Text.pieces '.' cs).map part))

/-- The value that a variable's text stands for. -/
def value (s : String) : Value :=
  let low := s.map Char.toLower
  if low = "true" then .bool true
  else if low = "false" then .bool false
  else
    match Number.readWord s.toList with
    | some i => .int i
    | none =>
      match Number.readFloat s.toList with
      | some x => .float x
      | none => .text s

/-- The layer that the variables make up. -/
def entries (environment : List (String × String)) : List (String × Value) :=
  (environment.filter (·.2 ≠ "")).map fun (name, s) => (key name, value s)

end Agenda.Config.Environment
