import Agenda.Config.Value
import Agenda.Number.Based
import Agenda.Number.Float

/-!
# The scalars of YAML

What the text of a scalar stands for. A scalar in quotes is a text; one without quotes is what it looks like, or what
its tag says.
-/

namespace Agenda.Config.Yaml

/-- A scalar. A float keeps its text. -/
inductive Scalar where
  | null
  | bool (b : Bool)
  | int (i : Int)
  | float (text : String)
  | text (s : String)
deriving DecidableEq

namespace Scalar

/-- The words for infinity and for no number. -/
def isFloatWord (s : String) : Bool :=
  [".inf", ".Inf", ".INF", "+.inf", "+.Inf", "+.INF", "-.inf", "-.Inf", "-.INF", ".nan", ".NaN", ".NAN"].contains s

/-- The text names a float. A word alone does not, unless it begins with a point. -/
def isFloat (cs : List Char) : Bool :=
  isFloatWord (String.ofList cs) || (cs.any Char.isDigit && (Number.readFloat cs).isSome)

/-- A sign and digits of a base, as an integer of a signed word. -/
def basedInt? (base : Nat) : List Char → Option Int
  | '-' :: ds => ((Number.readBased base ds).map fun n => -(n : Int)).filter Number.fitsWord
  | '+' :: ds => ((Number.readBased base ds).map fun n => (n : Int)).filter Number.fitsWord
  | ds => ((Number.readBased base ds).map fun n => (n : Int)).filter Number.fitsWord

/-- The integer behind a mark: in base 16 or 8, or behind a plus sign that may stand before another sign. -/
def markedInt? : List Char → Option Int
  | '0' :: 'x' :: ds => basedInt? 16 ds
  | '0' :: 'o' :: ds => basedInt? 8 ds
  | '+' :: ds => Number.readWord ds
  | _ => none

/-- What a scalar without quotes and without a tag stands for. -/
def ofPlain (s : String) : Scalar :=
  match markedInt? s.toList with
  | some i => int i
  | none =>
    if s = "" || s = "~" || s = "null" then null
    else if s = "true" || s = "True" || s = "TRUE" then bool true
    else if s = "false" || s = "False" || s = "FALSE" then bool false
    else
      match Number.readWord s.toList with
      | some i => int i
      | none => if isFloat s.toList then float s else text s

/-- What a scalar without quotes stands for whose tag is one of the language's own; nothing if it is not of that
type. -/
def ofTyped? (type s : String) : Option Scalar :=
  if type = "bool" then
    if s = "true" then some (bool true) else if s = "false" then some (bool false) else none
  else if type = "int" then (Number.readWord s.toList).map int
  else if type = "float" then if isFloat s.toList then some (float s) else none
  else if type = "null" then if s = "~" || s = "null" then some null else none
  else some (text s)

/-- The scalar as the name of an entry; null is no name. -/
def name? : Scalar → Option String
  | null => none
  | bool b => some (if b then "true" else "false")
  | int i => some (String.ofList (Number.intText i))
  | float s | text s => some s

/-- The scalar as a value of a configuration; the words for infinity and for no number have none. -/
def value? : Scalar → Option Value
  | null => some .null
  | bool b => some (.bool b)
  | int i => some (.int i)
  | float s => (Number.readFloat s.toList).map .float
  | text s => some (.text s)

end Scalar

end Agenda.Config.Yaml
