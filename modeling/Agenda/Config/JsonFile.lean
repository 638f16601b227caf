import Agenda.Config.Value
import Agenda.Json.Value

/-!
# JSON files as layers

A file holds an object. Every string has to be a text and every number in range, and the nesting is limited. Of a
repeated name the last value counts.
-/

namespace Agenda.Config.JsonFile

/-- The deepest nesting of a file. -/
def deepestNesting : Nat := 127

mutual

/-- A JSON value as a value of a configuration. -/
def value : Json.Value → Value
  | .null => .null
  | .bool b => .bool b
  | .number n =>
    match n.toInt?.filter Number.fitsWord with
    | some i => .int i
    | none => .float (Json.floatOf n)
  | .string s => .text (s.getD "")
  | .array items => .list (values items)
  | .object members => .table (entries [] members)

/-- The items of an array. -/
def values : List Json.Value → List Value
  | [] => []
  | v :: vs => value v :: values vs

/-- The members of an object, put on top of those before them. -/
def entries (before : List (String × Value)) : List (Option String × Json.Value) → List (String × Value)
  | [] => before
  | (name, v) :: ms => entries (Value.alter (name.getD "") (fun _ => value v) before) ms

end

/-- The entries of a file. -/
def parse (text : String) : Option (List (String × Value)) :=
  match Json.Token.ofChars text.toList with
  | none => none
  | some tokens =>
    if tokens.all Json.Token.namesValue && Json.Token.nesting tokens ≤ deepestNesting then
      match Json.Value.ofTokens tokens with
      | some (.object members) => some (entries [] members)
      | _ => none
    else none

end Agenda.Config.JsonFile
