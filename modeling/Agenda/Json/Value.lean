import Agenda.Json.Token

/-!
# JSON values

`Value.parse` builds a value from tokens, with the open arrays and objects on a stack; `Value.render` writes a
value without blanks. An object keeps its members in order, repeated names included.
-/

namespace Agenda.Json

/-- A JSON value. A string or a name that names no text is `none`. -/
inductive Value where
  | null
  | bool (b : Bool)
  | number (n : Number.Numeral)
  | string (s : Option String)
  | array (items : List Value)
  | object (members : List (Option String × Value))

namespace Value

/-- The value of a text. -/
def ofString (s : String) : Value := string (some s)

/-- The value of an integer. -/
def ofInt (i : Int) : Value := number (Number.Numeral.ofInt i)

/-- The object with these members. -/
def ofMembers (members : List (String × Value)) : Value :=
  object (members.map fun (name, value) => (some name, value))

/-! ### Reading -/

/-- An array or object that is still open, with what was read of it, the last first. -/
inductive Frame where
  | array (items : List Value)
  | object (members : List (Option String × Value)) (name : Option String)

/-- What the text has to go on with. -/
inductive Expecting where
  /-- A value. -/
  | value
  /-- The first item of an array, or its end. -/
  | firstItem
  /-- The first name of an object, or its end. -/
  | firstName (members : List (Option String × Value))
  /-- A further name of an object. -/
  | name (members : List (Option String × Value))
  /-- The colon behind a name. -/
  | colon (members : List (Option String × Value)) (name : Option String)
  /-- What follows a value: a comma, an end, or nothing. -/
  | after (value : Value)

/-- The token is a value by itself. -/
def ofToken? : Token → Option Value
  | .null => some .null
  | .bool b => some (.bool b)
  | .number n => some (.number n)
  | .string s => some (.string s)
  | _ => none

/-- One token at a place where a value is expected. -/
def startValue (stack : List Frame) : Token → Option (Expecting × List Frame)
  | .openBracket => some (.firstItem, .array [] :: stack)
  | .openBrace => some (.firstName [], stack)
  | t => (ofToken? t).map fun v => (.after v, stack)

/-- One token more. -/
def step : Expecting × List Frame → Token → Option (Expecting × List Frame)
  | (.value, stack), t => startValue stack t
  | (.firstItem, .array _ :: stack), .closeBracket => some (.after (.array []), stack)
  | (.firstItem, stack), t => startValue stack t
  | (.firstName members, stack), .closeBrace => some (.after (.object members.reverse), stack)
  | (.firstName members, stack), .string s => some (.colon members s, stack)
  | (.name members, stack), .string s => some (.colon members s, stack)
  | (.colon members name, stack), .colon => some (.value, .object members name :: stack)
  | (.after v, .array items :: stack), .comma => some (.value, .array (v :: items) :: stack)
  | (.after v, .array items :: stack), .closeBracket => some (.after (.array (v :: items).reverse), stack)
  | (.after v, .object members name :: stack), .comma => some (.name ((name, v) :: members), stack)
  | (.after v, .object members name :: stack), .closeBrace =>
    some (.after (.object ((name, v) :: members).reverse), stack)
  | _, _ => none

/-- The value that the tokens make up. -/
def ofTokens (tokens : List Token) : Option Value :=
  match tokens.foldlM step (.value, []) with
  | some (.after v, []) => some v
  | _ => none

/-- The value that a text names: one value, with blanks around the tokens and nothing else. -/
def parse (cs : List Char) : Option Value :=
  (Token.ofChars cs).bind ofTokens

/-! ### Writing -/

/-- How a character stands in a string. -/
def stringChar (c : Char) : List Char :=
  if c = '"' then ['\\', '"']
  else if c = '\\' then ['\\', '\\']
  else if c = '\x08' then ['\\', 'b']
  else if c = '\x0c' then ['\\', 'f']
  else if c = '\n' then ['\\', 'n']
  else if c = '\r' then ['\\', 'r']
  else if c = '\t' then ['\\', 't']
  else if c.toNat < 0x20 then
    ['\\', 'u', '0', '0', Nat.digitChar (c.toNat / 16), Nat.digitChar (c.toNat % 16)]
  else [c]

/-- A string with its quotes; one that names no text is half a surrogate pair. -/
def renderString : Option String → List Char
  | some s => '"' :: s.toList.flatMap stringChar ++ ['"']
  | none => ['"', '\\', 'u', 'd', '8', '0', '0', '"']

mutual

/-- The value as a text without blanks. -/
def render : Value → List Char
  | null => ['n', 'u', 'l', 'l']
  | bool true => ['t', 'r', 'u', 'e']
  | bool false => ['f', 'a', 'l', 's', 'e']
  | number n => n.chars
  | string s => renderString s
  | array items => '[' :: renderItems items ++ [']']
  | object members => '\x7b' :: renderMembers members ++ ['\x7d']

/-- Items with commas between them. -/
def renderItems : List Value → List Char
  | [] => []
  | [v] => render v
  | v :: vs => render v ++ ',' :: renderItems vs

/-- Members with commas between them. -/
def renderMembers : List (Option String × Value) → List Char
  | [] => []
  | [(name, v)] => renderString name ++ ':' :: render v
  | (name, v) :: ms => renderString name ++ ':' :: (render v ++ ',' :: renderMembers ms)

end

/-- The value as a text without blanks. -/
def text (v : Value) : String :=
  String.ofList v.render

end Value

end Agenda.Json
