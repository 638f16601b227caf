import Agenda.Json.Float
import Agenda.Number.Based

/-!
# The tokens of JSON

A JSON text is cut into punctuation, names, numbers and strings. A string may hold an escape for half of a
surrogate pair; it is then well formed but names no text, and stands as `none`.
-/

namespace Agenda.Json

/-- One token. -/
inductive Token where
  | openBrace
  | closeBrace
  | openBracket
  | closeBracket
  | comma
  | colon
  | null
  | bool (b : Bool)
  | number (n : Number.Numeral)
  | string (s : Option String)
deriving DecidableEq

namespace Token

/-- The blanks between tokens. -/
def isSpace (c : Char) : Bool :=
  c = ' ' || c = '\n' || c = '\t' || c = '\r'

/-- The number that four hexadecimal digits name. -/
def hexUnit? (a b c d : Char) : Option Nat :=
  match Number.hexValue? a, Number.hexValue? b, Number.hexValue? c, Number.hexValue? d with
  | some a, some b, some c, some d => some (((a * 16 + b) * 16 + c) * 16 + d)
  | _, _, _, _ => none

/-- The first half of a surrogate pair. -/
def isLeading (n : Nat) : Bool := 0xD800 ≤ n && n ≤ 0xDBFF

/-- The second half of a surrogate pair. -/
def isTrailing (n : Nat) : Bool := 0xDC00 ≤ n && n ≤ 0xDFFF

/-- The character that a surrogate pair names. -/
def paired (leading trailing : Nat) : Char :=
  Char.ofNat (0x10000 + (leading - 0xD800) * 0x400 + (trailing - 0xDC00))

/-- The character behind a backslash, other than a numbered one. -/
def escapedChar? (c : Char) : Option Char :=
  if c = '"' then some '"'
  else if c = '\\' then some '\\'
  else if c = '/' then some '/'
  else if c = 'b' then some '\x08'
  else if c = 'f' then some '\x0c'
  else if c = 'n' then some '\n'
  else if c = 'r' then some '\r'
  else if c = 't' then some '\t'
  else none

/-- One part of a string as it is written: a character, or a numbered escape. -/
inductive Piece where
  | char (c : Char)
  | numbered (n : Nat)
deriving DecidableEq

/-- Reads the parts of a string after its opening quote; `acc` holds the parts so far, the last one first. -/
def readPieces (acc : List Piece) : List Char → Option (List Piece × List Char)
  | [] => none
  | '"' :: cs => some (acc.reverse, cs)
  | '\\' :: 'u' :: a :: b :: c :: d :: cs =>
    match hexUnit? a b c d with
    | none => none
    | some n => readPieces (.numbered n :: acc) cs
  | '\\' :: c :: cs =>
    match escapedChar? c with
    | none => none
    | some e => readPieces (.char e :: acc) cs
  | c :: cs => if c = '\\' || c.toNat < 0x20 then none else readPieces (.char c :: acc) cs

/-- The characters that the parts name; two halves of a surrogate pair name one, and half a pair none. `acc` holds
the characters so far, the last one first. -/
def joinPieces (acc : List Char) : List Piece → Option (List Char)
  | [] => some acc.reverse
  | .char c :: ps => joinPieces (c :: acc) ps
  | .numbered n :: ps =>
    if isLeading n then
      match ps with
      | .numbered m :: ps => if isTrailing m then joinPieces (paired n m :: acc) ps else none
      | _ => none
    else if isTrailing n then none
    else joinPieces (Char.ofNat n :: acc) ps

/-- Reads a string after its opening quote. -/
def readString (cs : List Char) : Option (Option String × List Char) :=
  (readPieces [] cs).map fun (ps, cs) => ((joinPieces [] ps).map String.ofList, cs)

/-- The rest of a text behind a name. -/
def afterName (name : List Char) (cs : List Char) : Option (List Char) :=
  if name.isPrefixOf cs then some (cs.drop name.length) else none

/-- The token at the front of a text without blanks before it. -/
def read : List Char → Option (Token × List Char)
  | [] => none
  | c :: cs =>
    match c with
    | '\x7b' => some (openBrace, cs)
    | '\x7d' => some (closeBrace, cs)
    | '[' => some (openBracket, cs)
    | ']' => some (closeBracket, cs)
    | ',' => some (comma, cs)
    | ':' => some (colon, cs)
    | 'n' => (afterName ['u', 'l', 'l'] cs).map fun cs => (null, cs)
    | 't' => (afterName ['r', 'u', 'e'] cs).map fun cs => (bool true, cs)
    | 'f' => (afterName ['a', 'l', 's', 'e'] cs).map fun cs => (bool false, cs)
    | '"' => (readString cs).map fun (s, cs) => (string s, cs)
    | _ => (Number.Numeral.read (c :: cs)).map fun (n, cs) => (number n, cs)

/-- Cuts a text into at most so many tokens; `acc` holds the tokens so far, the last one first. -/
def readAll (acc : List Token) : Nat → List Char → Option (List Token)
  | 0, cs => if cs.all isSpace then some acc.reverse else none
  | n + 1, cs =>
    match cs.dropWhile isSpace with
    | [] => some acc.reverse
    | cs =>
      match read cs with
      | none => none
      | some (t, cs) => readAll (t :: acc) n cs

/-- The tokens of a text: no more than it has characters. -/
def ofChars (cs : List Char) : Option (List Token) :=
  readAll [] cs.length cs

/-! ### What strict readers ask for -/

/-- The token names a value: a string is a text, and a number is not too large. -/
def namesValue : Token → Bool
  | string s => s.isSome
  | number n => (floatOf n).isFinite
  | _ => true

/-- The number of arrays and objects that are open after a token, and the greatest number so far. -/
def nestingStep (open_ : Nat × Nat) : Token → Nat × Nat
  | openBrace | openBracket => (open_.1 + 1, max open_.2 (open_.1 + 1))
  | closeBrace | closeBracket => (open_.1 - 1, open_.2)
  | _ => open_

/-- How deep arrays and objects are nested. -/
def nesting (tokens : List Token) : Nat :=
  (tokens.foldl nestingStep (0, 0)).2

end Token

end Agenda.Json
