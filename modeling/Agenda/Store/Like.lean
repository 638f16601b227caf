/-!
# Patterns of a search

A pattern is a sequence of tokens: any run of characters, any one character, or one character that has to be there.
Matching ignores the case of ASCII letters. Pattern and text both end at their first NUL character, and the two
noncharacters U+FFFE and U+FFFF count as the replacement character.
-/

namespace Agenda.Like

/-- One part of a pattern. -/
inductive Token where
  | anyRun
  | anyOne
  | exactly (c : Char)
deriving DecidableEq

/-- The character that takes away the special meaning of the next one. -/
abbrev escape : Char := '\\'

/-- The token of a character that has no escape before it. -/
def token (c : Char) : Token :=
  if c = '%' then .anyRun else if c = '_' then .anyOne else .exactly c

/-- Reads the tokens of a written pattern, or nothing if it ends in the middle of an escape; `acc` holds the tokens
so far, the last one first. -/
def tokensOnto (acc : List Token) : List Char → Option (List Token)
  | [] => some acc.reverse
  | ['\\'] => none
  | '\\' :: c :: rest => tokensOnto (.exactly c :: acc) rest
  | c :: rest => tokensOnto (token c :: acc) rest

/-- What two characters must share to match. -/
def key (c : Char) : Char :=
  if c = '\uFFFE' || c = '\uFFFF' then '\uFFFD' else c.toLower

/-- Some end of the text, the empty one included, is accepted. -/
def someEnd (accepts : List Char → Bool) : List Char → Bool
  | [] => accepts []
  | c :: cs => accepts (c :: cs) || someEnd accepts cs

/-- The text fits the tokens from its first to its last character. -/
def fits : List Token → List Char → Bool
  | [], cs => cs.isEmpty
  | .anyRun :: ts, cs => someEnd (fits ts) cs
  | .anyOne :: ts, _ :: cs => fits ts cs
  | .exactly t :: ts, c :: cs => key t == key c && fits ts cs
  | _ :: _, [] => false

/-- The part of a text before its first NUL character. -/
def beforeNul (cs : List Char) : List Char :=
  cs.takeWhile (· ≠ '\x00')

/-- The tokens of a written pattern. -/
def compile (pattern : String) : Option (List Token) :=
  tokensOnto [] (beforeNul pattern.toList)

/-- The text matches a pattern; one that ends in the middle of an escape matches nothing. -/
def accepts (pattern : Option (List Token)) (text : String) : Bool :=
  match pattern with
  | some ts => fits ts (beforeNul text.toList)
  | none => false

/-- The longest pattern, in bytes, that the matcher takes. -/
def longestPattern : Nat := 50000

/-- A character of a text that is searched for, with an escape if it would have a meaning in a pattern. -/
def escaped (c : Char) : List Char :=
  if c = '%' || c = '_' || c = escape then [escape, c] else [c]

/-- The pattern for texts that contain the needle. -/
def containing (needle : String) : String :=
  String.ofList ('%' :: needle.toList.flatMap escaped ++ ['%'])

end Agenda.Like
