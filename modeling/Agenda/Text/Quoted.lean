import Agenda.Text.Visible

/-!
# Quoted texts

How an error shows the text it complains about: in double quotes, with a backslash before a quote and a
backslash, short escapes for four controls, and a numbered escape for every other character that would not be
seen as itself.
-/

namespace Agenda.Text

/-- The numbered escape of a character: its number in lower-case hexadecimal, without leading zeros. -/
def numberedEscape (c : Char) : List Char :=
  ['\\', 'u', '\x7b'] ++ Nat.toDigits 16 c.toNat ++ ['\x7d']

/-- How one character is written between the quotes. -/
def quotedChar (c : Char) : List Char :=
  if c = '\x00' then ['\\', '0']
  else if c = '\t' then ['\\', 't']
  else if c = '\n' then ['\\', 'n']
  else if c = '\r' then ['\\', 'r']
  else if c = '"' || c = '\\' then ['\\', c]
  else if isExtending c || !isSeen c then numberedEscape c
  else [c]

/-- The text in double quotes. -/
def quoted (s : String) : String :=
  String.ofList ('"' :: s.toList.flatMap quotedChar ++ ['"'])

end Agenda.Text
