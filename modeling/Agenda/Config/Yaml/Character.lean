import Agenda.Number.Based
import Agenda.Text.Blank
import Agenda.Text.Hex

/-!
# The characters of YAML

Classes of characters that the layout, the indicators, and the names of anchors and tags are made of.
-/

namespace Agenda.Config.Yaml

open Text (isSpaceOrTab)

/-- A character that ends a line. -/
def isBreak (c : Char) : Bool :=
  c = '\n' || c = '\r'

/-- A blank or the end of a line. -/
def isGap (c : Char) : Bool :=
  isSpaceOrTab c || isBreak c

/-- Nothing more follows, or a blank or the end of a line does. -/
def endsWord (cs : List Char) : Bool :=
  cs.head?.all isGap

/-- Nothing more follows on the line. -/
def endsLine (cs : List Char) : Bool :=
  cs.head?.all isBreak

/-- The brackets and commas of flow collections. -/
def isFlowMark (c : Char) : Bool :=
  c = ',' || c = '[' || c = ']' || c = '\x7b' || c = '\x7d'

/-- The characters of the names of directives and tag handles. -/
def isWordChar (c : Char) : Bool :=
  c.isAlphanum || c = '_' || c = '-'

/-- The characters of the names of anchors. -/
def isAnchorChar (c : Char) : Bool :=
  !(isGap c || isFlowMark c || c = '\uFEFF')

/-- The characters of an address. -/
def isAddressChar (c : Char) : Bool :=
  isWordChar c || "#;/?:@&=+$,.!~*'()[]%".toList.contains c

/-- The characters of a tag behind its handle. -/
def isTagChar (c : Char) : Bool :=
  isAddressChar c && !isFlowMark c && c ≠ '!'

/-- The byte that two hexadecimal digits name. -/
def byte? (a b : Char) : Option Nat :=
  match Number.hexValue? a, Number.hexValue? b with
  | some x, some y => some (x * 16 + y)
  | _, _ => none

/-- The character that an escape of a tag names, and the length of the escape. A byte below 128 stands for itself; a
byte from 192 to 223 has one more behind it, and the two are one number. -/
def tagEscape? : List Char → Option (Char × Nat)
  | '%' :: a :: b :: cs =>
    match byte? a b with
    | none => none
    | some x =>
      if x < 128 then some (Char.ofNat x, 3)
      else if 192 ≤ x && x < 224 then
        match cs with
        | '%' :: c :: d :: _ =>
          match byte? c d with
          | some y =>
            if 128 ≤ y && y < 192 && (x * 256 + y).isValidChar then some (Char.ofNat (x * 256 + y), 6) else none
          | none => none
        | _ => none
      else none
  | _ => none

/-- The text of a tag as far as its characters are of a kind, and its length; nothing if an escape is malformed. -/
def tagText? (kind : Char → Bool) : Nat → List Char → Option (List Char × Nat)
  | 0, _ | _, [] => some ([], 0)
  | n + 1, c :: cs =>
    if !kind c then some ([], 0)
    else if c = '%' then
      match tagEscape? (c :: cs) with
      | none => none
      | some (e, width) => (tagText? kind n (cs.drop (width - 1))).map fun (text, k) => (e :: text, k + width)
    else (tagText? kind n cs).map fun (text, k) => (c :: text, k + 1)

/-- The character that the escape behind a backslash names, and the length of the escape without the backslash. -/
def escape? : List Char → Option (Char × Nat)
  | [] => none
  | c :: cs =>
    match c with
    | '0' => some ('\x00', 1)
    | 'a' => some ('\x07', 1)
    | 'b' => some ('\x08', 1)
    | 't' | '\t' => some ('\t', 1)
    | 'n' => some ('\n', 1)
    | 'v' => some ('\x0b', 1)
    | 'f' => some ('\x0c', 1)
    | 'r' => some ('\r', 1)
    | 'e' => some ('\x1b', 1)
    | ' ' => some (' ', 1)
    | '"' => some ('"', 1)
    | '/' => some ('/', 1)
    | '\\' => some ('\\', 1)
    | 'N' => some ('\u0085', 1)
    | '_' => some ('\u00a0', 1)
    | 'L' => some ('\u2028', 1)
    | 'P' => some ('\u2029', 1)
    | 'x' => (Text.readHexChar 2 cs).map fun (e, _) => (e, 3)
    | 'u' => (Text.readHexChar 4 cs).map fun (e, _) => (e, 5)
    | 'U' => (Text.readHexChar 8 cs).map fun (e, _) => (e, 9)
    | _ => none

end Agenda.Config.Yaml
