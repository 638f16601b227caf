import Agenda.Config.Toml.Scalar
import Agenda.Config.Toml.Table

/-!
# TOML documents

A document is a sequence of lines: assignments, headers of tables, and nothing but a comment. Values may be arrays
and inline tables, which go over several lines.
-/

namespace Agenda.Config.Toml

open Text (isSpaceOrTab)

/-! ### Blanks and comments -/

/-- What follows a comment, if one stands here; its characters must be allowed. -/
def skipComment? : List Char → Option (List Char)
  | '#' :: cs =>
    let comment := cs.takeWhile fun c => c ≠ '\n' && c ≠ '\r'
    if comment.any isForbidden then none else some (cs.drop comment.length)
  | cs => some cs

/-- What follows the rest of a line: blanks, perhaps a comment, and a line break or the end. -/
def endLine? (cs : List Char) : Option (List Char) :=
  match skipComment? (cs.dropWhile isSpaceOrTab) with
  | none => none
  | some [] => some []
  | some cs => afterBreak? cs

/-- Skips blanks, comments and line breaks. -/
def skipLines? : Nat → List Char → Option (List Char)
  | 0, cs => some cs
  | n + 1, cs =>
    match cs.dropWhile isSpaceOrTab with
    | [] => some []
    | c :: cs =>
      if c = '#' || c = '\n' || c = '\r' then
        match endLine? (c :: cs) with
        | some rest => skipLines? n rest
        | none => none
      else some (c :: cs)

/-- Skips blanks, comments and line breaks to the end of them. -/
def skipAll? (cs : List Char) : Option (List Char) :=
  skipLines? cs.length cs

/-! ### Names -/

/-- The characters of a name without quotes. -/
def isBareChar (c : Char) : Bool :=
  c.isAlphanum || c = '_' || c = '-'

/-- One name, in quotes of one line or without. -/
def readName (cs : List Char) : Option (String × List Char) :=
  match cs with
  | '"' :: rest => readBasic [] (rest.length + 1) rest
  | '\'' :: rest => readLiteral rest
  | cs =>
    let name := cs.takeWhile isBareChar
    if name = [] then none else some (String.ofList name, cs.dropWhile isBareChar)

/-- Names with dots between them, and what follows them and the blanks behind them. -/
def readNames : Nat → List Char → Option (List String × List Char)
  | 0, _ => none
  | n + 1, cs =>
    match readName (cs.dropWhile isSpaceOrTab) with
    | none => none
    | some (name, cs) =>
      match cs.dropWhile isSpaceOrTab with
      | '.' :: cs => (readNames n cs).map fun (names, cs) => (name :: names, cs)
      | cs => some ([name], cs)

/-- The greatest number of names with dots between them. -/
def longestPath : Nat := 80

/-- A path of names that is not too long, and what follows it. -/
def readPath (cs : List Char) : Option (List String × List Char) :=
  (readNames (cs.length + 1) cs).filter fun (names, _) => names.length ≤ longestPath

/-- The names of an assignment, and what follows the equals sign and the blanks behind it. -/
def readTarget (cs : List Char) : Option (List String × List Char) :=
  match readPath cs with
  | some (names, '=' :: cs) => some (names, cs.dropWhile isSpaceOrTab)
  | _ => none

/-! ### Values -/

/-- The deepest nesting of arrays and inline tables. -/
def deepestNesting : Nat := 80

mutual

/-- A value at the front of a text, in which arrays and inline tables nest up to a depth. -/
def readValue (depth : Nat) : Nat → List Char → Option (Value × List Char)
  | 0, _ => none
  | n + 1, cs =>
    match cs, depth with
    | '[' :: _, 0 | '\x7b' :: _, 0 => none
    | '[' :: cs, depth + 1 => (readItems depth n [] cs).map fun (items, cs) => (.list items.reverse, cs)
    | '\x7b' :: cs, depth + 1 => (readMembers depth n [] cs).map fun (es, cs) => (.table (entriesValue es), cs)
    | '"' :: _, _ | '\'' :: _, _ => (readString cs).map fun (s, cs) => (.text s, cs)
    | cs, _ => readBare cs

/-- The items of an array behind its bracket, the last one first. -/
def readItems (depth : Nat) : Nat → List Value → List Char → Option (List Value × List Char)
  | 0, _, _ => none
  | n + 1, items, cs =>
    match skipAll? cs with
    | none => none
    | some (']' :: cs) => some (items, cs)
    | some cs =>
      match readValue depth n cs with
      | none => none
      | some (v, cs) =>
        match skipAll? cs with
        | some (',' :: cs) => readItems depth n (v :: items) cs
        | some (']' :: cs) => some (v :: items, cs)
        | _ => none

/-- The members of an inline table behind its brace. -/
def readMembers (depth : Nat) : Nat → Entries → List Char → Option (Entries × List Char)
  | 0, _, _ => none
  | n + 1, es, cs =>
    match skipAll? cs with
    | none => none
    | some ('\x7d' :: cs) => some (es, cs)
    | some cs =>
      match readTarget cs with
      | none => none
      | some (names, cs) =>
        match readValue depth n cs with
        | none => none
        | some (v, cs) =>
          match assign v names es with
          | none => none
          | some es =>
            match skipAll? cs with
            | some (',' :: cs) => readMembers depth n es cs
            | some ('\x7d' :: cs) => some (es, cs)
            | _ => none

end

/-! ### Lines -/

/-- The document so far, and the way to the table that assignments go to. -/
structure Document where
  root : Entries := []
  current : List String := []

/-- What a header does: it opens the table that its last name stands for. -/
def Document.open? (d : Document) (repeated : Bool) (names : List String) : Option Document :=
  match names.getLast? with
  | none => none
  | some name =>
    (through (if repeated then openRepeated name else openTable name) names.dropLast d.root).map fun root =>
      { root, current := names }

/-- What an assignment does. -/
def Document.assign? (d : Document) (names : List String) (v : Value) : Option Document :=
  (through (assign v names) d.current d.root).map fun root => { d with root }

/-- One line that is not blank, and what follows it. -/
def Document.readLine? (d : Document) (cs : List Char) : Option (Document × List Char) :=
  match cs with
  | '[' :: '[' :: cs =>
    match readPath cs with
    | some (names, ']' :: ']' :: cs) =>
      match d.open? true names, endLine? cs with
      | some d, some cs => some (d, cs)
      | _, _ => none
    | _ => none
  | '[' :: cs =>
    match readPath cs with
    | some (names, ']' :: cs) =>
      match d.open? false names, endLine? cs with
      | some d, some cs => some (d, cs)
      | _, _ => none
    | _ => none
  | cs =>
    match readTarget cs with
    | none => none
    | some (names, cs) =>
      match readValue deepestNesting (cs.length + 1) cs with
      | none => none
      | some (v, cs) =>
        match d.assign? names v, endLine? cs with
        | some d, some cs => some (d, cs)
        | _, _ => none

/-- The lines of a document. -/
def Document.read? : Nat → Document → List Char → Option Document
  | 0, _, _ => none
  | n + 1, d, cs =>
    match skipAll? cs with
    | none => none
    | some [] => some d
    | some cs =>
      match d.readLine? cs with
      | none => none
      | some (d, cs) => read? n d cs

/-- The entries of a document. -/
def parse (text : String) : Option (List (String × Value)) :=
  let cs := text.toList
  (Document.read? (cs.length + 1) {} cs).map fun d => entriesValue d.root

end Agenda.Config.Toml
