import Agenda.Text.Alphanumeric
import Agenda.Text.Blank

/-!
# Files of variables

A file of lines `NAME=value`. A value may be quoted, hold escapes and name other variables with a dollar sign; a
number sign after a blank begins a comment. Reading stops at the first line that is malformed. A variable that
exists is never changed. No variable can hold U+0000: the program stops where it should set one that does.
-/

namespace Agenda.Config.EnvFile

/-! ### Lines

A line goes on after a line break inside quotes. -/

/-- Where a reader of lines stands. -/
inductive Place where
  /-- In plain text. -/
  | plain
  /-- After a blank, where a comment can begin. -/
  | blank
  /-- After a backslash. -/
  | escape
  /-- Inside single quotes. -/
  | single
  | singleEscape
  /-- Inside double quotes. -/
  | double
  | doubleEscape
  /-- At the number sign of a comment. -/
  | comment
deriving DecidableEq

/-- The place after one character more. -/
def Place.next : Place → Char → Place
  | .blank, '#' => .comment
  | .plain, c =>
    if c = '\\' then .escape
    else if c = '"' then .double
    else if c = '\'' then .single
    else if Text.isBlank c && c ≠ '\n' && c ≠ '\r' then .blank
    else .plain
  | .blank, c => if c = '\\' then .escape else if c = '"' then .double else if c = '\'' then .single else .plain
  | .escape, _ => .plain
  | .single, c => if c = '\\' then .singleEscape else if c = '\'' then .plain else .single
  | .singleEscape, _ => .single
  | .double, c => if c = '\\' then .doubleEscape else if c = '"' then .plain else .double
  | .doubleEscape, _ => .double
  | .comment, _ => .comment

/-- Reads one physical line; `acc` holds the characters so far, the last one first. Tells where it ends, and what
follows the line break. At a comment the rest of the line is skipped. -/
def readLine (acc : List Char) (place : Place) : List Char → List Char × Place × List Char
  | [] => (acc, place, [])
  | c :: cs =>
    match place.next c with
    | .comment => (acc, .comment, (cs.dropWhile (· ≠ '\n')).drop 1)
    | next => if c = '\n' then (c :: acc, next, cs) else readLine (c :: acc) next cs

/-- A line without the line break at its end, from its characters in reverse. -/
def withoutBreak : List Char → List Char
  | '\n' :: '\r' :: cs => cs.reverse
  | '\n' :: cs => cs.reverse
  | cs => cs.reverse

/-- A line that begins with a number sign. -/
def isComment (cs : List Char) : Bool :=
  (cs.dropWhile Text.isBlank).head? == some '#'

/-- Cuts a text into lines; an unfinished one at the end is `none`. -/
def lines : Nat → List Char → Place → List Char → List (Option (List Char))
  | 0, _, _, _ => []
  | _ + 1, _, place, [] => if place = .plain then [] else [none]
  | n + 1, acc, place, cs =>
    if isComment (acc.reverse ++ cs) then lines n [] .plain ((cs.dropWhile (· ≠ '\n')).drop 1)
    else
      let (acc, place, rest) := readLine acc place cs
      match place with
      | .plain => some (withoutBreak acc) :: lines n [] .plain rest
      | .comment => some acc.reverse :: lines n [] .plain rest
      | place => lines n acc place rest

/-! ### Values -/

/-- What a dollar sign has begun: nothing, a name, or a name in braces. -/
inductive Naming where
  | none
  | bare
  | braced
deriving DecidableEq

/-- A reader of a value in the middle of it. Texts are held in reverse. -/
structure Reading where
  output : List Char := []
  single : Bool := false
  double : Bool := false
  escaped : Bool := false
  /-- Only blanks and a comment may follow. -/
  ending : Bool := false
  naming : Naming := .none
  name : List Char := []

/-- Puts the value of the name that was read into the output. -/
def Reading.substitute (r : Reading) (value : String → String) : Reading :=
  { r with output := (value (String.ofList r.name.reverse)).toList.reverse ++ r.output, name := [] }

/-- One character more of a value; nothing if the value is malformed. A number sign that begins a comment ends the
reading, which is the second part of the answer. -/
def Reading.step (value : String → String) (r : Reading) (c : Char) : Option (Reading × Bool) :=
  if r.ending then
    if Text.isSpaceOrTab c then some (r, false) else if c = '#' then some (r, true) else .none
  else if r.escaped then
    if c = '\\' || c = '\'' || c = '"' || c = '$' || c = ' ' then
      some ({ r with output := c :: r.output, escaped := false }, false)
    else if c = 'n' then some ({ r with output := '\n' :: r.output, escaped := false }, false)
    else .none
  else if r.single then
    some (if c = '\'' then { r with single := false } else { r with output := c :: r.output }, false)
  else
    match r.naming with
    | .bare =>
      if Text.isAlphanumeric c then some ({ r with name := c :: r.name }, false)
      else if c = '\x7b' && r.name = [] then some ({ r with naming := .braced }, false)
      else
        let r := r.substitute value
        if c = '$' then some ({ r with naming := .bare }, false)
        else some ({ r with naming := .none, output := c :: r.output }, false)
    | .braced =>
      if Text.isAlphanumeric c then some ({ r with name := c :: r.name }, false)
      else if c = '\x7d' then some ({ r.substitute value with naming := .none }, false)
      else some ({ r with name := c :: r.name }, false)
    | .none =>
      if c = '$' then some ({ r with naming := .bare }, false)
      else if r.double then
        if c = '"' then some ({ r with double := false }, false)
        else if c = '\\' then some ({ r with escaped := true }, false)
        else some ({ r with output := c :: r.output }, false)
      else if c = '\'' then some ({ r with single := true }, false)
      else if c = '"' then some ({ r with double := true }, false)
      else if c = '\\' then some ({ r with escaped := true }, false)
      else if Text.isSpaceOrTab c then some ({ r with ending := true }, false)
      else some ({ r with output := c :: r.output }, false)

/-- Reads a value to its end, given the values of other variables. -/
def readValue (value : String → String) (r : Reading) : List Char → Option String
  | [] =>
    if r.naming = .braced || r.single || r.double then none
    else some (String.ofList (r.substitute value).output.reverse)
  | c :: cs =>
    match r.step value c with
    | none => none
    | some (r, true) =>
      if r.naming = .braced || r.single || r.double then none
      else some (String.ofList (r.substitute value).output.reverse)
    | some (r, false) => readValue value r cs

/-! ### Assignments -/

/-- The characters of a variable's name behind the first. -/
def isNameChar (c : Char) : Bool :=
  c.isAlphanum || c = '_' || c = '.'

/-- A name at the front of a line, and what follows it and the blanks behind it. -/
def readName (cs : List Char) : Option (List Char × List Char) :=
  match cs with
  | [] => none
  | c :: _ =>
    if c.isAlpha || c = '_' then some (cs.takeWhile isNameChar, (cs.dropWhile isNameChar).dropWhile Text.isBlank)
    else none

/-- The name of an assignment and what follows its equals sign. The word `export` may stand before the name. -/
def readTarget (cs : List Char) : Option (List Char × List Char) :=
  match readName cs with
  | none => none
  | some (name, '=' :: rest) => some (name, rest.dropWhile Text.isBlank)
  | some (name, rest) =>
    if name = "export".toList then
      match readName rest with
      | some (name, '=' :: rest) => some (name, rest.dropWhile Text.isBlank)
      | _ => none
    else none

/-- What a line says: nothing, or a name and a value. A malformed line is `none`. -/
def readAssignment (value : String → String) (line : List Char) : Option (Option (String × String)) :=
  let cs := Text.trimmed line
  if cs = [] || cs.head? == some '#' then some none
  else
    match readTarget cs with
    | none => none
    | some (name, rest) =>
      if rest = [] || rest.head? == some '#' then some (some (String.ofList name, ""))
      else (readValue value {} rest).map fun s => some (String.ofList name, s)

/-- The value of a variable; one that does not exist is empty. -/
def lookup (environment : List (String × String)) (name : String) : String :=
  ((environment.find? (·.1 == name)).map (·.2)).getD ""

/-- The variables with those of the lines, up to the first malformed line; a name that exists keeps its value. There is
no answer if the program stops. -/
def addLines (environment : List (String × String)) : List (Option (List Char)) → Option (List (String × String))
  | [] => some environment
  | none :: _ => some environment
  | some line :: rest =>
    match readAssignment (lookup environment) line with
    | none => some environment
    | some none => addLines environment rest
    | some (some (name, s)) =>
      if environment.any (·.1 == name) then addLines environment rest
      else if s.toList.contains '\x00' then none
      else addLines (environment ++ [(name, s)]) rest

/-- The variables with those of a file. -/
def addFile (environment : List (String × String)) (text : String) : Option (List (String × String)) :=
  let cs := text.toList
  let cs := if cs.head? == some '\uFEFF' then cs.drop 1 else cs
  addLines environment (lines (cs.length + 1) [] .plain cs)

end Agenda.Config.EnvFile
