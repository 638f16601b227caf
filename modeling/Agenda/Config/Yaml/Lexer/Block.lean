import Agenda.Config.Yaml.Lexer.State

/-!
# Block scalars

The lines below a mark, as far as they are indented. They are kept as they are, or folded: an end of a line between
two lines that begin with no blank is a space. The header says what becomes of the ends of lines behind the text.
-/

namespace Agenda.Config.Yaml

open Text (isSpaceOrTab)

/-- What becomes of the ends of lines behind the text. -/
inductive Ending where
  /-- One of them stays. -/
  | clip
  /-- All of them stay. -/
  | keep
  /-- None of them stays. -/
  | strip
deriving DecidableEq

namespace Scan

/-- The ending that a header names, if it does. -/
def ending? : Scan (Option Ending) := do
  match (← get).rest with
  | '+' :: _ => do
    modify (·.skip 1)
    return some .keep
  | '-' :: _ => do
    modify (·.skip 1)
    return some .strip
  | _ => return none

/-- The indentation that a header names; nought if it names none. -/
def indentation : Scan Nat := do
  match (← get).rest with
  | c :: _ =>
    if c = '0' then failure
    else if c.isDigit then do
      modify (·.skip 1)
      return c.toNat - 48
    else return 0
  | [] => return 0

/-- The header of a block scalar, in which ending and indentation stand in any order. -/
def blockHeader : Scan (Ending × Nat) := do
  match ← ending? with
  | some ending => return (ending, ← indentation)
  | none => do
    let k ← indentation
    if k = 0 then return (.clip, 0) else return ((← ending?).getD .clip, k)

/-- Goes over the spaces left of a column, and over lines that hold nothing more. The answer is the number of these
lines. -/
def indentTo (column : Nat) : Nat → Scan Nat
  | 0 => failure
  | n + 1 => do
    let s ← get
    let spaces := (s.rest.takeWhile (· = ' ')).length
    modify (·.skipBlanks (min spaces (column - s.column)))
    if (← get).rest.head?.any isBreak then do
      modify (·.skipBreak)
      return (← indentTo column n) + 1
    else return 0

/-- Goes over spaces and over lines that hold nothing more. The answer is the rightmost column that the spaces reach,
and the number of these lines. -/
def findIndent (column : Nat) : Nat → Scan (Nat × Nat)
  | 0 => failure
  | n + 1 => do
    let spaces := ((← get).rest.takeWhile (· = ' ')).length
    modify (·.skipBlanks spaces)
    let s ← get
    let column := max column s.column
    if s.rest.head?.any isBreak then do
      modify (·.skipBreak)
      let (found, lines) ← findIndent column n
      return (found, lines + 1)
    else return (column, 0)

/-- A block scalar while its lines are read. -/
structure BlockText where
  /-- The text so far, in reverse. -/
  text : List Char := []
  /-- An end of a line follows it. -/
  ended : Bool := false
  /-- The number of empty lines that follow. -/
  emptyLines : Nat := 0
  /-- The last line began with a blank. -/
  blankLine : Bool := false

/-- The ends of lines behind the text. -/
def BlockText.breaks (b : BlockText) : List Char :=
  List.replicate ((if b.ended then 1 else 0) + b.emptyLines) '\n'

/-- The text with one line more. -/
def BlockText.add (folds : Bool) (b : BlockText) (line : List Char) : BlockText :=
  let startsBlank := line.head?.any isSpaceOrTab
  let between :=
    if folds && b.ended && !b.blankLine && !startsBlank then
      if b.emptyLines = 0 then [' '] else List.replicate b.emptyLines '\n'
    else b.breaks
  { text := line.reverse ++ between ++ b.text, blankLine := startsBlank }

/-- The lines of a block scalar at a column. -/
def blockLines (folds : Bool) (column : Nat) : Nat → BlockText → Scan BlockText
  | 0, _ => failure
  | n + 1, b => do
    let s ← get
    if s.column ≠ column || s.rest.isEmpty || (column = 0 && s.atMark '.') then return b
    else do
      let line := s.rest.takeWhile (!isBreak ·)
      modify (·.skipBlanks line.length)
      let b := b.add folds line
      if (← get).rest.isEmpty then return b
      else do
        modify (·.skipBreak)
        let emptyLines ← indentTo column (s.size + 1)
        blockLines folds column n { b with ended := true, emptyLines }

/-- The text of a block scalar behind its header. -/
def blockText (folds : Bool) (ending : Ending) (given : Nat) : Scan (List Char) := do
  let header ← get
  modify (·.skipBreak)
  if (← get).rest.head? == some '\t' then failure
  let (column, emptyLines) ←
    if given = 0 then do
      let (found, lines) ← findIndent 0 (header.size + 1)
      pure (max found (header.indent + 1).toNat, lines)
    else do
      let column := header.indent.toNat + given
      pure (column, ← indentTo column (header.size + 1))
  let s ← get
  if s.rest.isEmpty then
    if ending = .strip || s.line = header.line then return []
    else if ending = .keep then return List.replicate (max 1 emptyLines) '\n'
    else return ['\n']
  else do
    if s.column < column && s.indent < s.column then failure
    let b ← blockLines folds column (s.size + 1) { emptyLines }
    let s ← get
    let last : List Char := if s.rest.isEmpty && max column 1 ≤ s.column then ['\n'] else []
    match ending with
    | .strip => return b.text
    | .clip => return last ++ (if b.ended then ['\n'] else []) ++ b.text
    | .keep => return List.replicate b.emptyLines '\n' ++ last ++ (if b.ended then ['\n'] else []) ++ b.text

/-- A block scalar. -/
def block (folds : Bool) : Scan Unit := do
  modify fun s => { (s.savePlace.skip 1).moveBack with keyAllowed := true }
  let (ending, given) ← blockHeader
  emptyTrail
  let text ← blockText folds ending given
  modify (·.push (.scalar false (String.ofList text.reverse)))

end Scan

end Agenda.Config.Yaml
