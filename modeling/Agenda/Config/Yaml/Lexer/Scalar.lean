import Agenda.Config.Yaml.Lexer.State

/-!
# Scalars without quotes and in quotes

Such scalars may go over several lines. The blanks at the ends of their lines do not count, a single end of a line is
a space, and further ones are line breaks.
-/

namespace Agenda.Config.Yaml

open Text (isSpaceOrTab)

/-- What stands between two words of a scalar. -/
inductive Gap where
  /-- Blanks, the last one first. -/
  | blanks (cs : List Char)
  /-- An end of a line and so many further ones. -/
  | folded (more : Nat)
  /-- A backslash at the end of a line, and so many further ends. -/
  | joined (more : Nat)

namespace Gap

/-- The text that a gap stands for, in reverse. -/
def textReversed : Gap → List Char
  | blanks cs => cs
  | folded 0 => [' ']
  | folded more | joined more => List.replicate more '\n'

/-- One blank more. -/
def addBlank (c : Char) : Gap → Gap
  | blanks cs => blanks (c :: cs)
  | gap => gap

/-- The first end of a line. -/
def addBreak : Gap → Gap
  | blanks _ => folded 0
  | gap => gap

/-- A further end of a line. -/
def addEmptyLine : Gap → Gap
  | blanks _ => folded 0
  | folded more => folded (more + 1)
  | joined more => joined (more + 1)

end Gap

namespace Scan

/-- Goes over a gap. At a tab left of the column `least` on a new line, `atTab` says what to do. -/
def gap (least : Int) (atTab : Scan Unit) : Nat → Gap → Scan Gap
  | 0, _ => failure
  | n + 1, g => do
    let s ← get
    match s.rest with
    | [] => return g
    | c :: _ =>
      if isSpaceOrTab c then
        if !s.isFresh then do
          modify (·.skipBlanks 1)
          gap least atTab n (g.addBlank c)
        else if c = '\t' && s.column < least then do
          atTab
          gap least atTab n g
        else do
          modify (·.skipBlanks 1)
          gap least atTab n g
      else if isBreak c then do
        modify (·.skipBreak)
        gap least atTab n (if s.isFresh then g.addEmptyLine else g.addBreak)
      else return g

/-! ### Without quotes -/

/-- The characters of a word without quotes: a colon that ends a name ends it, and a mark of a flow collection inside
of one. -/
def word (inFlow : Bool) : List Char → List Char
  | [] => []
  | c :: cs =>
    if isGap c then []
    else if c = ':' && (endsWord cs || (inFlow && cs.head?.any isFlowMark)) then []
    else if inFlow && isFlowMark c then []
    else c :: word inFlow cs

/-- The text of a scalar without quotes, in reverse; `text` is what was read before the gap. -/
def plainText (least : Nat) : Nat → List Char → Gap → Scan (List Char)
  | 0, _, _ => failure
  | n + 1, text, before => do
    let s ← get
    if s.atMark '-' || s.atMark '.' || s.rest.head? == some '#' then return text
    else
      let inFlow := s.depth != 0
      if inFlow && s.rest.head? == some '-' && s.rest.tail.head?.any isFlowMark then failure
      let w := word inFlow s.rest
      modify (·.skip w.length)
      let text := if w.isEmpty then text else w.reverse ++ before.textReversed ++ text
      if (← get).rest.head?.any isGap then do
        let after ← gap least emptyTrail s.size (.blanks [])
        let t ← get
        if t.depth = 0 && t.column < least then return text else plainText least n text after
      else return text

/-- A scalar without quotes. -/
def plain : Scan Unit := do
  modify fun s => { s.savePlace.moveBack with keyAllowed := false }
  let s ← get
  let least := (s.indent + 1).toNat
  if s.depth != 0 && s.column < least then failure
  let text ← plainText least (s.size + 1) [] (.blanks [])
  modify fun s => { s with keyAllowed := s.isFresh }
  modify (·.push (.scalar true (String.ofList text.reverse)))

/-! ### In quotes -/

/-- The characters of a word in quotes and its length: it ends at a blank, at the end of the line, at the quote, and
at a backslash at the end of the line. Nothing if an escape is malformed. -/
def quotedWord (quote : Char) : Nat → List Char → Option (List Char × Nat)
  | 0, _ | _, [] => some ([], 0)
  | n + 1, c :: cs =>
    let more (d : Char) (width : Nat) : Option (List Char × Nat) :=
      (quotedWord quote n (cs.drop (width - 1))).map fun (text, k) => (d :: text, k + width)
    if isGap c then some ([], 0)
    else if c = quote then
      if quote = '\'' && cs.head? == some '\'' then more '\'' 2 else some ([], 0)
    else if c = '\\' && quote = '"' then
      if cs.head?.any isBreak then some ([], 0)
      else
        match escape? cs with
        | some (e, width) => more e (width + 1)
        | none => none
    else more c 1

/-- The text of a scalar in quotes up to the closing quote, in reverse. -/
def quotedText (quote : Char) : Nat → List Char → Scan (List Char)
  | 0, _ => failure
  | n + 1, text => do
    let s ← get
    if s.atMark '-' || s.atMark '.' || s.rest.isEmpty || s.column < s.indent then failure
    let (w, width) ← (quotedWord quote s.size s.rest : Option (List Char × Nat))
    modify (·.skip width)
    let text := w.reverse ++ text
    let joins := (← get).rest.head? == some '\\' && quote == '"'
    if joins then modify fun s => (s.skip 1).skipBreak
    if (← get).rest.head? == some quote then return text
    let g ← gap s.indent failure s.size (if joins then .joined 0 else .blanks [])
    quotedText quote n (g.textReversed ++ text)

/-- A scalar in quotes. As the name of an entry it stands on one line, except in flow collections. -/
def quoted (quote : Char) : Scan Unit := do
  modify fun s => { s.savePlace with keyAllowed := false }
  let start ← get
  modify (·.skip 1)
  let text ← quotedText quote (start.size + 1) []
  modify (·.skip 1)
  discard trail
  let s ← get
  let follows : Bool :=
    match s.rest with
    | [] => true
    | c :: _ => isBreak c || (c == ':' && (s.depth != 0 || s.line == start.line)) ||
      (s.depth != 0 && (c == ',' || c == ']' || c == '\x7d'))
  if !follows then failure
  toToken (s.size + 1)
  modify fun s => { s with valueAt := s.index }
  modify (·.push (.scalar false (String.ofList text.reverse)))

end Scan

end Agenda.Config.Yaml
