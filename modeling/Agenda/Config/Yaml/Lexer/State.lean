import Agenda.Config.Yaml.Character
import Agenda.Config.Yaml.Token

/-!
# A reader of YAML tokens

The state of reading a document into tokens, and the moves it is made of: over characters, into and out of block
collections, and to the places where a name may turn out to have begun.
-/

namespace Agenda.Config.Yaml

open Text (isSpaceOrTab)

/-- A column that bounds what is read from the left. -/
structure Margin where
  column : Nat
  /-- A block collection begins there. -/
  isBlock : Bool

/-- A place where a name has begun if a colon follows. -/
structure Place where
  /-- How many tokens stand before it. -/
  number : Nat
  line : Nat
  column : Nat
  index : Nat
  /-- It must be a name. -/
  isRequired : Bool

/-- The state of a reader. -/
structure Lexer where
  /-- The number of characters of the document, which bounds every loop. -/
  size : Nat
  /-- What is left of it. -/
  rest : List Char
  line : Nat := 0
  column : Nat := 0
  index : Nat := 0
  /-- Nothing but blanks stands before on the line. -/
  isFresh : Bool := true
  /-- The tokens so far, the last one first. -/
  tokens : List Token := []
  /-- The number of tokens. -/
  count : Nat := 0
  /-- The column of the last token, if it is an anchor or a tag. -/
  property : Option Nat := none
  /-- A name may begin here. -/
  keyAllowed : Bool := true
  /-- The place of a possible name, for each open flow collection and for all around them; the innermost first. -/
  places : List (Option Place) := [none]
  /-- The margins, the innermost first. -/
  margins : List Margin := []
  /-- The number of open flow collections. -/
  depth : Nat := 0
  /-- The index at which a colon needs no blank behind it. -/
  valueAt : Nat := 0
  /-- A flow mapping, or a marked name in a flow sequence, has begun. -/
  mappingBegun : Bool := false
  /-- For each open flow sequence, whether a mapping of a single entry is open in it; the innermost first. -/
  single : List Bool := []

namespace Lexer

/-- The column of the innermost margin; without one it lies left of every column. -/
def indent (s : Lexer) : Int :=
  match s.margins with
  | [] => -1
  | m :: _ => m.column

/-- Goes over blanks. -/
def skipBlanks (n : Nat) (s : Lexer) : Lexer :=
  { s with rest := s.rest.drop n, column := s.column + n, index := s.index + n }

/-- Goes over characters of a line. -/
def skip (n : Nat) (s : Lexer) : Lexer :=
  { s.skipBlanks n with isFresh := s.isFresh && n == 0 }

/-- Goes over the end of a line. -/
def skipBreak (s : Lexer) : Lexer :=
  let n := match s.rest with
    | '\r' :: '\n' :: _ => 2
    | c :: _ => if isBreak c then 1 else 0
    | [] => 0
  if n = 0 then s
  else { s with rest := s.rest.drop n, index := s.index + n, line := s.line + 1, column := 0, isFresh := true }

/-- A document begins or ends at this line. -/
def atMark (mark : Char) (s : Lexer) : Bool :=
  s.column = 0 && s.rest.take 3 == [mark, mark, mark] && endsWord (s.rest.drop 3)

/-- Adds a token. -/
def push (t : Token) (s : Lexer) : Lexer :=
  { s with tokens := t :: s.tokens, count := s.count + 1, property := none }

/-- Puts a token behind a number of others. -/
def insert (number : Nat) (t : Token) (s : Lexer) : Lexer :=
  let later := s.count - number
  { s with tokens := s.tokens.take later ++ t :: s.tokens.drop later, count := s.count + 1 }

/-! ### Margins -/

/-- Leaves the block collections that begin right of a column. -/
def closeBlocks (column : Int) (s : Lexer) : Lexer :=
  if s.depth = 0 then
    let closed := s.margins.takeWhile fun m => column < m.column
    (closed.filter (·.isBlock)).foldl (fun s _ => s.push .blockEnd) { s with margins := s.margins.drop closed.length }
  else s

/-- Enters a block collection at a column, unless one begins there already. -/
def openBlock (column : Nat) (number : Option Nat) (t : Token) (s : Lexer) : Lexer :=
  if s.depth = 0 then
    let s := match s.margins with
      | m :: ms => if !m.isBlock && m.column ≤ column then { s with margins := ms } else s
      | [] => s
    if s.indent < (column : Int) then
      let s := { s with margins := ⟨column, true⟩ :: s.margins }
      match number with
      | some k => s.insert k t
      | none => s.push t
    else s
  else s

/-- Moves the margin of the innermost block collection one column in, for what stands in one of its entries. -/
def moveIn (s : Lexer) : Lexer :=
  match s.margins with
  | ⟨column, true⟩ :: _ => if s.depth = 0 then { s with margins := ⟨column + 1, false⟩ :: s.margins } else s
  | _ => s

/-- Takes the margin back to that of the innermost block collection. -/
def moveBack (s : Lexer) : Lexer :=
  { s with margins := s.margins.dropWhile fun m => !m.isBlock }

/-! ### Places of names -/

/-- The place of a name that may have begun here. -/
def place (s : Lexer) : Place :=
  let atMargin := match s.margins with
    | m :: _ => m.isBlock && m.column = s.column
    | [] => false
  { number := s.count, line := s.line, column := s.column, index := s.index, isRequired := s.depth = 0 && atMargin }

/-- Remembers that a name may begin here. -/
def savePlace (s : Lexer) : Lexer :=
  if s.keyAllowed then { s with places := some s.place :: s.places.tail } else s

/-- Forgets the last place, which must not be one of a required name. -/
def dropPlace? (s : Lexer) : Option Lexer :=
  match s.places with
  | some p :: ps => if p.isRequired then none else some { s with places := none :: ps }
  | _ => some s

/-- The longest name without a mark. -/
def longestKey : Nat := 1024

/-- Forgets the last place in block collections if it is too far away: a name stands on one line. -/
def dropFarPlace? (s : Lexer) : Option Lexer :=
  match s.places with
  | some p :: _ =>
    if s.depth = 0 && (p.line < s.line || p.index + longestKey < s.index) then s.dropPlace? else some s
  | _ => some s

end Lexer

/-! ### Steps of a reader -/

/-- A step of a reader, which fails at a malformed document. -/
abbrev Scan (α : Type) : Type := StateT Lexer Option α

namespace Scan

/-- Goes over the characters of a line that are of a kind. -/
def run (kind : Char → Bool) : Scan (List Char) := do
  let cs := (← get).rest.takeWhile kind
  modify (·.skip cs.length)
  return cs

/-- Goes over blanks and a comment; a comment needs a blank before it. The answer is the blanks. -/
def trail : Scan (List Char) := do
  let blanks := (← get).rest.takeWhile isSpaceOrTab
  modify (·.skipBlanks blanks.length)
  if (← get).rest.head? == some '#' then
    if blanks.isEmpty then failure
    discard (run (!isBreak ·))
  return blanks

/-- Goes over blanks and a comment, which must be all that the line holds. -/
def emptyTrail : Scan Unit := do
  discard trail
  if !endsLine (← get).rest then failure

/-- Goes over an end of a line; outside flow collections a name may follow. -/
def nextLine : Scan Unit :=
  modify fun s => { s.skipBreak with keyAllowed := s.keyAllowed || s.depth == 0 }

/-- Goes to the next token, over blanks, comments and ends of lines. Tabs do not indent. -/
def toToken : Nat → Scan Unit
  | 0 => failure
  | n + 1 => do
    let s ← get
    match s.rest with
    | [] => pure ()
    | c :: _ =>
      if c = '\t' && s.isFresh && !s.margins.isEmpty && s.column < s.indent then do
        emptyTrail
        toToken n
      else if isSpaceOrTab c then do
        modify (·.skipBlanks 1)
        toToken n
      else if isBreak c then do
        nextLine
        toToken n
      else if c = '#' then do
        discard (run (!isBreak ·))
        toToken n
      else pure ()

/-- Changes the state by a step that may fail. -/
def change (f : Lexer → Option Lexer) : Scan Unit := do
  set (← (f (← get) : Option Lexer))

end Scan

end Agenda.Config.Yaml
