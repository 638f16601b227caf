import Agenda.Config.Yaml.Lexer.Block
import Agenda.Config.Yaml.Lexer.Property
import Agenda.Config.Yaml.Lexer.Scalar

/-!
# The tokens of a document

Brackets, commas, dashes, question marks and colons, and the choice among all tokens by their first characters. The
name of an entry is found out by the colon behind it: the tokens that begin the entry are then put before the name.
-/

namespace Agenda.Config.Yaml

namespace Scan

/-! ### Flow collections -/

/-- The deepest nesting of flow collections. -/
def deepestFlow : Nat := 255

/-- Ends a mapping of a single entry in a flow sequence, if one is open. -/
def endSingle : Scan Unit := do
  match (← get).single with
  | true :: outer => modify fun s => { s.push .flowMappingEnd with mappingBegun := false, single := false :: outer }
  | _ => pure ()

/-- A bracket that opens a flow collection. -/
def openFlow (t : Token) : Scan Unit := do
  let s := (← get).savePlace.moveIn
  if s.depth = deepestFlow then failure
  let s := { s.skip 1 with depth := s.depth + 1, places := none :: s.places, keyAllowed := true }
  set (if t = .flowMapping then { s with mappingBegun := true } else { s with single := false :: s.single })
  discard trail
  modify (·.push t)

/-- A bracket that closes a flow collection. A colon right behind it needs no blank. -/
def closeFlow (t : Token) : Scan Unit := do
  change Lexer.dropPlace?
  modify fun s => { s with depth := s.depth - 1, places := if s.depth = 0 then s.places else s.places.tail, keyAllowed := false }
  if t = .flowSequenceEnd then do
    endSingle
    modify fun s => { s with single := s.single.tail }
  modify (·.skip 1)
  discard trail
  modify fun s => { s.push t with valueAt := if s.depth = 0 then s.valueAt else s.index }

/-- A comma between the entries of a flow collection. -/
def flowEntry : Scan Unit := do
  change Lexer.dropPlace?
  modify fun s => { s with keyAllowed := true }
  endSingle
  modify (·.skip 1)
  discard trail
  modify (·.push .flowEntry)

/-! ### Entries -/

/-- A dash before an item of a block sequence. An anchor or a tag cannot stand in the first column before it. -/
def blockEntry : Scan Unit := do
  let s ← get
  if s.depth != 0 || !s.keyAllowed then failure
  if s.column = 0 && s.property == some 0 && 0 ≤ s.indent then failure
  modify fun s => (s.skip 1).openBlock s.column none .blockSequence
  let blanks ← trail
  let t ← get
  if blanks.contains '\t' && t.rest.head? == some '-' && endsWord t.rest.tail then failure
  if t.rest.head?.any fun c => isBreak c || isFlowMark c then modify (·.moveIn)
  change Lexer.dropPlace?
  modify fun s => { s.push .blockEntry with keyAllowed := true }

/-- Goes over spaces, comments and ends of lines. -/
def toKey : Nat → Scan Unit
  | 0 => failure
  | n + 1 => do
    match (← get).rest with
    | c :: _ =>
      if c = ' ' then do
        modify (·.skipBlanks 1)
        toKey n
      else if isBreak c then do
        nextLine
        toKey n
      else if c = '#' then do
        discard (run (!isBreak ·))
        toKey n
      else pure ()
    | [] => pure ()

/-- A question mark before the name of an entry. -/
def key : Scan Unit := do
  let s ← get
  if s.depth = 0 then do
    if !s.keyAllowed then failure
    modify (·.openBlock s.column none .blockMapping)
  else modify fun s => { s with mappingBegun := true }
  change Lexer.dropPlace?
  modify fun s => { s.skip 1 with keyAllowed := s.depth == 0 }
  if !((← get).rest.head?.any fun c => c = ' ' || isBreak c) then failure
  toKey (s.size + 1)
  if (← get).rest.head? == some '\t' then failure
  modify (·.push .key)

/-- A colon before the value of an entry. The name before it may have begun at a place that was remembered; in a
flow sequence name and value are a mapping of their own. -/
def value : Scan Unit := do
  let s ← get
  let isSingle := !s.single.isEmpty && !s.mappingBegun
  if isSingle then modify fun s => { s with single := true :: s.single.tail }
  modify (·.skip 1)
  if (← get).rest.head? == some '\t' then do
    let blanks ← trail
    if !blanks.contains ' ' && (← get).rest.head?.any isWordChar then failure
  match s.places.head?.join with
  | some p => do
    modify (·.insert p.number .key)
    if isSingle then do
      if p.line < s.line then failure
      modify (·.insert p.number .flowMapping)
    modify fun s => { (s.openBlock p.column (some p.number) .blockMapping).moveIn with
      places := none :: s.places.tail, keyAllowed := false }
  | none => do
    if isSingle then modify (·.push .flowMapping)
    if s.depth = 0 then do
      if !s.keyAllowed then failure
      modify (·.openBlock s.column none .blockMapping)
    modify fun s => { s.moveIn with keyAllowed := s.depth == 0 }
  modify (·.push .value)

/-! ### All tokens -/

/-- A line that begins or ends a document. -/
def documentMark (t : Token) : Scan Unit := do
  modify (·.closeBlocks (-1))
  change Lexer.dropPlace?
  modify fun s => { (s.skip 3).push t with keyAllowed := false }

/-- The token that begins with a character, before others. -/
def ofFirst (c : Char) (others : List Char) : Scan Unit := do
  let s ← get
  let inFlow := s.depth != 0
  let ends := endsWord others
  if c = '[' then openFlow .flowSequence
  else if c = '\x7b' then openFlow .flowMapping
  else if c = ']' then closeFlow .flowSequenceEnd
  else if c = '\x7d' then closeFlow .flowMappingEnd
  else if c = ',' then flowEntry
  else if c = '-' && ends then blockEntry
  else if c = '?' && ends then key
  else if c = ':' && (ends || (inFlow && (others.head?.any isFlowMark || s.index == s.valueAt))) then value
  else if c = '*' then aliasTo
  else if c = '&' then anchor
  else if c = '!' then tag
  else if c = '|' && !inFlow then block false
  else if c = '>' && !inFlow then block true
  else if c = '\'' || c = '"' then quoted c
  else if c = '%' || c = '@' || c = '\x60' then failure
  else plain

/-- The next token. -/
def next (c : Char) (others : List Char) : Scan Unit := do
  let s ← get
  if s.column = 0 && c = '%' then directive
  else if s.atMark '-' then documentMark .documentStart
  else if s.atMark '.' then do
    documentMark .documentEnd
    emptyTrail
  else if s.column < s.indent then failure
  else ofFirst c others

/-- All tokens to the end of the document. -/
def all : Nat → Scan Unit
  | 0 => failure
  | n + 1 => do
    toToken ((← get).size + 1)
    change Lexer.dropFarPlace?
    modify fun s => s.closeBlocks s.column
    match (← get).rest with
    | [] => do
      if (← get).places.any fun p => p.any (·.isRequired) then failure
      modify (·.closeBlocks (-1))
    | c :: others => do
      next c others
      all n

end Scan

/-- The tokens of a text. -/
def Token.ofChars? (cs : List Char) : Option (List Token) :=
  (Scan.all (cs.length + 1) { size := cs.length, rest := cs }).map fun (_, s) => s.tokens.reverse

end Agenda.Config.Yaml
