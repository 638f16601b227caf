import Agenda.Config.Yaml.Lexer.State

/-!
# Anchors, tags and directives
-/

namespace Agenda.Config.Yaml

open Text (isSpaceOrTab)

namespace Scan

/-- Goes over one character, which must be the given one. -/
def expect (c : Char) : Scan Unit := do
  if (← get).rest.head? == some c then modify (·.skip 1) else failure

/-- What follows must not belong to the same word. -/
def expectEnd : Scan Unit := do
  if !endsWord (← get).rest then failure

/-- The text of a tag as far as its characters are of a kind. -/
def tagText (kind : Char → Bool) : Scan (List Char) := do
  let s ← get
  let (text, width) ← (tagText? kind s.size s.rest : Option (List Char × Nat))
  modify (·.skip width)
  return text

/-! ### Anchors -/

/-- The name of an anchor or alias behind its mark. -/
def anchorName : Scan String := do
  modify fun s => { s.savePlace.skip 1 with keyAllowed := false }
  let name ← run isAnchorChar
  if name.isEmpty then failure
  return String.ofList name

/-- An alias. -/
def aliasTo : Scan Unit := do
  let name ← anchorName
  modify (·.push (.aliasTo name))

/-- An anchor. -/
def anchor : Scan Unit := do
  let column := (← get).column
  let name ← anchorName
  modify fun s => { s.push (.anchor name) with property := some column }

/-! ### Tags -/

/-- The handle of a tag: a word between exclamation marks, of which the second may be missing. -/
def tagHandle : Scan (List Char) := do
  expect '!'
  let word ← run isWordChar
  if (← get).rest.head? == some '!' then do
    modify (·.skip 1)
    return '!' :: word ++ ['!']
  else return '!' :: word

/-- The handle and the suffix of a tag. -/
def tagParts : Scan (List Char × List Char) := do
  if (← get).rest.tail.head? == some '<' then do
    modify (·.skip 2)
    let text ← tagText isAddressChar
    expect '>'
    return ([], text)
  else do
    let handle ← tagHandle
    let suffix ← tagText isTagChar
    if handle.length ≥ 2 && handle.getLast? == some '!' then
      if suffix.isEmpty then failure
      return (handle, suffix)
    else
      let suffix := handle.tail ++ suffix
      if suffix.isEmpty then return ([], ['!']) else return (['!'], suffix)

/-- A tag. -/
def tag : Scan Unit := do
  modify fun s => { s.savePlace with keyAllowed := false }
  let column := (← get).column
  let (handle, suffix) ← tagParts
  let s ← get
  if !(endsWord s.rest || (s.depth != 0 && s.rest.head?.any isFlowMark)) then failure
  modify fun s => { s.push (.tag (String.ofList handle) (String.ofList suffix)) with property := some column }

/-! ### Directives -/

/-- The longest number in a version. -/
def longestNumber : Nat := 9

/-- A number of a version. -/
def versionNumber : Scan Unit := do
  let ds ← run Char.isDigit
  if ds.isEmpty || longestNumber < ds.length then failure

/-- What follows the name of a directive. A directive of an unknown name says nothing. -/
def directiveBody (name : String) : Scan Token := do
  if name = "YAML" then do
    discard (run isSpaceOrTab)
    versionNumber
    expect '.'
    versionNumber
    return .version
  else if name = "TAG" then do
    discard (run isSpaceOrTab)
    let handle ← tagHandle
    if handle ≠ ['!'] && handle.getLast? ≠ some '!' then failure
    discard (run isSpaceOrTab)
    let first ← match (← get).rest with
      | '!' :: _ => do
        modify (·.skip 1)
        pure ['!']
      | c :: _ => if isTagChar c then pure [] else failure
      | [] => failure
    let meaning ← tagText isAddressChar
    expectEnd
    return .handle (String.ofList handle) (String.ofList (first ++ meaning))
  else do
    discard (run (!isBreak ·))
    return .handle "" ""

/-- A directive. -/
def directive : Scan Unit := do
  modify (·.closeBlocks (-1))
  change Lexer.dropPlace?
  modify fun s => { s.skip 1 with keyAllowed := false }
  let name ← run isWordChar
  if name.isEmpty then failure
  expectEnd
  let t ← directiveBody (String.ofList name)
  emptyTrail
  modify fun s => s.skipBreak.push t

end Scan

end Agenda.Config.Yaml
