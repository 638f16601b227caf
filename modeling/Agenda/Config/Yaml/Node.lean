import Agenda.Config.Yaml.Scalar
import Agenda.Config.Yaml.Token

/-!
# The tree of a YAML document

Tokens make up a tree of scalars, sequences and mappings. An anchor names a node, and an alias stands for the node that
was last given its name.
-/

namespace Agenda.Config.Yaml

/-- A node of a document. -/
inductive Node where
  /-- A scalar that is not of the type of its tag, or an alias inside the node that it names. -/
  | unknown
  | scalar (s : Scalar)
  | sequence (items : List Node)
  /-- The entries are distinct by the scalars that name them; two of these may have one text. -/
  | mapping (entries : List (String × Node))

instance : Inhabited Node := ⟨.unknown⟩

namespace Node

/-- The node of nothing. -/
def null : Node := scalar .null

/-- Pairs the nodes of a mapping up, names and values by turns. An unknown node is no name: the next one takes its
place. A name without a value is dropped. Names are distinct scalars. -/
def pairUp (seen : List Scalar) (name : Option Node) : List Node → Option (List (String × Node))
  | [] => some []
  | node :: nodes =>
    match name, node with
    | none, unknown => pairUp seen none nodes
    | none, node => pairUp seen (some node) nodes
    | some (scalar s), value =>
      if seen.contains s then none
      else
        match s.name? with
        | some text => (pairUp (s :: seen) none nodes).map ((text, value) :: ·)
        | none => none
    | some _, _ => none

/-- The mapping of names and values by turns. -/
def ofPairs? (nodes : List Node) : Option Node :=
  (pairUp [] none nodes).map mapping

/-- The scalar of a text with a tag or without. A tag of the language is its prefix and the name of a type. -/
def ofScalar (isPlain : Bool) (tag : Option (String × String)) (s : String) : Node :=
  if isPlain then
    match tag with
    | none => scalar (.ofPlain s)
    | some (handle, suffix) =>
      if handle = "tag:yaml.org,2002:" then
        match Scalar.ofTyped? suffix s with
        | some typed => scalar typed
        | none => unknown
      else scalar (.text s)
  else scalar (.text s)

mutual

/-- The node as a value of a configuration. -/
def value? : Node → Option Value
  | unknown => some .null
  | scalar s => s.value?
  | sequence items => (itemValues? items).map .list
  | mapping entries => (entryValues? [] entries).map .table

/-- The items of a sequence. -/
def itemValues? : List Node → Option (List Value)
  | [] => some []
  | node :: nodes =>
    match node.value?, itemValues? nodes with
    | some v, some vs => some (v :: vs)
    | _, _ => none

/-- The entries of a mapping, put on top of those before them. -/
def entryValues? (before : List (String × Value)) : List (String × Node) → Option (List (String × Value))
  | [] => some before
  | (name, node) :: entries =>
    match node.value? with
    | some v => entryValues? (Value.alter name (fun _ => v) before) entries
    | none => none

end

end Node

/-! ### Building the tree -/

/-- What is left of the tokens, and the anchors so far. -/
structure Builder where
  tokens : List Token
  /-- What the handles of tags stand for. -/
  handles : List (String × String) := []
  /-- The number of the node that an anchor names, the last one first. -/
  anchors : List (String × Nat) := []
  /-- The numbered nodes that are complete. -/
  nodes : List (Nat × Node) := []

/-- A step of building, which fails at tokens that make up no tree. -/
abbrev Build (α : Type) : Type := StateT Builder Option α

namespace Build

/-- Goes over a token. -/
def advance : Build Unit :=
  modify fun b => { b with tokens := b.tokens.tail }

/-- The next token is one of these. -/
def comes (ts : List Token) : Build Bool := do
  return (← get).tokens.head?.any ts.contains

/-- Goes over the next token if it is that one. -/
def goOver (t : Token) : Build Bool := do
  if ← comes [t] then
    advance
    return true
  else return false

/-- What the handle and suffix of a tag stand for. A handle between two exclamation marks must have been declared,
but for the one of the language itself. -/
def resolve (handle suffix : String) : Build (String × String) := do
  match (← get).handles.find? (·.1 == handle) with
  | some (_, meaning) => return (meaning, suffix)
  | none =>
    if handle = "!!" then return ("tag:yaml.org,2002:", suffix)
    else if handle.length ≥ 2 && handle.toList.head? == some '!' && handle.toList.getLast? == some '!' then failure
    else return (handle, suffix)

/-- Gives the next node a number and a name. -/
def number (name : String) : Build Nat := do
  let k := (← get).anchors.length
  modify fun b => { b with anchors := (name, k) :: b.anchors }
  return k

/-- The tag that stands here, if one does. -/
def tag? : Build (Option (String × String)) := do
  match (← get).tokens with
  | .tag handle suffix :: _ => do
    advance
    return some (← resolve handle suffix)
  | _ => return none

/-- The number of the anchor that stands here, if one does. -/
def anchor? : Build (Option Nat) := do
  match (← get).tokens with
  | .anchor name :: _ => do
    advance
    return some (← number name)
  | _ => return none

/-- The anchor and the tag before a node, in any order. -/
def properties : Build (Option Nat × Option (String × String)) := do
  match ← anchor? with
  | some k => return (some k, ← tag?)
  | none => do
    match ← tag? with
    | some t => return (← anchor?, some t)
    | none => return (none, none)

/-- The node that an anchor names. -/
def named (name : String) : Build Node := do
  let b ← get
  match b.anchors.find? (·.1 == name) with
  | some (_, k) => return ((b.nodes.find? (·.1 == k)).map (·.2)).getD .unknown
  | none => failure

mutual

/-- The node that stands here. Block collections stand in blocks only, and a sequence without indentation only in an
entry of a block mapping. -/
def node : Nat → Bool → Bool → Build Node
  | 0, _, _ => failure
  | n + 1, inBlock, inEntry => do
    match (← get).tokens with
    | .aliasTo name :: _ => do
      advance
      named name
    | _ => do
      let (anchor, tag) ← properties
      let found ← content n inBlock inEntry anchor.isSome tag
      match anchor with
      | some k => modify fun b => { b with nodes := (k, found) :: b.nodes }
      | none => pure ()
      return found

/-- The node behind its anchor and tag; with one of these it may be empty. -/
def content : Nat → Bool → Bool → Bool → Option (String × String) → Build Node
  | 0, _, _, _, _ => failure
  | n + 1, inBlock, inEntry, isNamed, tag => do
    match (← get).tokens with
    | .scalar isPlain text :: _ => do
      advance
      return .ofScalar isPlain tag text
    | .flowSequence :: _ => do
      advance
      return .sequence (← flowItems n true)
    | .flowMapping :: _ => do
      advance
      let found ← (Node.ofPairs? (← flowEntries n true) : Option Node)
      return found
    | .blockEntry :: _ =>
      if inEntry then return .sequence (← looseItems n)
      else if isNamed || tag.isSome then return .ofScalar true tag ""
      else failure
    | .blockSequence :: _ =>
      if inBlock then do
        advance
        return .sequence (← blockItems n)
      else if isNamed || tag.isSome then return .ofScalar true tag ""
      else failure
    | .blockMapping :: _ =>
      if inBlock then do
        advance
        let found ← (Node.ofPairs? (← blockEntries n) : Option Node)
        return found
      else if isNamed || tag.isSome then return .ofScalar true tag ""
      else failure
    | _ => if isNamed || tag.isSome then return .ofScalar true tag "" else failure

/-- A node, or null if one of these tokens stands here. -/
def nodeUnless : Nat → List Token → Bool → Bool → Build Node
  | 0, _, _, _ => failure
  | n + 1, ends, inBlock, inEntry => do
    if ← comes ends then return .null else node n inBlock inEntry

/-- The value of an entry, which is null without a colon, or if one of these tokens follows it. -/
def valueUnless : Nat → List Token → Bool → Build Node
  | 0, _, _ => failure
  | n + 1, ends, inBlock => do
    if ← goOver .value then nodeUnless n ends inBlock inBlock else return .null

/-- The items of a flow sequence. -/
def flowItems : Nat → Bool → Build (List Node)
  | 0, _ => failure
  | n + 1, isFirst => do
    if ← goOver .flowSequenceEnd then return []
    else do
      if !isFirst then
        if !(← goOver .flowEntry) then failure
      if ← goOver .flowSequenceEnd then return []
      else if ← goOver .key then do
        let name ← nodeUnless n [.value, .flowEntry, .flowSequenceEnd] false false
        let value ← valueUnless n [.flowEntry, .flowSequenceEnd] false
        let item ← (Node.ofPairs? [name, value] : Option Node)
        return item :: (← flowItems n false)
      else do
        let item ← node n false false
        return item :: (← flowItems n false)

/-- Names and values of a flow mapping, by turns. -/
def flowEntries : Nat → Bool → Build (List Node)
  | 0, _ => failure
  | n + 1, isFirst => do
    if ← goOver .flowMappingEnd then return []
    else do
      if !isFirst then
        if !(← goOver .flowEntry) then failure
      if ← goOver .flowMappingEnd then return []
      else do
        let isMarked ← goOver .key
        if isMarked || (← comes [.value]) then do
          let name ← if isMarked then nodeUnless n [.value, .flowEntry, .flowMappingEnd] false false else pure .null
          let value ← valueUnless n [.flowEntry, .flowMappingEnd] false
          return name :: value :: (← flowEntries n false)
        else do
          let name ← node n false false
          return name :: .null :: (← flowEntries n false)

/-- The items of a block sequence. -/
def blockItems : Nat → Build (List Node)
  | 0 => failure
  | n + 1 => do
    if ← goOver .blockEnd then return []
    else if ← goOver .blockEntry then do
      let item ← nodeUnless n [.blockEntry, .blockEnd] true false
      return item :: (← blockItems n)
    else failure

/-- The items of a block sequence without indentation. -/
def looseItems : Nat → Build (List Node)
  | 0 => failure
  | n + 1 => do
    if ← goOver .blockEntry then do
      let item ← nodeUnless n [.blockEntry, .key, .value, .blockEnd] true false
      return item :: (← looseItems n)
    else return []

/-- Names and values of a block mapping, by turns. -/
def blockEntries : Nat → Build (List Node)
  | 0 => failure
  | n + 1 => do
    if ← goOver .blockEnd then return []
    else do
      let name ←
        if ← goOver .key then nodeUnless n [.key, .value, .blockEnd] true true
        else if ← comes [.value] then pure .null
        else failure
      let value ← valueUnless n [.key, .value, .blockEnd] true
      return name :: value :: (← blockEntries n)

end

end Build

end Agenda.Config.Yaml
