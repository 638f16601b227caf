import Agenda.Number.Binary64
import Agenda.Text.Split

/-!
# Configuration values

A configuration is a tree of tables. Layers are put on top of each other: a table is merged into the table below
it, name by name, and every other value takes the place of what was there. A layer's entry may name a place deep
in the tree by a path such as `server.port`.
-/

namespace Agenda.Config

/-- A value of a configuration. -/
inductive Value where
  | null
  | bool (b : Bool)
  | int (i : Int)
  | float (x : Number.Binary64)
  | text (s : String)
  | list (items : List Value)
  | table (entries : List (String × Value))

instance : Inhabited Value := ⟨.null⟩

namespace Value

/-- The entries of a table; any other value has none. -/
def entries : Value → List (String × Value)
  | table es => es
  | _ => []

/-- The items of a list; any other value has none. -/
def items : Value → List Value
  | list vs => vs
  | _ => []

/-- The value of a name in a table. -/
def get? (v : Value) (name : String) : Option Value :=
  (v.entries.find? (·.1 == name)).map (·.2)

/-- The entries with the value of one name changed; a missing name counts as null. -/
def alter (name : String) (f : Value → Value) : List (String × Value) → List (String × Value)
  | [] => [(name, f .null)]
  | (n, v) :: es => if n = name then (n, f v) :: es else (n, v) :: alter name f es

mutual

/-- Puts a value on top of another one. -/
def onto : Value → Value → Value
  | table es, base => table (entriesOnto es base.entries)
  | v, _ => v

/-- Puts entries on top of others, one after the other. -/
def entriesOnto : List (String × Value) → List (String × Value) → List (String × Value)
  | [], base => base
  | (name, v) :: es, base => entriesOnto es (alter name (onto v) base)

end

end Value

/-! ### Paths -/

/-- One part of a path: a name in a table, or a place in a list, counted from its end if negative. -/
inductive Step where
  | name (s : String)
  | index (i : Int)
deriving DecidableEq

/-- The characters of a name in a path. -/
def isNameChar (c : Char) : Bool :=
  c.isAlphanum || c = '_' || c = '-'

/-- The parts of a path behind its first name. -/
def Step.parseRest : Nat → List Char → Option (List Step)
  | _, [] => some []
  | 0, _ => none
  | n + 1, '.' :: cs =>
    let name := cs.takeWhile isNameChar
    if name = [] then none
    else (parseRest n (cs.dropWhile isNameChar)).map (.name (String.ofList name) :: ·)
  | n + 1, '[' :: cs =>
    match cs.dropWhile (· ≠ ']') with
    | _ :: rest =>
      match cs.takeWhile (· ≠ ']') with
      | '-' :: ds => (Number.readDigits ds).bind fun i => (parseRest n rest).map (.index (-i) :: ·)
      | ds => (Number.readDigits ds).bind fun i => (parseRest n rest).map (.index i :: ·)
    | [] => none
  | _, _ => none

/-- The path that a text names; a text that is no path is a single name. -/
def pathOf (key : String) : List Step :=
  let cs := key.toList
  let first := cs.takeWhile isNameChar
  let path := if first = [] then none else Step.parseRest cs.length (cs.dropWhile isNameChar)
  match path with
  | some rest => .name (String.ofList first) :: rest
  | none => [.name key]

namespace Value

/-- The items with the one at a place changed; missing items before it are null. -/
def alterItem (i : Int) (f : Value → Value) (vs : List Value) : List Value :=
  let place := if 0 ≤ i then i else i + vs.length
  if 0 ≤ place then
    let vs := vs ++ List.replicate (place.toNat + 1 - vs.length) .null
    vs.modify place.toNat f
  else f .null :: (List.replicate (place.natAbs - 1) .null ++ vs)

/-- Changes the value at a path; what stands in the way of the path gives way to tables and lists. -/
def alterAt (f : Value → Value) : List Step → Value → Value
  | [], v => f v
  | .name s :: path, v => table (alter s (alterAt f path) v.entries)
  | .index i :: path, v => list (alterItem i (alterAt f path) v.items)

/-- Puts a layer on top of a configuration; each of its entries names a path. -/
def layer (base : Value) (entries : List (String × Value)) : Value :=
  entries.foldl (fun base (key, v) => alterAt (onto v) (pathOf key) base) base

/-! ### Values as texts and numbers -/

/-- The value as a text: numbers and truth values are written out. -/
def toText? : Value → Option String
  | text s => some s
  | bool b => some (if b then "true" else "false")
  | int i => some (String.ofList (Number.intText i))
  | float x => some (String.ofList x.text)
  | _ => none

/-- The words that stand for one and for zero. -/
def wordNumber? (s : String) : Option Nat :=
  let lower := s.map Char.toLower
  if lower = "true" || lower = "on" || lower = "yes" then some 1
  else if lower = "false" || lower = "off" || lower = "no" then some 0
  else none

/-- The value as a number: one that is not negative, or what a text, a truth value or a float is read as. -/
def toNat? : Value → Option Nat
  | int i => if 0 ≤ i then some i.toNat else none
  | bool b => some (if b then 1 else 0)
  | float x => some x.toWord
  | text s =>
    match wordNumber? s with
    | some n => some n
    | none => (Number.readNat s.toList).filter (· < Number.wordCount)
  | _ => none

end Value

end Agenda.Config
