import Agenda.Config.Value

/-!
# The tables of a TOML document while it is read

A document opens tables by headers and by dotted names. No table is opened twice, nothing is put into a value that
is complete, and a table opened one way is not added to in the other.
-/

namespace Agenda.Config.Toml

/-- How a table came to be open. -/
inductive Origin where
  /-- By its own header. -/
  | header
  /-- On the way to a table with a header. -/
  | passage
  /-- By a dotted name. -/
  | dotted
deriving DecidableEq

/-- What a name stands for. -/
inductive Node where
  /-- A value that is complete. -/
  | closed (v : Value)
  /-- A table that can be added to. -/
  | table (origin : Origin) (entries : List (String × Node))
  /-- Tables that a repeated header opened, the last one first. -/
  | tables (items : List (List (String × Node)))

instance : Inhabited Node := ⟨.closed .null⟩

/-- The entries of a table. -/
abbrev Entries : Type := List (String × Node)

/-- What a name stands for in a table. -/
def find? (es : Entries) (name : String) : Option Node :=
  (es.find? (·.1 == name)).map (·.2)

/-- The entries with one name standing for something else. -/
def put (name : String) (node : Node) : Entries → Entries
  | [] => [(name, node)]
  | (n, old) :: es => if n = name then (n, node) :: es else (n, old) :: put name node es

/-- Changes the table at the end of a way of headers; tables on the way that do not exist are opened. -/
def through (change : Entries → Option Entries) : List String → Entries → Option Entries
  | [], es => change es
  | name :: way, es =>
    match find? es name with
    | none => (through change way []).map fun inner => put name (.table .passage inner) es
    | some (.table origin inner) => (through change way inner).map fun inner => put name (.table origin inner) es
    | some (.tables (last :: others)) =>
      (through change way last).map fun last => put name (.tables (last :: others)) es
    | some _ => none

/-- Opens a table by its header. -/
def openTable (name : String) (es : Entries) : Option Entries :=
  match find? es name with
  | none => some (put name (.table .header []) es)
  | some (.table .passage inner) => some (put name (.table .header inner) es)
  | some _ => none

/-- Opens one more table by a repeated header. -/
def openRepeated (name : String) (es : Entries) : Option Entries :=
  match find? es name with
  | none => some (put name (.tables [[]]) es)
  | some (.tables items) => some (put name (.tables ([] :: items)) es)
  | some _ => none

/-- Gives a name its value. The name may be dotted; tables on the way are those of dotted names, and the last of
them must not be one with a header behind it. -/
def assign (v : Value) : List String → Entries → Option Entries
  | [], _ => none
  | [name], es => if (find? es name).isSome then none else some (es ++ [(name, .closed v)])
  | name :: way, es =>
    match find? es name with
    | none => (assign v way []).map fun inner => put name (.table .dotted inner) es
    | some (.table .dotted inner) => (assign v way inner).map fun inner => put name (.table .dotted inner) es
    | some (.table .passage inner) =>
      if way.length = 1 then none else (assign v way inner).map fun inner => put name (.table .passage inner) es
    | some (.tables (last :: others)) =>
      if way.length = 1 then none
      else (assign v way last).map fun last => put name (.tables (last :: others)) es
    | some _ => none

mutual

/-- The value that a name stands for at the end of a document. -/
def Node.value : Node → Value
  | .closed v => v
  | .table _ es => .table (entriesValue es)
  | .tables items => .list (itemsValue items).reverse

/-- The entries of a table at the end of a document. -/
def entriesValue : List (String × Node) → List (String × Value)
  | [] => []
  | (name, node) :: es => (name, node.value) :: entriesValue es

/-- The tables of a repeated header at the end of a document. -/
def itemsValue : List (List (String × Node)) → List Value
  | [] => []
  | es :: items => .table (entriesValue es) :: itemsValue items

end

end Agenda.Config.Toml
