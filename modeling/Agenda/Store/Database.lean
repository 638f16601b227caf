import Agenda.Number.Decimal
import Agenda.Store.Error
import Agenda.Store.Like
import Agenda.Task.Task

/-!
# The database of tasks

One table of tasks, whose rows are numbered from 1 in the order in which they are inserted. A number is never
given twice: the table remembers the last one. Numbers are words of 64 bits, so once the greatest one is given no row
can be inserted. A statement reads the database, or changes it and answers with the new one; when it fails nothing has
changed.
-/

namespace Agenda

/-- The greatest number that a row can have. -/
def Table.greatestId : Nat := 9223372036854775807

/-- The rows, in the order of their numbers, and the last number given, which no row's number exceeds. -/
structure Table where
  rows : List Task := []
  lastId : Nat := 0
  sorted : rows.Pairwise (fun a b => a.id < b.id) := by simp
  le_lastId : ∀ r ∈ rows, r.id ≤ lastId := by simp
  lastId_le : lastId ≤ Table.greatestId := by simp
  fitsWord : ∀ r ∈ rows, Number.fitsWord r.id = true := by simp
deriving DecidableEq

/-- A database file: the table, unless it was dropped or never made, and whether the schema was ever applied. -/
structure Database where
  table : Option Table := none
  migrated : Bool := false
deriving DecidableEq

/-! ### The order of lists -/

/-- Tasks in order of their date texts, and of their numbers on the same date. -/
def Task.before (a b : Task) : Bool :=
  a.date < b.date || (a.date == b.date && a.id ≤ b.id)

namespace Table

/-- The table without rows, before any number is given. -/
def empty : Table where

/-- The row of that number. -/
def find? (t : Table) (id : Int) : Option Task :=
  t.rows.find? (·.id == id)

/-- There is a number left to give. -/
def HasRoom (t : Table) : Prop :=
  t.lastId < greatestId

instance (t : Table) : Decidable t.HasRoom :=
  inferInstanceAs (Decidable (_ < _))

/-- The next number is a word of 64 bits. -/
theorem HasRoom.fitsWord {t : Table} (h : t.HasRoom) : Number.fitsWord (t.lastId + 1) = true := by
  unfold HasRoom greatestId at h
  unfold Number.fitsWord
  rw [Bool.and_eq_true, decide_eq_true_eq, decide_eq_true_eq]
  omega

/-- The table with one more row, under the next number. A table without room stays as it is. -/
def insert (t : Table) (e : Entry) : Table :=
  if h : t.HasRoom then
    { rows := t.rows ++ [{ toEntry := e, id := t.lastId + 1 }]
      lastId := t.lastId + 1
      sorted := by
        refine List.pairwise_append.mpr ⟨t.sorted, List.pairwise_singleton _ _, fun a ha b hb => ?_⟩
        obtain rfl := List.mem_singleton.mp hb
        exact Int.lt_add_one_of_le (t.le_lastId a ha)
      le_lastId := fun r hr => by
        rcases List.mem_append.mp hr with hr | hr
        · have := t.le_lastId r hr
          omega
        · obtain rfl := List.mem_singleton.mp hr
          exact Int.le_refl _
      lastId_le := h
      fitsWord := fun r hr => by
        rcases List.mem_append.mp hr with hr | hr
        · exact t.fitsWord r hr
        · obtain rfl := List.mem_singleton.mp hr
          exact h.fitsWord }
  else t

/-- The row with its entry changed, if it has that number. -/
def changeRow (id : Int) (f : Entry → Entry) (r : Task) : Task :=
  if r.id = id then { toEntry := f r.toEntry, id := r.id } else r

@[simp] theorem changeRow_id (id : Int) (f : Entry → Entry) (r : Task) : (changeRow id f r).id = r.id := by
  unfold changeRow
  split <;> rfl

/-- The table with the rows of that number changed. -/
def modify (t : Table) (id : Int) (f : Entry → Entry) : Table where
  rows := t.rows.map (changeRow id f)
  lastId := t.lastId
  sorted := List.pairwise_map.mpr (by simpa using t.sorted)
  le_lastId r hr := by
    obtain ⟨r₀, hr₀, rfl⟩ := List.mem_map.mp hr
    rw [changeRow_id]
    exact t.le_lastId r₀ hr₀
  lastId_le := t.lastId_le
  fitsWord r hr := by
    obtain ⟨r₀, hr₀, rfl⟩ := List.mem_map.mp hr
    rw [changeRow_id]
    exact t.fitsWord r₀ hr₀

/-- The table without the rows of that number. -/
def erase (t : Table) (id : Int) : Table where
  rows := t.rows.filter (·.id != id)
  lastId := t.lastId
  sorted := t.sorted.filter _
  le_lastId r hr := t.le_lastId r (List.mem_filter.mp hr).1
  lastId_le := t.lastId_le
  fitsWord r hr := t.fitsWord r (List.mem_filter.mp hr).1

/-- How many rows have that number. -/
def count (t : Table) (id : Int) : Nat :=
  t.rows.countP (·.id == id)

/-- The first rows by date, then number. -/
def firstByDate (rows : List Task) (limit : Nat) : List Task :=
  (rows.mergeSort Task.before).take limit

/-- The rows whose title or comment matches a pattern. A pattern that is too long fails on the first row that is
looked at. -/
def matching (t : Table) (pattern : String) (limit : Nat) : Except QueryError (List Task) :=
  if Like.longestPattern < pattern.utf8ByteSize && !t.rows.isEmpty && limit != 0 then .error .patternTooLong
  else
    let compiled := Like.compile pattern
    .ok (firstByDate (t.rows.filter fun r => Like.accepts compiled r.title || Like.accepts compiled r.comment) limit)

end Table

namespace Database

/-- Applies the schema to a database it was never applied to. It makes the table, which must not be there yet. -/
def migrate (db : Database) : Except QueryError Database :=
  if db.migrated then .ok db
  else if db.table.isSome then .error .tableExists
  else .ok { table := some Table.empty, migrated := true }

/-- A new database with the schema applied. -/
def fresh : Database where
  table := some Table.empty
  migrated := true

example : migrate {} = .ok fresh := rfl

/-- The table, which every statement needs. -/
def tasks (db : Database) : Except QueryError Table :=
  match db.table with
  | some t => .ok t
  | none => .error .noTable

/-- The database with another content of its table. -/
def withTasks (db : Database) (t : Table) : Database :=
  { db with table := some t }

/-! ### Statements that read -/

/-- The task of that number. -/
def find (db : Database) (id : Int) : Except QueryError (Option Task) := do
  return (← db.tasks).find? id

/-- The first tasks by date, then number. -/
def list (db : Database) (limit : Nat) : Except QueryError (List Task) := do
  return Table.firstByDate (← db.tasks).rows limit

/-- The first tasks of that date, by number. -/
def listOn (db : Database) (date : String) (limit : Nat) : Except QueryError (List Task) := do
  return ((← db.tasks).rows.filter (·.date == date)).take limit

/-- The first tasks, by date, then number, whose title or comment contains the needle. -/
def search (db : Database) (needle : String) (limit : Nat) : Except QueryError (List Task) := do
  (← db.tasks).matching (Like.containing needle) limit

/-! ### Statements that write -/

/-- Stores an entry and answers with its number. -/
def insert (db : Database) (e : Entry) : Except QueryError (Int × Database) := do
  let t ← db.tasks
  if t.HasRoom then return (t.lastId + 1, db.withTasks (t.insert e)) else .error .full

/-- Puts an entry in the place of the one of that number, and answers with the number of rows changed. -/
def replace (db : Database) (id : Int) (e : Entry) : Except QueryError (Nat × Database) := do
  let t ← db.tasks
  return (t.count id, db.withTasks (t.modify id fun _ => e))

/-- Gives the task of that number another date, and answers with the number of rows changed. -/
def redate (db : Database) (id : Int) (date : String) : Except QueryError (Nat × Database) := do
  let t ← db.tasks
  return (t.count id, db.withTasks (t.modify id fun e => { e with date := date }))

/-- Removes the task of that number, and answers with the number of rows removed. -/
def remove (db : Database) (id : Int) : Except QueryError (Nat × Database) := do
  let t ← db.tasks
  return (t.count id, db.withTasks (t.erase id))

/-- Removes the table itself. -/
def dropTable (db : Database) : Except QueryError Database := do
  let _ ← db.tasks
  return { db with table := none }

end Database

end Agenda
