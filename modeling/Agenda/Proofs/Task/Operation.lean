import Agenda.Task.Operation
import Agenda.Proofs.Store.Search

/-!
# What each operation does to a table

Every operation on a connection that has a table, in one equation: its answer, and the table it leaves. The rest
of the connection stays as it is.
-/

namespace Agenda

namespace Connection

/-- The connection with another content of its table. -/
def withTable (c : Connection) (t : Table) : Connection :=
  { c with database := c.database.withTasks t }

theorem withTable_eq {c : Connection} {t : Table} (h : c.database.table = some t) : c.withTable t = c := by
  obtain ⟨⟨table, migrated⟩, savepoints⟩ := c
  cases h
  rfl

@[simp] theorem withTable_table (c : Connection) (t : Table) : (c.withTable t).database.table = some t := rfl

end Connection

namespace Session

variable {α : Type} {statement : Database → Except QueryError α} {c d : Connection}

theorem reading_of_ok {a : α} (h : statement c.database = .ok a) : reading statement c = (.ok a, c) := by
  unfold reading
  rw [h]

theorem reading_of_error {e : QueryError} (h : statement c.database = .error e) :
    reading statement c = (.error (.store (.query e)), c) := by
  unfold reading
  rw [h]

theorem writing_of_ok {statement : Database → Except QueryError (α × Database)} {a : α} {db : Database}
    (h : statement c.database = .ok (a, db)) : writing statement c = (.ok a, { c with database := db }) := by
  unfold writing
  rw [h]

theorem writing_of_error {statement : Database → Except QueryError (α × Database)} {e : QueryError}
    (h : statement c.database = .error e) : writing statement c = (.error (.store (.query e)), c) := by
  unfold writing
  rw [h]

theorem bind_of_ok {β : Type} {work : Session α} {next : α → Session β} {a : α} (h : work c = (.ok a, d)) :
    (work >>= next) c = next a d := by
  show andThen work next c = _
  unfold andThen
  rw [h]

theorem bind_of_error {β : Type} {work : Session α} {next : α → Session β} {e : TaskError}
    (h : work c = (.error e, d)) : (work >>= next) c = (.error e, d) := by
  show andThen work next c = _
  unfold andThen
  rw [h]

end Session

namespace Table

variable {t : Table} {search : Search}

/-- The rows that the statement of a search picks. -/
def pick (t : Table) : Search → List Task
  | .all => t.rows
  | .onDate date => t.rows.filter (·.date == date.text)
  | .containing text => t.matched (Like.containing text)

theorem pick_sublist (t : Table) (search : Search) : (t.pick search).Sublist t.rows := by
  cases search with
  | all => exact List.Sublist.refl _
  | onDate date => exact List.filter_sublist
  | containing text => exact List.filter_sublist

/-- Rows of one date are stored in the order of lists, which is there that of their numbers. -/
theorem firstByDate_onDate (t : Table) (date : Date) (limit : Nat) :
    firstByDate (t.pick (.onDate date)) limit = (t.rows.filter (·.date == date.text)).take limit := by
  have hsorted : (t.pick (.onDate date)).Pairwise fun a b => Task.before a b = true := by
    refine (t.sorted.filter _).imp_of_mem fun {a b} ha hb hid => ?_
    have ha : a.date = date.text := by simpa using (List.mem_filter.mp ha).2
    have hb : b.date = date.text := by simpa using (List.mem_filter.mp hb).2
    exact Task.before_iff.mpr (Or.inr ⟨ha.trans hb.symm, le_of_lt hid⟩)
  unfold firstByDate
  rw [List.mergeSort_of_pairwise hsorted]
  rfl

end Table

namespace Task

variable (c : Connection) (t : Table)

/-- A draft that does not settle changes nothing, and neither does one that settles where there is no room; else it
adds a row under the next number. -/
theorem create_eq (draft : Draft) (today : Date) :
    create draft today (c.withTable t) =
      match draft.settle today with
      | .error e => (.error e, c.withTable t)
      | .ok entry =>
        if t.HasRoom then (.ok { toEntry := entry, id := t.lastId + 1 }, c.withTable (t.insert entry))
        else (.error (.store (.query .full)), c.withTable t) := by
  unfold create
  cases draft.settle today with
  | error e => rfl
  | ok entry =>
    have hsettled : Session.ofExcept (.ok entry) (c.withTable t) = (.ok entry, c.withTable t) := rfl
    rw [Session.bind_of_ok hsettled]
    by_cases hroom : t.HasRoom
    · have hinsert := Database.insert_of_hasRoom (c.withTable_table t) hroom entry
      simp only [if_pos hroom]
      exact Session.bind_of_ok (Session.writing_of_ok hinsert)
    · have hinsert := Database.insert_of_full (c.withTable_table t) hroom entry
      simp only [if_neg hroom]
      exact Session.bind_of_error (Session.writing_of_error hinsert)

theorem get_eq (id : Int) :
    get id (c.withTable t) =
      match t.find? id with
      | none => (.error (.noTask id), c.withTable t)
      | some task => (.ok task, c.withTable t) := by
  have hfind : Session.reading (·.find id) (c.withTable t) = (.ok (t.find? id), c.withTable t) := rfl
  unfold get
  rw [Session.bind_of_ok hfind]
  cases t.find? id <;> rfl

/-- A list gives the first of the picked rows, by date and number; it fails only for a text that makes too long a
pattern. -/
theorem list_eq (search : Option String) (limit : Nat) :
    list search limit (c.withTable t) =
      (.ok (Table.firstByDate (t.pick (Search.ofText search)) limit), c.withTable t) ∨
    ∃ text, Search.ofText search = .containing text ∧
      Like.longestPattern < (Like.containing text).utf8ByteSize ∧
      list search limit (c.withTable t) = (.error (.store (.query .patternTooLong)), c.withTable t) := by
  unfold list
  cases Search.ofText search with
  | all => exact Or.inl rfl
  | onDate date =>
    rw [Table.firstByDate_onDate]
    exact Or.inl rfl
  | containing text =>
    have hsearch := Database.search_eq (c.withTable_table t) text limit
    rcases t.matching_cases (Like.containing text) limit with hok | ⟨hlong, herr⟩
    · exact Or.inl (Session.reading_of_ok (hsearch.trans hok))
    · exact Or.inr ⟨text, rfl, hlong, Session.reading_of_error (hsearch.trans herr)⟩

/-- The draft is settled before the table is looked at. -/
theorem update_eq (id : Int) (draft : Draft) (today : Date) :
    update id draft today (c.withTable t) =
      match draft.settle today with
      | .error e => (.error e, c.withTable t)
      | .ok entry =>
        match t.find? id with
        | none => (.error (.noTask id), c.withTable t)
        | some _ => (.ok { toEntry := entry, id }, c.withTable (t.modify id fun _ => entry)) := by
  unfold update
  cases draft.settle today with
  | error e => rfl
  | ok entry =>
    show (if t.count id = 0 then Session.fail (.noTask id) else (pure { toEntry := entry, id } : Session Task))
      (c.withTable (t.modify id fun _ => entry)) = _
    cases hfind : t.find? id with
    | none =>
      rw [if_pos (Table.count_eq_zero_iff.mpr hfind), Table.modify_of_absent hfind]
      rfl
    | some task =>
      rw [if_neg (Table.count_ne_zero_of_find? hfind)]
      rfl

/-- An error inside the transaction leaves the table as it was. -/
theorem complete_eq (id : Int) (today : Date) :
    complete id today (c.withTable t) =
      match t.find? id with
      | none => (.error (.noTask id), c.withTable t)
      | some task =>
        if task.repeats = "" then (.ok .removed, c.withTable (t.erase id))
        else
          match nextDateText today task.date task.repeats with
          | .error e => (.error (.rule e), c.withTable t)
          | .ok next => (.ok (.moved next), c.withTable (t.modify id fun e => { e with date := next })) := by
  have hget := get_eq (c.withTable t).begin t id
  rw [show (c.withTable t).begin.withTable t = (c.withTable t).begin from rfl] at hget
  unfold complete Session.transaction
  cases hfind : t.find? id with
  | none =>
    rw [hfind] at hget
    rw [Session.bind_of_error hget]
    rfl
  | some task =>
    rw [hfind] at hget
    rw [Session.bind_of_ok hget]
    by_cases honce : task.repeats = ""
    · simp only [if_pos honce]
      rfl
    · simp only [if_neg honce]
      cases nextDateText today task.date task.repeats <;> rfl

theorem delete_eq (id : Int) :
    delete id (c.withTable t) =
      match t.find? id with
      | none => (.error (.noTask id), c.withTable t)
      | some _ => (.ok (), c.withTable (t.erase id)) := by
  unfold delete
  show (if t.count id = 0 then Session.fail (.noTask id) else (pure () : Session Unit)) (c.withTable (t.erase id)) = _
  cases hfind : t.find? id with
  | none =>
    rw [if_pos (Table.count_eq_zero_iff.mpr hfind), Table.erase_of_absent hfind]
    rfl
  | some task =>
    rw [if_neg (Table.count_ne_zero_of_find? hfind)]
    rfl

end Task

end Agenda
