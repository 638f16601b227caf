import Agenda.Proofs.Task.Draft
import Agenda.Proofs.Task.Operation

/-!
# The ledger behind a table

A table stands for a ledger: a finite map from numbers to entries, and the last number given. `Ledger.Step` says in
these terms what every operation answers and leaves behind. Whatever an operation does to a table is such a step
(`Operation.refines`), and an operation that fails leaves the whole connection as it was.
-/

namespace Agenda

namespace Operation

/-- The number of the task that the operation is about; making and listing tasks name none. -/
def id? : Operation → Option Int
  | create _ _ | list _ _ => none
  | get id | update id _ _ | complete id _ | delete id => some id

/-- The draft that the operation settles, and the day on which it does. -/
def draft? : Operation → Option (Draft × Date)
  | create draft today | update _ draft today => some (draft, today)
  | get _ | list _ _ | complete _ _ | delete _ => none

/-- The draft of the operation settles, if it has one. -/
def Settles (op : Operation) : Prop :=
  ∀ draft today, op.draft? = some (draft, today) → ∃ e, draft.settle today = .ok e

end Operation

/-- The entries by their numbers, and the last number given. -/
@[ext]
structure Ledger where
  entries : Finmap fun _ : Int => Entry
  lastId : Nat

namespace Ledger

/-- The ledger with an entry under a number, in the place of the one that was there. -/
def put (l : Ledger) (id : Int) (e : Entry) : Ledger :=
  { l with entries := l.entries.insert id e }

/-- The ledger without the entry of a number. -/
def remove (l : Ledger) (id : Int) : Ledger :=
  { l with entries := l.entries.erase id }

/-- The ledger with one more entry, under the next number. -/
def add (l : Ledger) (e : Entry) : Ledger :=
  { entries := l.entries.insert (l.lastId + 1) e, lastId := l.lastId + 1 }

theorem lookup_add {l : Ledger} {id : Int} (hfresh : (l.lastId + 1 : Int) ∉ l.entries) (hid : id ∈ l.entries)
    (e : Entry) : (l.add e).entries.lookup id = l.entries.lookup id :=
  Finmap.lookup_insert_of_ne _ fun heq => hfresh (heq ▸ hid)

/-- There is a number left to give. -/
def HasRoom (l : Ledger) : Prop :=
  l.lastId < Table.greatestId

/-- What an operation answers, and the ledger that it leaves. -/
inductive Step (l : Ledger) : Operation → Except TaskError Reply → Ledger → Prop where
  /-- A draft that does not settle is refused, also where its number names no task. -/
  | refused {op : Operation} {draft : Draft} {today : Date} {e : TaskError} (hop : op.draft? = some (draft, today))
      (h : draft.settle today = .error e) : Step l op (.error e) l
  | missing {op : Operation} {id : Int} (hop : op.id? = some id) (hsettles : op.Settles) (h : id ∉ l.entries) :
      Step l op (.error (.noTask id)) l
  | created {draft : Draft} {today : Date} {e : Entry} (h : draft.settle today = .ok e) (hroom : l.HasRoom)
      (hfresh : (l.lastId + 1 : Int) ∉ l.entries) :
      Step l (.create draft today) (.ok (.task { toEntry := e, id := l.lastId + 1 })) (l.add e)
  /-- Once the last number is given, a draft that settles is not stored. -/
  | full {draft : Draft} {today : Date} {e : Entry} (h : draft.settle today = .ok e) (hfull : ¬l.HasRoom) :
      Step l (.create draft today) (.error (.store (.query .full))) l
  | found {id : Int} {e : Entry} (h : l.entries.lookup id = some e) :
      Step l (.get id) (.ok (.task { toEntry := e, id })) l
  | listed {search : Option String} {limit : Nat} {tasks : List Task}
      (h : ∀ task ∈ tasks, l.entries.lookup task.id = some task.toEntry) :
      Step l (.list search limit) (.ok (.tasks tasks)) l
  | tooLong {search : Option String} {limit : Nat} {text : String} (hsearch : Search.ofText search = .containing text)
      (h : Like.longestPattern < (Like.containing text).utf8ByteSize) :
      Step l (.list search limit) (.error (.store (.query .patternTooLong))) l
  | updated {id : Int} {draft : Draft} {today : Date} {e : Entry} (h : draft.settle today = .ok e)
      (hid : id ∈ l.entries) : Step l (.update id draft today) (.ok (.task { toEntry := e, id })) (l.put id e)
  | removed {id : Int} {today : Date} {e : Entry} (h : l.entries.lookup id = some e) (honce : e.repeats = "") :
      Step l (.complete id today) (.ok (.completion .removed)) (l.remove id)
  | stuck {id : Int} {today : Date} {e : Entry} {cause : RuleError} (h : l.entries.lookup id = some e)
      (hrepeats : e.repeats ≠ "") (hnext : nextDateText today e.date e.repeats = .error cause) :
      Step l (.complete id today) (.error (.rule cause)) l
  | moved {id : Int} {today : Date} {e : Entry} {date : String} (h : l.entries.lookup id = some e)
      (hrepeats : e.repeats ≠ "") (hnext : nextDateText today e.date e.repeats = .ok date) :
      Step l (.complete id today) (.ok (.completion (.moved date))) (l.put id { e with date })
  | deleted {id : Int} (hid : id ∈ l.entries) : Step l (.delete id) (.ok .deleted) (l.remove id)

namespace Step

variable {l l' : Ledger} {op : Operation} {answer : Except TaskError Reply} {id : Int}

/-- A step reports that a task is missing just if the operation names a number without an entry and has no draft
that is refused before. -/
theorem notFound_iff (h : l.Step op answer l') :
    (∃ what, answer = .error (.notFound what)) ↔ ∃ id, op.id? = some id ∧ id ∉ l.entries ∧ op.Settles := by
  have absent : ∀ {id e}, l.entries.lookup id = some e → id ∉ l.entries → False := fun hlookup hno =>
    hno (Finmap.mem_of_lookup_eq_some hlookup)
  constructor
  · rintro ⟨what, rfl⟩
    cases h with
    | refused hop hsettle => exact absurd hsettle (Draft.settle_ne_notFound _ _ what)
    | missing hop hsettles hno => exact ⟨_, hop, hno, hsettles⟩
  · rintro ⟨id, hop, hno, hsettles⟩
    cases h with
    | refused hdraft hsettle =>
      obtain ⟨e, he⟩ := hsettles _ _ hdraft
      rw [hsettle] at he
      cases he
    | missing => exact ⟨_, rfl⟩
    | created | full | listed | tooLong => cases hop
    | found hlookup | removed hlookup | stuck hlookup | moved hlookup =>
      cases hop
      exact (absent hlookup hno).elim
    | updated _ hid | deleted hid =>
      cases hop
      exact absurd hid hno

/-- A step touches no entry but the one of the number that the operation names. -/
theorem lookup_of_ne (h : l.Step op answer l') (hid : id ∈ l.entries) (hne : op.id? ≠ some id) :
    l'.entries.lookup id = l.entries.lookup id := by
  cases h with
  | created _ _ hfresh => exact lookup_add hfresh hid _
  | updated | moved => exact Finmap.lookup_insert_of_ne _ fun heq => hne (congrArg some heq.symm)
  | removed | deleted => exact Finmap.lookup_erase_ne fun heq => hne (congrArg some heq.symm)
  | refused | missing | full | found | listed | tooLong | stuck => rfl

end Step

end Ledger

/-! ### The ledger of a table -/

namespace Table

variable {t : Table} {id : Int} {r : Task} {e : Entry} {f : Entry → Entry}

/-- What the table stands for. -/
def ledger (t : Table) : Ledger where
  entries := (t.rows.map fun r => (⟨r.id, r.toEntry⟩ : Sigma fun _ : Int => Entry)).toFinmap
  lastId := t.lastId

theorem lookup_ledger (t : Table) (id : Int) : t.ledger.entries.lookup id = (t.find? id).map Task.toEntry := by
  unfold ledger find?
  rw [Finmap.dlookup_list_toFinmap]
  induction t.rows with
  | nil => rfl
  | cons r rows ih =>
    by_cases h : id = r.id
    · subst h
      simp [List.dlookup_cons_eq]
    · have hne : (r.id == id) = false := by simpa using Ne.symm h
      rw [List.map_cons, List.dlookup_cons_ne _ _ h, ih, List.find?_cons, hne]

theorem notMem_ledger_iff : id ∉ t.ledger.entries ↔ t.find? id = none := by
  rw [← Finmap.lookup_eq_none, lookup_ledger, Option.map_eq_none_iff]

theorem mem_ledger_of_find? (h : t.find? id = some r) : id ∈ t.ledger.entries := by
  by_contra hno
  rw [notMem_ledger_iff.mp hno] at h
  cases h

theorem lookup_ledger_of_find? (h : t.find? id = some r) : t.ledger.entries.lookup id = some r.toEntry := by
  rw [lookup_ledger, h]
  rfl

theorem lookup_ledger_eq_some_iff : t.ledger.entries.lookup id = some e ↔ { toEntry := e, id } ∈ t.rows := by
  rw [lookup_ledger, Option.map_eq_some_iff]
  constructor
  · rintro ⟨r, hfind, rfl⟩
    obtain ⟨hr, rfl⟩ := find?_eq_some_iff.mp hfind
    exact hr
  · intro hr
    exact ⟨_, find?_eq_some_iff.mpr ⟨hr, rfl⟩, rfl⟩

theorem ledger_insert (h : t.HasRoom) (e : Entry) : (t.insert e).ledger = t.ledger.add e := by
  refine Ledger.ext (Finmap.ext_lookup fun i => ?_) (lastId_insert h e)
  show _ = (t.ledger.entries.insert ((t.lastId : Int) + 1) e).lookup i
  rw [lookup_ledger, find?_insert h]
  by_cases hi : i = t.lastId + 1
  · rw [hi, if_pos rfl, Finmap.lookup_insert]
    rfl
  · rw [if_neg hi, Finmap.lookup_insert_of_ne _ hi, lookup_ledger]

theorem ledger_modify (h : t.find? id = some r) : (t.modify id f).ledger = t.ledger.put id (f r.toEntry) := by
  refine Ledger.ext (Finmap.ext_lookup fun i => ?_) rfl
  show _ = (t.ledger.entries.insert id (f r.toEntry)).lookup i
  rw [lookup_ledger, find?_modify, Option.map_map]
  by_cases hi : i = id
  · rw [hi, h, Finmap.lookup_insert]
    simp [changeRow, (find?_eq_some_iff.mp h).2]
  · rw [Finmap.lookup_insert_of_ne _ hi, lookup_ledger]
    cases hfind : t.find? i with
    | none => rfl
    | some x =>
      have hx : x.id ≠ id := fun heq => hi ((find?_eq_some_iff.mp hfind).2.symm.trans heq)
      simp [changeRow, hx]

theorem ledger_erase (t : Table) (id : Int) : (t.erase id).ledger = t.ledger.remove id := by
  refine Ledger.ext (Finmap.ext_lookup fun i => ?_) rfl
  show _ = (t.ledger.entries.erase id).lookup i
  rw [lookup_ledger, find?_erase]
  by_cases hi : i = id
  · rw [hi, if_pos rfl, Finmap.lookup_erase]
    rfl
  · rw [if_neg hi, Finmap.lookup_erase_ne hi, lookup_ledger]

end Table

/-! ### Every operation is a step of the ledger -/

namespace Operation

variable {c : Connection} {t u : Table} {op : Operation} {id : Int} {e : TaskError} {reply : Reply}

/-- On a connection with that table the operation makes a step of the ledger, and no step at all if it fails. -/
def Refines (op : Operation) (c : Connection) (t : Table) : Prop :=
  ∃ answer u, op.run (c.withTable t) = (answer, c.withTable u) ∧ t.ledger.Step op answer u.ledger ∧
    ∀ e, answer = .error e → u = t

theorem Refines.of_error (hrun : op.run (c.withTable t) = (.error e, c.withTable t))
    (hstep : t.ledger.Step op (.error e) t.ledger) : op.Refines c t :=
  ⟨.error e, t, hrun, hstep, fun _ _ => rfl⟩

theorem Refines.of_ok (hrun : op.run (c.withTable t) = (.ok reply, c.withTable u))
    (hstep : t.ledger.Step op (.ok reply) u.ledger) : op.Refines c t :=
  ⟨.ok reply, u, hrun, hstep, nofun⟩

theorem Refines.of_missing (hrun : op.run (c.withTable t) = (.error (.noTask id), c.withTable t))
    (hop : op.id? = some id) (hsettles : op.Settles) (hfind : t.find? id = none) : op.Refines c t :=
  .of_error hrun (.missing hop hsettles (Table.notMem_ledger_iff.mpr hfind))

theorem create_refines (c : Connection) (t : Table) (draft : Draft) (today : Date) :
    (create draft today).Refines c t := by
  have hrun := Task.create_eq c t draft today
  cases hsettle : draft.settle today with
  | error e =>
    rw [hsettle] at hrun
    exact .of_error (Session.bind_of_error hrun) (.refused rfl hsettle)
  | ok entry =>
    rw [hsettle] at hrun
    by_cases hroom : t.HasRoom
    · simp only [if_pos hroom] at hrun
      have hfresh : (t.lastId + 1 : Int) ∉ t.ledger.entries :=
        Table.notMem_ledger_iff.mpr (Table.find?_of_lastId_lt (Int.lt_succ _))
      refine .of_ok (Session.bind_of_ok hrun) ?_
      rw [Table.ledger_insert hroom]
      exact .created hsettle hroom hfresh
    · simp only [if_neg hroom] at hrun
      exact .of_error (Session.bind_of_error hrun) (.full hsettle hroom)

theorem get_refines (c : Connection) (t : Table) (id : Int) : (get id).Refines c t := by
  have hrun := Task.get_eq c t id
  cases hfind : t.find? id with
  | none =>
    rw [hfind] at hrun
    exact .of_missing (Session.bind_of_error hrun) rfl nofun hfind
  | some task =>
    rw [hfind] at hrun
    obtain rfl := (Table.find?_eq_some_iff.mp hfind).2
    exact .of_ok (Session.bind_of_ok hrun) (.found (Table.lookup_ledger_of_find? hfind))

theorem list_refines (c : Connection) (t : Table) (search : Option String) (limit : Nat) :
    (list search limit).Refines c t := by
  rcases Task.list_eq c t search limit with hrun | ⟨text, hsearch, hlong, hrun⟩
  · refine .of_ok (Session.bind_of_ok hrun) (.listed fun task htask => ?_)
    exact Table.lookup_ledger_eq_some_iff.mpr ((t.pick_sublist _).mem (Table.mem_of_mem_firstByDate htask))
  · exact .of_error (Session.bind_of_error hrun) (.tooLong hsearch hlong)

theorem update_refines (c : Connection) (t : Table) (id : Int) (draft : Draft) (today : Date) :
    (update id draft today).Refines c t := by
  have hrun := Task.update_eq c t id draft today
  cases hsettle : draft.settle today with
  | error e =>
    rw [hsettle] at hrun
    exact .of_error (Session.bind_of_error hrun) (.refused rfl hsettle)
  | ok entry =>
    rw [hsettle] at hrun
    cases hfind : t.find? id with
    | none =>
      rw [hfind] at hrun
      refine .of_missing (Session.bind_of_error hrun) rfl ?_ hfind
      rintro _ _ ⟨⟩
      exact ⟨entry, hsettle⟩
    | some task =>
      rw [hfind] at hrun
      refine .of_ok (Session.bind_of_ok hrun) ?_
      rw [Table.ledger_modify hfind]
      exact .updated hsettle (Table.mem_ledger_of_find? hfind)

theorem complete_refines (c : Connection) (t : Table) (id : Int) (today : Date) :
    (complete id today).Refines c t := by
  have hrun := Task.complete_eq c t id today
  cases hfind : t.find? id with
  | none =>
    rw [hfind] at hrun
    exact .of_missing (Session.bind_of_error hrun) rfl nofun hfind
  | some task =>
    rw [hfind] at hrun
    have hlookup := Table.lookup_ledger_of_find? hfind
    by_cases honce : task.repeats = ""
    · simp only [if_pos honce] at hrun
      refine .of_ok (Session.bind_of_ok hrun) ?_
      rw [Table.ledger_erase]
      exact .removed hlookup honce
    · simp only [if_neg honce] at hrun
      cases hnext : nextDateText today task.date task.repeats with
      | error cause =>
        rw [hnext] at hrun
        exact .of_error (Session.bind_of_error hrun) (.stuck hlookup honce hnext)
      | ok next =>
        rw [hnext] at hrun
        refine .of_ok (Session.bind_of_ok hrun) ?_
        rw [Table.ledger_modify hfind]
        exact .moved hlookup honce hnext

theorem delete_refines (c : Connection) (t : Table) (id : Int) : (delete id).Refines c t := by
  have hrun := Task.delete_eq c t id
  cases hfind : t.find? id with
  | none =>
    rw [hfind] at hrun
    exact .of_missing (Session.bind_of_error hrun) rfl nofun hfind
  | some task =>
    rw [hfind] at hrun
    refine .of_ok (Session.bind_of_ok hrun) ?_
    rw [Table.ledger_erase]
    exact .deleted (Table.mem_ledger_of_find? hfind)

theorem refines (op : Operation) (c : Connection) (t : Table) : op.Refines c t := by
  cases op with
  | create draft today => exact create_refines c t draft today
  | get id => exact get_refines c t id
  | list search limit => exact list_refines c t search limit
  | update id draft today => exact update_refines c t id draft today
  | complete id today => exact complete_refines c t id today
  | delete id => exact delete_refines c t id

/-- An operation on a connection with a table makes a step of its ledger and leaves a table. -/
theorem run_step (h : c.database.table = some t) (op : Operation) :
    ∃ u, (op.run c).2.database.table = some u ∧ t.ledger.Step op (op.run c).1 u.ledger := by
  obtain ⟨answer, u, hrun, hstep, -⟩ := op.refines c t
  rw [Connection.withTable_eq h] at hrun
  rw [hrun]
  exact ⟨u, rfl, hstep⟩

/-- Every operation on a connection with a table makes a step of its ledger and leaves the rest of the connection as
it is. It changes nothing at all if it fails; it finds a task missing just if it names a number without an entry,
after its draft has settled; and it touches no other entry. -/
theorem run_refines_ledger {c : Connection} {t : Table} (h : c.database.table = some t) (op : Operation) :
    ∃ u, (op.run c).2 = c.withTable u ∧
      t.ledger.Step op (op.run c).1 u.ledger ∧
      (∀ e, (op.run c).1 = .error e → (op.run c).2 = c) ∧
      ((∃ what, (op.run c).1 = .error (.notFound what)) ↔
        ∃ id, op.id? = some id ∧ id ∉ t.ledger.entries ∧ op.Settles) ∧
      ∀ id ∈ t.ledger.entries, op.id? ≠ some id → u.ledger.entries.lookup id = t.ledger.entries.lookup id := by
  obtain ⟨answer, u, hrun, hstep, herror⟩ := op.refines c t
  rw [Connection.withTable_eq h] at hrun
  rw [hrun]
  refine ⟨u, rfl, hstep, fun e he => ?_, hstep.notFound_iff, fun id hid hne => hstep.lookup_of_ne hid hne⟩
  rw [herror e he]
  exact Connection.withTable_eq h

/-- A table whose one row no draft makes: neither its date nor its rule can be read. -/
def unreadableTable : Table :=
  Table.empty.insert { date := "someday", title := "", comment := "", repeats := "q" }

/-- That table in use. -/
def unreadable : Connection where
  database := { table := some unreadableTable, migrated := true }

/-- Marking that row's task as done. -/
def completeUnreadable : Operation :=
  complete 1 Date.newYear

/-- Giving that row's task a date and a rule. -/
def rewriteUnreadable : Operation :=
  update 1 { date := "20230101", title := "water the plants", repeats := "d 3" } Date.newYear

/-- What that makes of the row. -/
def rewritten : Task where
  date := "20230101"
  title := "water the plants"
  comment := ""
  repeats := "d 3"
  id := 1

/-- Making a task beside it. -/
def addBeside : Operation :=
  create { title := "buy seeds" } Date.newYear

/-- As it is, the task cannot be done: that fails inside the transaction, and the connection is what it was. Rewritten, it
moves on. A task beside it gets the next number. -/
theorem run_refines_ledger_unreadable :
    unreadable.database.table = some unreadableTable ∧
      (completeUnreadable.run unreadable).1 = .error (.rule (.invalidDate "someday")) ∧
      (completeUnreadable.run unreadable).2 = unreadable ∧
      (∃ u, (rewriteUnreadable.run unreadable).2 = unreadable.withTable u ∧
        unreadableTable.ledger.Step rewriteUnreadable (.ok (.task rewritten)) u.ledger ∧
        ∃ v, (completeUnreadable.run (unreadable.withTable u)).2 = unreadable.withTable v ∧
          u.ledger.Step completeUnreadable (.ok (.completion (.moved "20230104"))) v.ledger) ∧
      ∃ u : Table, unreadableTable.ledger.Step addBeside
          (.ok (.task { date := "20230101", title := "buy seeds", comment := "", repeats := "", id := 2 })) u.ledger ∧
        u.ledger.entries.lookup 1 = unreadableTable.ledger.entries.lookup 1 := by
  have hfails : (completeUnreadable.run unreadable).1 = .error (.rule (.invalidDate "someday")) := by rfl
  have hrewritten : (rewriteUnreadable.run unreadable).1 = .ok (.task rewritten) := by rfl
  have hmoved : (completeUnreadable.run (rewriteUnreadable.run unreadable).2).1 =
      .ok (.completion (.moved "20230104")) := by decide +kernel
  have hadded : (addBeside.run unreadable).1 =
      .ok (.task { date := "20230101", title := "buy seeds", comment := "", repeats := "", id := 2 }) := by rfl
  have htable : unreadable.database.table = some unreadableTable := rfl
  have hthere : (1 : Int) ∈ unreadableTable.ledger.entries :=
    Finmap.mem_of_lookup_eq_some (Table.lookup_ledger_eq_some_iff.mpr (List.mem_singleton.mpr rfl))
  obtain ⟨-, -, -, hkept, -⟩ := run_refines_ledger htable completeUnreadable
  obtain ⟨u, hu, hrewrite, -⟩ := run_refines_ledger htable rewriteUnreadable
  obtain ⟨v, hv, hmove, -⟩ := run_refines_ledger (c := unreadable.withTable u) rfl completeUnreadable
  obtain ⟨w, -, hadd, -, -, hbeside⟩ := run_refines_ledger htable addBeside
  rw [hrewritten] at hrewrite
  rw [← hu, hmoved] at hmove
  rw [hadded] at hadd
  exact ⟨htable, hfails, hkept _ hfails, ⟨u, hu, hrewrite, v, hv, hmove⟩, w, hadd, hbeside 1 hthere nofun⟩

end Operation

end Agenda
