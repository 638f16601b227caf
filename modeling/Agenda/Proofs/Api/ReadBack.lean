import Agenda.Proofs.Api.Client

/-!
# Tasks sent back and forth

A task that is made is answered with its fields as they were sent, and looking at it gives the same answer as long as
nothing that is asked for changes it (`Server.created_reads_back`). The answer, sent back as it is, changes nothing
(`Served.put_got`).
-/

namespace Agenda

/-! ### Operations that leave a task alone -/

namespace Operation

/-- The operation is not one that changes, completes or deletes the task of that number. -/
def NotOn (id : Int) : Operation → Prop
  | update i _ _ | complete i _ | delete i => i ≠ id
  | create _ _ | get _ | list _ _ => True

/-- On that database the operation leaves the task of that number alone: it is about something else, or fails, or comes
to nothing for the task. -/
inductive LeavesAlone (id : Int) (db : Database) (op : Operation) : Prop where
  | elsewhere (h : op.NotOn id)
  | failed {e : TaskError} (h : (op.run { database := db }).1 = .error e)
  | kept (h : (op.run { database := db }).2.database.find id = db.find id)

end Operation

namespace Ledger.Step

variable {l l' : Ledger} {op : Operation} {answer : Except TaskError Reply} {id : Int} {e : Entry}

theorem lookup_of_notOn (h : l.Step op answer l') (hop : op.NotOn id) (he : l.entries.lookup id = some e) :
    l'.entries.lookup id = some e := by
  cases h with
  | refused | missing | full | found | listed | tooLong | stuck => exact he
  | created _ _ hfresh => exact (lookup_add hfresh (Finmap.mem_of_lookup_eq_some he) _).trans he
  | updated | moved => exact (Finmap.lookup_insert_of_ne _ (Ne.symm hop)).trans he
  | removed | deleted => exact (Finmap.lookup_erase_ne (Ne.symm hop)).trans he

end Ledger.Step

namespace Api

variable {db db' : Database} {t : Table} {task : Task} {id : Int}

theorem find_eq_some_iff (ht : db.table = some t) : db.find id = .ok (some task) ↔ t.find? id = some task := by
  unfold Database.find Database.tasks
  rw [ht]
  exact ⟨fun h => Except.ok.inj h, fun h => congrArg Except.ok h⟩

theorem find?_of_leavesAlone {op : Operation} (hop : op.LeavesAlone id db) (ht : db.table = some t)
    (hfind : t.find? id = some task) :
    ∃ u, (op.run { database := db }).2.database.table = some u ∧ u.find? id = some task := by
  obtain ⟨answer, u, hrun, hstep, herror⟩ := op.refines { database := db } t
  rw [Connection.withTable_eq ht] at hrun
  refine ⟨u, congrArg (·.2.database.table) hrun, ?_⟩
  cases hop with
  | elsewhere hop =>
    obtain ⟨hrow, rfl⟩ := Table.find?_eq_some_iff.mp hfind
    have hlookup := hstep.lookup_of_notOn hop (Table.lookup_ledger_eq_some_iff.mpr hrow)
    exact Table.find?_eq_some_iff.mpr ⟨Table.lookup_ledger_eq_some_iff.mp hlookup, rfl⟩
  | failed herr =>
    rw [hrun] at herr
    obtain rfl := herror _ herr
    exact hfind
  | kept hkept =>
    rw [hrun] at hkept
    exact (find_eq_some_iff rfl).mp (hkept.trans ((find_eq_some_iff ht).mpr hfind))

theorem find?_of_exchanges (h : Relation.ReflTransGen (Exchange fun db op => op.LeavesAlone id db) db db')
    (ht : db.table = some t) (hfind : t.find? id = some task) :
    ∃ u, db'.table = some u ∧ u.find? id = some task := by
  -- Along the exchanges the row stays; one that does anything runs an operation, which leaves the row alone.
  induction h with
  | refl => exact ⟨t, ht, hfind⟩
  | tail _ hexchange ih =>
    obtain ⟨u, hu, hkept⟩ := ih
    rcases hexchange.cases with rfl | ⟨op, hop, rfl⟩
    · exact ⟨u, hu, hkept⟩
    · exact find?_of_leavesAlone hop hu hkept

/-! ### Making a task -/

namespace Server

variable {server : Server} {request : Http.Request}

theorem handle_created (h : server.Healthy) (ht : db.table = some t)
    (hroute : Route.of? request.method request.target.segments = some .createTask)
    (hcreated : (server.handle request db).1.status = 201) :
    ∃ draft today entry, newDraft? request = some draft ∧ server.today = .ok today ∧ draft.settle today = .ok entry ∧
      t.HasRoom ∧ server.handle request db =
        (.json 201 (taskValue { toEntry := entry, id := t.lastId + 1 }), db.withTasks (t.insert entry)) := by
  rcases server.accounted h request db with ⟨op, hasks, hhandle⟩ | ⟨hno, -⟩
  · cases hasks with
    | get hr | update hr | delete hr | complete hr | list hr => cases hroute.symm.trans hr
    | @create draft today hroute hdraft htoday =>
      obtain ⟨answer, u, hrun, hstep, -⟩ := (Operation.create draft today).refines { database := db } t
      rw [Connection.withTable_eq ht] at hrun
      rw [hhandle, hrun] at hcreated
      cases answer with
      | error e =>
        have hfails := le_status_response_error (.create draft today) e
        dsimp only at hcreated
        omega
      | ok reply =>
        generalize u.ledger = l at hstep
        cases hstep with
        | created hsettle hroom =>
          exact ⟨draft, today, _, hdraft, htoday, hsettle, hroom,
            handle_of_settle h ht hroom (.create hroute hdraft htoday) hsettle⟩
  · exact absurd hcreated hno

/-- A task that is made is answered with the title, the comment and the rule that were sent and the date that they
settle on. As long as nothing that is asked for changes it, whatever happens to other tasks, looking at it by the number
in the answer gives that answer again. -/
theorem created_reads_back (h : server.Healthy) (ht : db.table = some t)
    (hroute : Route.of? request.method request.target.segments = some .createTask)
    (hcreated : (server.handle request db).1.status = 201) :
    ∃ (draft : Draft) (today : Date) (entry : Entry) (ms : List (Option String × Json.Value)) (id : Int),
      newDraft? request = some draft ∧ server.today = .ok today ∧ draft.settle today = .ok entry ∧
      Json.Value.parse (server.handle request db).1.body.toList = some (.object ms) ∧
      Body.field? ms "title" = some draft.title ∧ Body.field? ms "comment" = some draft.comment ∧
      Body.field? ms "repeat" = some draft.repeats ∧ Body.field? ms "date" = some entry.date ∧
      Body.field? ms "id" = some (idText id) ∧
      ∀ (db' : Database) (later : Server),
        Relation.ReflTransGen (Exchange fun db op => op.LeavesAlone id db) (server.handle request db).2 db' →
          later.Healthy →
            (later.handle (look id) db').1.status = 200 ∧
              (later.handle (look id) db').1.body = (server.handle request db).1.body := by
  obtain ⟨draft, today, entry, hdraft, htoday, hsettle, hroom, hhandle⟩ := handle_created h ht hroute hcreated
  obtain ⟨-, due, -, hentry⟩ := Draft.settle_eq_ok hsettle
  obtain ⟨hid, hdate, htitle, hcomment, hrepeat⟩ := fields_members { toEntry := entry, id := t.lastId + 1 }
  rw [hhandle]
  refine ⟨draft, today, entry, members { toEntry := entry, id := t.lastId + 1 }, t.lastId + 1, hdraft, htoday, hsettle,
    Json.Value.parse_text (numberless_taskValue _), ?_, ?_, ?_, hdate, hid, ?_⟩
  · rw [htitle, hentry]
  · rw [hcomment, hentry]
  · rw [hrepeat, hentry]
  · intro db' later hbetween hlater
    have hfound : (t.insert entry).find? (t.lastId + 1) = some { toEntry := entry, id := t.lastId + 1 } := by
      rw [Table.find?_insert hroom, if_pos rfl]
    obtain ⟨u, hu, hkept⟩ := find?_of_exchanges hbetween rfl hfound
    rw [handle_look hlater hu hkept]
    exact ⟨rfl, rfl⟩

/-- A draft with quotes, a backslash, a NUL and a tab, and what it settles on. -/
def quoted : Draft where
  date := "20230101"
  title := "say \"hi\" \\ \x00"
  comment := "caf\u00e9\ttoday"

@[inherit_doc quoted] def quotedEntry : Entry where
  date := "20230101"
  title := quoted.title
  comment := quoted.comment
  repeats := ""

@[inherit_doc quoted] def quotedTask : Task where
  toEntry := quotedEntry
  id := 1

theorem settle_quoted : quoted.settle Date.newYear = .ok quotedEntry := by decide +kernel

/-- The request that sends it. -/
def sendQuoted : Http.Request :=
  send .post "application/json" (draftValue quoted).text

theorem asks_sendQuoted : onNewYear.Asks sendQuoted (.create quoted Date.newYear) :=
  asks_post rfl (by decide) (by decide +kernel)

/-- The database with the task that it makes. -/
def withQuoted : Database :=
  Database.fresh.withTasks (Table.empty.insert quotedEntry)

theorem handle_sendQuoted : onNewYear.handle sendQuoted Database.fresh =
    (.json 201 (taskValue quotedTask), withQuoted) := by
  have htable : Database.fresh.table = some Table.empty := rfl
  have htask : { toEntry := quotedEntry, id := Table.empty.lastId + 1 } = quotedTask := rfl
  rw [handle_of_settle healthy_onNewYear htable (by decide) asks_sendQuoted settle_quoted, htask, withQuoted]

/-- What is answered for the new task tells its texts as they were sent, and so does a look at it. -/
theorem created_reads_back_quoted :
    onNewYear.Healthy ∧ Database.fresh.table = some Table.empty ∧
      (onNewYear.handle sendQuoted Database.fresh).1.status = 201 ∧
      ∃ (ms : List (Option String × Json.Value)) (id : Int),
        Json.Value.parse (onNewYear.handle sendQuoted Database.fresh).1.body.toList = some (.object ms) ∧
        Body.field? ms "title" = some quoted.title ∧ Body.field? ms "comment" = some quoted.comment ∧
        Body.field? ms "repeat" = some "" ∧ Body.field? ms "date" = some "20230101" ∧
        Body.field? ms "id" = some (idText id) ∧
        (onNewYear.handle (look id) (onNewYear.handle sendQuoted Database.fresh).2).1.body =
          (onNewYear.handle sendQuoted Database.fresh).1.body := by
  have hroute : Route.of? sendQuoted.method sendQuoted.target.segments = some .createTask := by
    unfold sendQuoted
    rw [target_send]
    rfl
  have hcreated : (onNewYear.handle sendQuoted Database.fresh).1.status = 201 := by
    rw [handle_sendQuoted]
    rfl
  obtain ⟨draft, today, entry, ms, id, hdraft, htoday, hsettle, hparse, htitle, hcomment, hrepeat, hdate, hid, hlook⟩ :=
    created_reads_back healthy_onNewYear rfl hroute hcreated
  have hquoted : newDraft? sendQuoted = some quoted := by
    cases asks_sendQuoted with
    | create _ hdraft _ => exact hdraft
  obtain rfl : quoted = draft := Option.some.inj (hquoted.symm.trans hdraft)
  obtain rfl : Date.newYear = today := Except.ok.inj htoday
  obtain rfl : quotedEntry = entry := Except.ok.inj (settle_quoted.symm.trans hsettle)
  exact ⟨healthy_onNewYear, rfl, hcreated, ms, id, hparse, htitle, hcomment, hrepeat, hdate, hid,
    (hlook _ _ .refl healthy_onNewYear).2⟩

end Server

/-! ### Sending a task back -/

open Server

variable {server : Server} {today : Date} {contentType : String}

/-- In every state that requests make of a new database, what is answered for a task whose date has not passed can be
sent back as it is, and changes nothing. -/
theorem Served.put_got (hdb : Served db) (h : server.Healthy) (htoday : server.today = .ok today)
    (ht : db.table = some t) (htask : task ∈ t.rows)
    (hnotPast : ∀ date, Date.parse task.date = .ok date → today ≤ date)
    (htype : Http.MediaType.isJson contentType = true)
    (hsize : (server.handle (look task.id) db).1.body.utf8ByteSize ≤ Body.longest) :
    (server.handle (look task.id) db).1.status = 200 ∧
      server.handle (send .put contentType (server.handle (look task.id) db).1.body) db =
        (.json 200 Server.nothing, db) ∧
      (Http.Response.json 200 Server.nothing).body = "\x7b\x7d" := by
  have hfind : t.find? task.id = some task := Table.find?_eq_some_iff.mpr ⟨htask, rfl⟩
  have hlook := handle_look h ht hfind
  have hbody : (server.handle (look task.id) db).1.body = (Server.taskValue task).text := by
    rw [hlook]
    rfl
  -- What is stored is sound, so the draft of its own fields settles on it and replaces it by itself.
  obtain ⟨t', ht', hsound⟩ := hdb.reachable.sound
  obtain rfl : t = t' := Option.some.inj (ht.symm.trans ht')
  have htaskSound : task.Sound := hsound _ _ (Table.lookup_ledger_of_find? hfind)
  obtain ⟨date, hdate⟩ := htaskSound.date
  have hsettle := htaskSound.settle_draft hdate (hnotPast date hdate)
  have hkept : Connection.withTable { database := db } t = { database := db } := Connection.withTable_eq ht
  have hupdate := Task.update_eq { database := db } t task.id task.draft today
  rw [hkept, hsettle, hfind] at hupdate
  simp only [Table.modify_self hfind, hkept] at hupdate
  rw [hbody] at hsize ⊢
  refine ⟨congrArg (·.1.status) hlook, ?_, rfl⟩
  rw [Server.handle_of_asks h (asks_put htoday (t.fitsWord task htask) htype hsize), Operation.run_update, hupdate]
  rfl

/-- The task with the quotes can be sent back. -/
theorem put_got_quoted :
    Served withQuoted ∧ onNewYear.Healthy ∧
      (onNewYear.handle (look quotedTask.id) withQuoted).1.body.utf8ByteSize ≤ Body.longest ∧
      (onNewYear.handle (look quotedTask.id) withQuoted).1.status = 200 ∧
      onNewYear.handle (send .put "application/json" (onNewYear.handle (look quotedTask.id) withQuoted).1.body)
        withQuoted = (.json 200 nothing, withQuoted) := by
  have hserved : Served withQuoted :=
    .single ⟨onNewYear, sendQuoted, healthy_onNewYear, fun _ _ => trivial, congrArg Prod.snd handle_sendQuoted⟩
  have htable : withQuoted.table = some (Table.empty.insert quotedEntry) := rfl
  have hrow : quotedTask ∈ (Table.empty.insert quotedEntry).rows := List.mem_singleton.mpr rfl
  have hlook := handle_look healthy_onNewYear htable (Table.find?_eq_some_iff.mpr ⟨hrow, rfl⟩)
  have hsize : (onNewYear.handle (look quotedTask.id) withQuoted).1.body.utf8ByteSize ≤ Body.longest := by
    rw [hlook]
    decide +kernel
  have hnotPast : ∀ date, Date.parse quotedTask.date = .ok date → Date.newYear ≤ date := by
    intro date hdate
    have hparse : Date.parse quotedTask.date = .ok Date.newYear := by decide
    exact le_of_eq (Except.ok.inj (hparse.symm.trans hdate))
  obtain ⟨hstatus, hput, -⟩ :=
    hserved.put_got healthy_onNewYear (rfl : onNewYear.today = .ok Date.newYear) htable hrow
      hnotPast (show Http.MediaType.isJson "application/json" = true by decide) hsize
  exact ⟨hserved, healthy_onNewYear, hsize, hstatus, hput⟩

end Api

end Agenda
