import Agenda.Proofs.Api.Request
import Agenda.Proofs.Repeat.Later
import Agenda.Proofs.Task.Completion

/-!
# A preview and its effect

What a client is told of the next date of a stored task is what completing the task today does, or why it cannot be
done (`Server.preview_agrees`). The draft of a task whose date has passed settles on the same date.
-/

namespace Agenda.Api

namespace Server

variable {server : Server} {db : Database} {t : Table} {task : Task} {today : Date}

/-- The request for the next date of a task, asked for today. -/
def preview (today : Date) (task : Task) : Http.Request :=
  .asking .get ["api", "nextdate"] [("now", today.text), ("date", task.date), ("repeat", task.repeats)]

/-- The request that marks a task as done. -/
def done (id : Int) : Http.Request :=
  .asking .post ["api", "task", "done"] [("id", idText id)]

theorem target_preview (today : Date) (task : Task) : (preview today task).target =
    { segments := ["api", "nextdate"], endsWithSlash := false,
      query := [("now", today.text), ("date", task.date), ("repeat", task.repeats)] } :=
  Http.Request.target_asking .get (by simp) (by simp [Http.Target.PlainName]) _

theorem target_done (id : Int) : (done id).target =
    { segments := ["api", "task", "done"], endsWithSlash := false, query := [("id", idText id)] } :=
  Http.Request.target_asking .post (by simp) (by simp [Http.Target.PlainName]) _

theorem nextDate_preview (today : Date) (task : Task) : nextDate (preview today task).target =
    (nextDateText today task.date task.repeats).mapError Failure.rule := by
  rw [target_preview]
  unfold nextDate
  rw [Http.Target.value?_cons, Http.Target.value?_cons_of_ne (by decide), Http.Target.value?_cons,
    Http.Target.value?_cons_of_ne (by decide), Http.Target.value?_cons_of_ne (by decide), Http.Target.value?_cons]
  simp only [Date.parse_text]

theorem handle_preview (server : Server) (today : Date) (task : Task) (db : Database) :
    server.handle (preview today task) db =
      (respond .plain ((nextDateText today task.date task.repeats).mapError Failure.rule), db) := by
  have hroute : Route.of? (preview today task).method (preview today task).target.segments = some .nextDate := by
    rw [target_preview]
    rfl
  rw [handle_of_route hroute, ← nextDate_preview]
  rfl

theorem asks_done (htoday : server.today = .ok today) {id : Int} (hid : Number.fitsWord id = true) :
    server.Asks (done id) (.complete id today) := by
  refine .complete ?_ ?_ htoday
  · rw [target_done]
    rfl
  · rw [target_done, Http.Target.value?_cons]
    exact taskNumber_idText hid

/-- Completing a repeating task tells of the error that its next date has, or moves it there. -/
theorem handle_done (h : server.Healthy) (htoday : server.today = .ok today) (ht : db.table = some t)
    (htask : task ∈ t.rows) (hrepeats : task.repeats ≠ "") :
    server.handle (done task.id) db =
      match nextDateText today task.date task.repeats with
      | .error e => ((Failure.rule e).response, db)
      | .ok next => (.json 200 nothing, db.withTasks (t.modify task.id fun e => { e with date := next })) := by
  have hcomplete := Task.complete_eq { database := db } t task.id today
  rw [Connection.withTable_eq ht, Table.find?_eq_some_iff.mpr ⟨htask, rfl⟩] at hcomplete
  simp only [if_neg hrepeats] at hcomplete
  rw [handle_of_asks h (asks_done htoday (t.fitsWord task htask)), Operation.run_complete, hcomplete]
  cases nextDateText today task.date task.repeats with
  | error e => rfl
  | ok next => rfl

/-- What is told of the next date of a stored repeating task is what completing the task today comes to: the date that
it moves to, or the error that leaves everything as it is. And the draft of such a task, once its date has passed,
settles on that date, or has that error. -/
theorem preview_agrees (h : server.Healthy) (htoday : server.today = .ok today) (ht : db.table = some t)
    (htask : task ∈ t.rows) (hrepeats : task.repeats ≠ "") :
    ((∀ next, (server.handle (preview today task) db).1.status = 200 ∧
        (server.handle (preview today task) db).1.body = next ↔
      (server.handle (done task.id) db).1.status = 200 ∧
        ∃ u moved, (server.handle (done task.id) db).2.table = some u ∧ u.find? task.id = some moved ∧
          moved.date = next) ∧
      ((server.handle (preview today task) db).1.status = 200 ∨
        (server.handle (preview today task) db).1.status = 400) ∧
      ((server.handle (preview today task) db).1.status = 400 →
        (server.handle (done task.id) db).1 = (server.handle (preview today task) db).1 ∧
          (server.handle (done task.id) db).2 = db)) ∧
    ∀ (draft : Draft) (today date : Date), Text.isBlankText draft.title = false → Date.parse draft.date = .ok date →
      date < today → draft.repeats ≠ "" →
        (∀ due, nextDateText today draft.date draft.repeats = .ok due → draft.settle today =
          .ok { date := due, title := draft.title, comment := draft.comment, repeats := draft.repeats }) ∧
        ∀ e, nextDateText today draft.date draft.repeats = .error e → draft.settle today = .error (.rule e) := by
  constructor
  · rw [handle_preview, handle_done h htoday ht htask hrepeats]
    cases hnext : nextDateText today task.date task.repeats with
    | error e =>
      refine ⟨fun next => iff_of_false ?_ ?_, Or.inr rfl, fun _ => ⟨rfl, rfl⟩⟩
      · rintro ⟨hstatus, -⟩
        exact absurd hstatus (show ¬400 = 200 by omega)
      · rintro ⟨hstatus, -⟩
        exact absurd hstatus (show ¬400 = 200 by omega)
    | ok due =>
      have hmoved : (t.modify task.id fun e => { e with date := due }).find? task.id =
          some (Table.changeRow task.id (fun e => { e with date := due }) task) := by
        rw [Table.find?_modify, Table.find?_eq_some_iff.mpr ⟨htask, rfl⟩, Option.map_some]
      have hdate : (Table.changeRow task.id (fun e => { e with date := due }) task).date = due := by
        unfold Table.changeRow
        rw [if_pos rfl]
      refine ⟨fun next => ⟨?_, ?_⟩, Or.inl rfl, fun hstatus => absurd hstatus (show ¬200 = 400 by omega)⟩
      · rintro ⟨-, hbody⟩
        exact ⟨rfl, _, _, rfl, hmoved, hdate.trans hbody⟩
      · rintro ⟨-, u, moved, hu, hfind, rfl⟩
        obtain rfl := Option.some.inj hu
        rw [hmoved] at hfind
        exact ⟨rfl, hdate.symm.trans (congrArg (·.date) (Option.some.inj hfind))⟩
  · intro draft today date htitle hdate hpast hrepeats
    have hsettle := Draft.settle_of_past htitle hdate hpast hrepeats
    refine ⟨fun due hdue => ?_, fun e he => ?_⟩
    · rw [hsettle, hdue]
    · rw [hsettle, he]

/-- The database with a task of every third day. -/
def wateringDue : Database :=
  Database.fresh.withTasks (Table.empty.insert Connection.watering.toEntry)

/-- On New Year's Day the watering moves to the day that was told. Sent on 1 March, its draft settles on the day
after. -/
theorem preview_agrees_watering :
    onNewYear.Healthy ∧ onNewYear.today = .ok Date.newYear ∧
      wateringDue.table = some (Table.empty.insert Connection.watering.toEntry) ∧
      (onNewYear.handle (preview Date.newYear Connection.watering) wateringDue).1.status = 200 ∧
      (onNewYear.handle (preview Date.newYear Connection.watering) wateringDue).1.body = "20230104" ∧
      (onNewYear.handle (done Connection.watering.id) wateringDue).1.status = 200 ∧
      (∃ u moved, (onNewYear.handle (done Connection.watering.id) wateringDue).2.table = some u ∧
        u.find? Connection.watering.id = some moved ∧ moved.date = "20230104") ∧
      Connection.watering.draft.settle Schedule.firstOfMarch =
        .ok { Connection.watering.toEntry with date := "20230302" } := by
  have htable : wateringDue.table = some (Table.empty.insert Connection.watering.toEntry) := rfl
  have hrow : Connection.watering ∈ (Table.empty.insert Connection.watering.toEntry).rows := List.mem_singleton.mpr rfl
  have hnext : nextDateText Date.newYear Connection.watering.date Connection.watering.repeats = .ok "20230104" := by
    decide +kernel
  have hpreview : (onNewYear.handle (preview Date.newYear Connection.watering) wateringDue).1 = .plain "20230104" := by
    rw [handle_preview, hnext]
    rfl
  have hstatus : (onNewYear.handle (preview Date.newYear Connection.watering) wateringDue).1.status = 200 := by
    rw [hpreview]
    rfl
  have hbody : (onNewYear.handle (preview Date.newYear Connection.watering) wateringDue).1.body = "20230104" := by
    rw [hpreview]
    rfl
  obtain ⟨⟨hagrees, -, -⟩, hdraft⟩ :=
    preview_agrees healthy_onNewYear (rfl : onNewYear.today = .ok Date.newYear) htable hrow (by decide)
  obtain ⟨hdone, hmoved⟩ := (hagrees "20230104").mp ⟨hstatus, hbody⟩
  obtain ⟨hsettles, -⟩ := hdraft Connection.watering.draft Schedule.firstOfMarch Date.newYear (by decide) (by decide)
    (by decide) (by decide)
  exact ⟨healthy_onNewYear, rfl, htable, hstatus, hbody, hdone, hmoved, hsettles _ (by decide +kernel)⟩

end Server

end Agenda.Api
