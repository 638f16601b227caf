import Agenda.Proofs.Api.Body
import Agenda.Proofs.Api.Request

/-!
# What clients send

Drafts and tasks travel in bodies: a draft that is written as an object is read as that draft (`newTask?_draftValue`),
and a task as clients see it asks for a change to what the task is (`changedTask?_taskValue`), whatever characters
their texts hold.
-/

namespace Agenda.Api

variable {server : Server} {db : Database} {t : Table} {task : Task} {draft : Draft} {entry : Entry} {today : Date}
  {id : Int} {contentType body : String}

/-! ### Tasks as clients see them -/

/-- The members of the object that a task is for clients. -/
def members (task : Task) : List (Option String × Json.Value) :=
  [(some "id", .ofString (idText task.id)), (some "date", .ofString task.date), (some "title", .ofString task.title),
    (some "comment", .ofString task.comment), (some "repeat", .ofString task.repeats)]

theorem taskValue_eq (task : Task) : Server.taskValue task = .object (members task) := rfl

theorem tokens_taskValue (task : Task) : (Server.taskValue task).tokens =
    [.openBrace, .string (some "id"), .colon, .string (some (idText task.id)), .comma,
      .string (some "date"), .colon, .string (some task.date), .comma,
      .string (some "title"), .colon, .string (some task.title), .comma,
      .string (some "comment"), .colon, .string (some task.comment), .comma,
      .string (some "repeat"), .colon, .string (some task.repeats), .closeBrace] := rfl

theorem numberless_taskValue (task : Task) : Json.Token.Numberless (Server.taskValue task).tokens := by
  rw [tokens_taskValue]
  simp [Json.Token.Numberless]

theorem fields_members (task : Task) :
    Body.field? (members task) "id" = some (idText task.id) ∧ Body.field? (members task) "date" = some task.date ∧
      Body.field? (members task) "title" = some task.title ∧ Body.field? (members task) "comment" = some task.comment ∧
      Body.field? (members task) "repeat" = some task.repeats := by
  refine ⟨?_, ?_, ?_, ?_, ?_⟩ <;> rfl

/-- A task as clients see it is a body that changes it to what it is. -/
theorem changedTask?_taskValue (task : Task) : Body.changedTask? (Server.taskValue task).text =
    some (idText task.id, task.draft) := by
  have hvalues : (Server.taskValue task).tokens.all Json.Token.namesValue = true := rfl
  have hnesting : Json.Token.nesting (Server.taskValue task).tokens = 1 := rfl
  obtain ⟨hid, hfields⟩ := fields_members task
  refine Body.changedTask?_eq_some_iff.mpr ⟨members task, Json.Value.parse_text (numberless_taskValue task),
    List.all_eq_true.mp hvalues, ?_, hid, Body.draftOfMembers?_eq_some_iff.mpr hfields⟩
  rw [← taskValue_eq, hnesting]
  decide

/-! ### Drafts -/

/-- The object that a draft is sent as. -/
def draftValue (draft : Draft) : Json.Value :=
  .object [(some "date", .ofString draft.date), (some "title", .ofString draft.title),
    (some "comment", .ofString draft.comment), (some "repeat", .ofString draft.repeats)]

theorem newTask?_draftValue (draft : Draft) : Body.newTask? (draftValue draft).text = some draft := by
  have htokens : (draftValue draft).tokens =
      [.openBrace, .string (some "date"), .colon, .string (some draft.date), .comma,
        .string (some "title"), .colon, .string (some draft.title), .comma,
        .string (some "comment"), .colon, .string (some draft.comment), .comma,
        .string (some "repeat"), .colon, .string (some draft.repeats), .closeBrace] := rfl
  have hnumberless : Json.Token.Numberless (draftValue draft).tokens := by
    rw [htokens]
    simp [Json.Token.Numberless]
  exact Body.newTask?_of_parse (Json.Value.parse_text hnumberless)

/-! ### Requests -/

/-- The request for a task. -/
def look (id : Int) : Http.Request :=
  .asking .get ["api", "task"] [("id", idText id)]

theorem target_look (id : Int) : (look id).target =
    { segments := ["api", "task"], endsWithSlash := false, query := [("id", idText id)] } :=
  Http.Request.target_asking .get (by simp) (by simp [Http.Target.PlainName]) _

theorem asks_look (hid : Number.fitsWord id = true) : server.Asks (look id) (.get id) := by
  refine .get ?_ ?_
  · rw [target_look]
    rfl
  · rw [target_look, Http.Target.value?_cons]
    exact taskNumber_idText hid

theorem handle_look (h : server.Healthy) (ht : db.table = some t) (hfind : t.find? id = some task) :
    server.handle (look id) db = (.json 200 (Server.taskValue task), db) := by
  have hid := Table.fitsWord_of_find? hfind
  have hget := Task.get_eq { database := db } t id
  rw [Connection.withTable_eq ht, hfind] at hget
  rw [Server.handle_of_asks h (asks_look hid), Operation.run_get, hget]
  rfl

/-- The request that sends a body to where the tasks are. -/
def send (method : Http.Method) (contentType body : String) : Http.Request :=
  { Http.Request.asking method ["api", "task"] [] with contentType := some contentType, body := body.toUTF8 }

theorem target_send (method : Http.Method) (contentType body : String) : (send method contentType body).target =
    { segments := ["api", "task"], endsWithSlash := false, query := [] } :=
  Http.Request.target_asking method (by simp) (by simp [Http.Target.PlainName]) _

@[simp] theorem contentType_send (method : Http.Method) (contentType body : String) :
    (send method contentType body).contentType = some contentType := rfl

@[simp] theorem body_send (method : Http.Method) (contentType body : String) :
    (send method contentType body).body = body.toUTF8 := rfl

theorem text?_of_json (htype : Http.MediaType.isJson contentType = true)
    (hsize : body.utf8ByteSize ≤ Body.longest) : Body.text? (some contentType) body.toUTF8 = some body := by
  have hbytes : body.toUTF8.size ≤ Body.longest := le_of_eq_of_le String.size_toByteArray hsize
  unfold Body.text?
  rw [Option.any_some, htype, Bool.true_and, if_pos (decide_eq_true hbytes), Body.readable_toUTF8]

theorem asks_post (htoday : server.today = .ok today) (htype : Http.MediaType.isJson contentType = true)
    (hsize : (draftValue draft).text.utf8ByteSize ≤ Body.longest) :
    server.Asks (send .post contentType (draftValue draft).text) (.create draft today) := by
  refine .create ?_ ?_ htoday
  · rw [target_send]
    rfl
  · unfold Server.newDraft?
    rw [contentType_send, body_send, text?_of_json htype hsize, Option.bind_some, newTask?_draftValue]

theorem asks_put (htoday : server.today = .ok today) (hid : Number.fitsWord task.id = true)
    (htype : Http.MediaType.isJson contentType = true)
    (hsize : (Server.taskValue task).text.utf8ByteSize ≤ Body.longest) :
    server.Asks (send .put contentType (Server.taskValue task).text) (.update task.id task.draft today) := by
  refine .update ?_ ?_ (taskNumber_idText hid) htoday
  · rw [target_send]
    rfl
  · unfold Server.changedDraft?
    rw [contentType_send, body_send, text?_of_json htype hsize, Option.bind_some, changedTask?_taskValue]

theorem handle_of_settle (h : server.Healthy) (ht : db.table = some t) (hroom : t.HasRoom) {request : Http.Request}
    (hasks : server.Asks request (.create draft today)) (hsettle : draft.settle today = .ok entry) :
    server.handle request db =
      (.json 201 (Server.taskValue { toEntry := entry, id := t.lastId + 1 }), db.withTasks (t.insert entry)) := by
  have hcreate := Task.create_eq { database := db } t draft today
  rw [Connection.withTable_eq ht, hsettle] at hcreate
  simp only [if_pos hroom] at hcreate
  rw [Server.handle_of_asks h hasks, Operation.run_create, hcreate]
  rfl

end Agenda.Api
