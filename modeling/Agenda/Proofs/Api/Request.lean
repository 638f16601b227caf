import Agenda.Proofs.Api.TaskNumber
import Agenda.Proofs.Http.Target
import Agenda.Proofs.Task.Reachable

/-!
# Requests as operations

A request below `/api` asks for one operation on the tasks (`Server.Asks`), or is refused (`Server.Refuses`), or needs no
tasks (`Server.reading`). If it asks for an operation, its response tells the answer of that operation, and the
operation is all that happens to the database (`Server.handle_eq_of_asks`); otherwise nothing happens to it. So whatever
requests to healthy servers make of a new database, operations make of it too (`Served.reachable`).
-/

namespace Agenda

/-! ### Written requests -/

namespace Http.Request

/-- A request as a client writes it, with plain names in its path and any texts in its query. -/
def asking (method : Method) (path : List String) (query : List (String × String)) : Request :=
  { method, target := Target.parse (Target.write path query) }

theorem target_asking (method : Method) {path : List String} (hne : path ≠ [])
    (hpath : ∀ name ∈ path, Target.PlainName name) (query : List (String × String)) :
    (asking method path query).target = { segments := path, endsWithSlash := false, query } :=
  Target.parse_write hne hpath query

end Http.Request

namespace Session

theorem map_run {α β : Type} (work : Session α) (f : α → β) (c : Connection) :
    (do return f (← work) : Session β) c = ((work c).1.map f, (work c).2) := by
  rcases hc : work c with ⟨answer, d⟩
  cases answer with
  | error e => exact bind_of_error hc
  | ok a => exact bind_of_ok hc

end Session

namespace Operation

variable (c : Connection)

theorem run_create (draft : Draft) (today : Date) :
    (create draft today).run c = ((Task.create draft today c).1.map Reply.task, (Task.create draft today c).2) :=
  Session.map_run _ _ c

theorem run_get (id : Int) : (get id).run c = ((Task.get id c).1.map Reply.task, (Task.get id c).2) :=
  Session.map_run _ _ c

theorem run_list (search : Option String) (limit : Nat) :
    (list search limit).run c = ((Task.list search limit c).1.map Reply.tasks, (Task.list search limit c).2) :=
  Session.map_run _ _ c

theorem run_update (id : Int) (draft : Draft) (today : Date) :
    (update id draft today).run c =
      ((Task.update id draft today c).1.map Reply.task, (Task.update id draft today c).2) :=
  Session.map_run _ _ c

theorem run_complete (id : Int) (today : Date) :
    (complete id today).run c =
      ((Task.complete id today c).1.map Reply.completion, (Task.complete id today c).2) :=
  Session.map_run _ _ c

end Operation

namespace Api

/-- The text that a number travels as. -/
def idText (id : Int) : String :=
  String.ofList (Number.intText id)

theorem taskNumber_idText {id : Int} (h : Number.fitsWord id = true) : taskNumber (some (idText id)) = .ok id := by
  have hread : taskNumber (some ("" ++ idText id ++ "")) = .ok id := taskNumber_intText (by simp) (by simp) h
  rwa [String.empty_append, String.append_empty] at hread

/-! ### The operation that a request asks for -/

/-- What a server answers where an operation succeeded. -/
def render : Operation → Reply → Http.Response
  | .create _ _, .task task => .json 201 (Server.taskValue task)
  | .get _, .task task => .json 200 (Server.taskValue task)
  | .list _ _, .tasks tasks => .json 200 (Server.tasksValue tasks)
  | _, _ => .json 200 Server.nothing

theorem status_render (op : Operation) (reply : Reply) :
    (render op reply).status = 200 ∨ (render op reply).status = 201 := by
  unfold render
  split
  · exact Or.inr rfl
  all_goals exact Or.inl rfl

theorem Failure.status_cases (f : Failure) : f.status = 400 ∨ f.status = 404 ∨ f.status = 500 ∨ f.status = 503 := by
  unfold Failure.status
  split <;> simp

/-- The response that tells the answer of an operation. -/
def response (op : Operation) (answer : Except TaskError Reply) : Http.Response :=
  Server.respond (render op) (answer.mapError Failure.task)

theorem le_status_response_error (op : Operation) (e : TaskError) : 400 ≤ (response op (.error e)).status := by
  show 400 ≤ (Failure.task e).status
  rcases (Failure.task e).status_cases with h | h | h | h <;> omega

namespace Server

/-- A connection to the database can be had, and lists have room for a task. -/
structure Healthy (server : Server) : Prop where
  connected : server.access = .connected
  limited : ∃ limit, server.listLimit = some limit ∧ 1 ≤ limit

variable {server : Server} {request : Http.Request} {db : Database} {op : Operation}

/-- The draft that the body of a request makes a task from. -/
def newDraft? (request : Http.Request) : Option Draft :=
  (Body.text? request.contentType request.body).bind Body.newTask?

/-- The number, as a text, and the draft that the body of a request changes a task with. -/
def changedDraft? (request : Http.Request) : Option (String × Draft) :=
  (Body.text? request.contentType request.body).bind Body.changedTask?

/-- The operation that a request asks for, with everything that it takes from the request and the clock in order. -/
inductive Asks (server : Server) (request : Http.Request) : Operation → Prop where
  | get {id : Int} (hroute : Route.of? request.method request.target.segments = some .getTask)
      (hid : taskNumber (request.target.value? "id") = .ok id) : Asks server request (.get id)
  | create {draft : Draft} {today : Date}
      (hroute : Route.of? request.method request.target.segments = some .createTask)
      (hdraft : newDraft? request = some draft) (htoday : server.today = .ok today) :
      Asks server request (.create draft today)
  | update {text : String} {id : Int} {draft : Draft} {today : Date}
      (hroute : Route.of? request.method request.target.segments = some .updateTask)
      (hdraft : changedDraft? request = some (text, draft)) (hid : taskNumber (some text) = .ok id)
      (htoday : server.today = .ok today) : Asks server request (.update id draft today)
  | delete {id : Int} (hroute : Route.of? request.method request.target.segments = some .deleteTask)
      (hid : taskNumber (request.target.value? "id") = .ok id) : Asks server request (.delete id)
  | complete {id : Int} {today : Date}
      (hroute : Route.of? request.method request.target.segments = some .completeTask)
      (hid : taskNumber (request.target.value? "id") = .ok id) (htoday : server.today = .ok today) :
      Asks server request (.complete id today)
  | list {limit : Nat} (hroute : Route.of? request.method request.target.segments = some .listTasks)
      (hlimit : server.listLimit = some limit) : Asks server request (.list (request.target.value? "search") limit)

theorem handle_of_route {route : Route} (h : Route.of? request.method request.target.segments = some route) :
    server.handle request db = server.answer route request db := by
  unfold handle
  rw [h]

/-- Work that is an operation is answered as that operation, whatever comes of the connection. -/
theorem respond_withTasks {α : Type} {work : Session α} {tell : α → Http.Response} (f : α → Reply)
    (hop : op.run = (do return f (← work) : Session Reply)) (htell : ∀ a, render op (f a) = tell a) (db : Database) :
    (respond tell (server.withTasks work db).1, (server.withTasks work db).2) =
      (respond (render op) (server.withTasks op.run db).1, (server.withTasks op.run db).2) := by
  unfold withTasks
  cases server.access with
  | missing | exhausted => rfl
  | connected =>
    rw [hop, Session.map_run]
    rcases work { database := db } with ⟨answer, c⟩
    cases answer with
    | error e => rfl
    | ok a => exact congrArg (·, c.database) (htell a).symm

/-- A request that asks for an operation is answered by that operation alone. -/
theorem handle_eq_of_asks (hasks : server.Asks request op) (db : Database) :
    server.handle request db = (respond (render op) (server.withTasks op.run db).1, (server.withTasks op.run db).2) := by
  cases hasks with
  | get hroute hid =>
    rw [handle_of_route hroute]
    simp only [answer, getTask, hid]
    exact respond_withTasks Reply.task (by rfl) (fun _ => by rfl) db
  | create hroute hdraft htoday =>
    unfold newDraft? at hdraft
    rw [handle_of_route hroute]
    simp only [answer, createTask, hdraft, htoday]
    exact respond_withTasks Reply.task (by rfl) (fun _ => by rfl) db
  | update hroute hdraft hid htoday =>
    unfold changedDraft? at hdraft
    rw [handle_of_route hroute]
    simp only [answer, updateTask, hdraft, hid, htoday]
    exact respond_withTasks Reply.task (by rfl) (fun _ => by rfl) db
  | delete hroute hid =>
    rw [handle_of_route hroute]
    simp only [answer, deleteTask, hid]
    exact respond_withTasks (fun _ => .deleted) (by rfl) (fun _ => by rfl) db
  | complete hroute hid htoday =>
    rw [handle_of_route hroute]
    simp only [answer, completeTask, hid, htoday]
    exact respond_withTasks Reply.completion (by rfl) (fun _ => by rfl) db
  | list hroute hlimit =>
    rw [handle_of_route hroute]
    simp only [answer, listTasks, hlimit]
    exact respond_withTasks Reply.tasks (by rfl) (fun _ => by rfl) db

theorem withTasks_of_connected {α : Type} (h : server.access = .connected) (work : Session α) (db : Database) :
    server.withTasks work db =
      ((work { database := db }).1.mapError Failure.task, (work { database := db }).2.database) := by
  unfold withTasks
  rw [h]

theorem handle_of_asks (h : server.Healthy) (hasks : server.Asks request op) (db : Database) :
    server.handle request db =
      (response op (op.run { database := db }).1, (op.run { database := db }).2.database) := by
  rw [handle_eq_of_asks hasks, withTasks_of_connected h.connected]
  rfl

/-! ### Requests that are refused -/

theorem status_of_taskNumber {text : Option String} {f : Failure} (h : taskNumber text = .error f) :
    f.status = 400 := by
  have hnames := namesTask_taskNumber text
  rw [h] at hnames
  cases hnames with
  | absent | blank | unreadable => rfl

theorem status_of_today {f : Failure} (h : server.today = .error f) : f.status = 400 := by
  unfold today at h
  cases hclock : server.clock.today server.hostDay with
  | ok date =>
    rw [hclock] at h
    cases h
  | error cause =>
    rw [hclock] at h
    cases h
    rfl

/-- The text that a request names a task by, on the routes that work on one. -/
inductive Refers (request : Http.Request) : Route → Option String → Prop where
  | get : Refers request .getTask (request.target.value? "id")
  | delete : Refers request .deleteTask (request.target.value? "id")
  | complete : Refers request .completeTask (request.target.value? "id")
  | update {text : String} {draft : Draft} (hdraft : changedDraft? request = some (text, draft)) :
      Refers request .updateTask (some text)

/-- What a request is refused for before any work on the tasks: the first thing that is wrong with it or the server. -/
inductive Refuses (server : Server) (request : Http.Request) : Failure → Prop where
  /-- A question for a next date has three arguments. -/
  | unasked {name : String} (hroute : Route.of? request.method request.target.segments = some .nextDate)
      (hname : name ∈ ["now", "date", "repeat"]) (hmissing : request.target.value? name = none) :
      Refuses server request (.badRequest "now, date and repeat parameters are required")
  /-- The first of them is a date. -/
  | misdated {now date repeats : String} {e : RuleError}
      (hroute : Route.of? request.method request.target.segments = some .nextDate)
      (hnow : request.target.value? "now" = some now) (hdate : request.target.value? "date" = some date)
      (hrepeats : request.target.value? "repeat" = some repeats) (hparse : Date.parse now = .error e) :
      Refuses server request (.rule e)
  /-- The others have a next date after it. -/
  | unscheduled {now date repeats : String} {day : Date} {e : RuleError}
      (hroute : Route.of? request.method request.target.segments = some .nextDate)
      (hnow : request.target.value? "now" = some now) (hdate : request.target.value? "date" = some date)
      (hrepeats : request.target.value? "repeat" = some repeats) (hparse : Date.parse now = .ok day)
      (hnext : nextDateText day date repeats = .error e) : Refuses server request (.rule e)
  /-- The body makes a task. -/
  | undrafted (hroute : Route.of? request.method request.target.segments = some .createTask)
      (hdraft : newDraft? request = none) : Refuses server request (.badRequest "invalid task body")
  /-- The body changes a task. -/
  | unchanged (hroute : Route.of? request.method request.target.segments = some .updateTask)
      (hdraft : changedDraft? request = none) : Refuses server request (.badRequest "invalid task body")
  /-- The text that a task is named by is its number. -/
  | unnumbered {route : Route} {text : Option String} {f : Failure}
      (hroute : Route.of? request.method request.target.segments = some route) (hrefers : Refers request route text)
      (hid : taskNumber text = .error f) : Refuses server request f
  /-- A new task needs the day. -/
  | undated {draft : Draft} {f : Failure} (hroute : Route.of? request.method request.target.segments = some .createTask)
      (hdraft : newDraft? request = some draft) (htoday : server.today = .error f) : Refuses server request f
  /-- So does a task that is changed or done. -/
  | undatedWork {route : Route} {text : Option String} {id : Int} {f : Failure}
      (hroute : Route.of? request.method request.target.segments = some route) (hrefers : Refers request route text)
      (hid : taskNumber text = .ok id) (hdays : route = .updateTask ∨ route = .completeTask)
      (htoday : server.today = .error f) : Refuses server request f
  /-- A list needs the settings. -/
  | unlimited (hroute : Route.of? request.method request.target.segments = some .listTasks)
      (hlimit : server.listLimit = none) :
      Refuses server request (.setup (.missingPart "Configuration not found in depot"))

/-- A refusal is all that a refused request comes to. -/
theorem handle_of_refuses {f : Failure} (h : server.Refuses request f) (db : Database) :
    server.handle request db = (f.response, db) := by
  cases h with
  | unasked hroute hname hmissing =>
    rw [handle_of_route hroute]
    have hnone : nextDate request.target = .error (.badRequest "now, date and repeat parameters are required") := by
      unfold nextDate
      split
      · rename_i hnow hdate hrepeats
        simp only [List.mem_cons, List.not_mem_nil, or_false] at hname
        rcases hname with rfl | rfl | rfl <;> simp_all
      · rfl
    simp only [answer, hnone]
    rfl
  | misdated hroute hnow hdate hrepeats hparse =>
    rw [handle_of_route hroute]
    simp only [answer, nextDate, hnow, hdate, hrepeats, hparse]
    rfl
  | unscheduled hroute hnow hdate hrepeats hparse hnext =>
    rw [handle_of_route hroute]
    simp only [answer, nextDate, hnow, hdate, hrepeats, hparse, hnext]
    rfl
  | undrafted hroute hdraft =>
    unfold newDraft? at hdraft
    rw [handle_of_route hroute]
    simp only [answer, createTask, hdraft]
    rfl
  | unchanged hroute hdraft =>
    unfold changedDraft? at hdraft
    rw [handle_of_route hroute]
    simp only [answer, updateTask, hdraft]
    rfl
  | unnumbered hroute hrefers hid =>
    rw [handle_of_route hroute]
    cases hrefers with
    | get =>
      simp only [answer, getTask, hid]
      rfl
    | delete =>
      simp only [answer, deleteTask, hid]
      rfl
    | complete =>
      simp only [answer, completeTask, hid]
      rfl
    | update hdraft =>
      unfold changedDraft? at hdraft
      simp only [answer, updateTask, hdraft, hid]
      rfl
  | undated hroute hdraft htoday =>
    unfold newDraft? at hdraft
    rw [handle_of_route hroute]
    simp only [answer, createTask, hdraft, htoday]
    rfl
  | undatedWork hroute hrefers hid hdays htoday =>
    rw [handle_of_route hroute]
    cases hrefers with
    | get | delete => simp at hdays
    | complete =>
      simp only [answer, completeTask, hid, htoday]
      rfl
    | update hdraft =>
      unfold changedDraft? at hdraft
      simp only [answer, updateTask, hdraft, hid, htoday]
      rfl
  | unlimited hroute hlimit =>
    rw [handle_of_route hroute]
    simp only [answer, listTasks, hlimit]
    rfl

/-- A server with settings refuses what the client got wrong. -/
theorem Refuses.status_eq {f : Failure} (h : server.Refuses request f) (hlimit : server.listLimit ≠ none) :
    f.status = 400 := by
  cases h with
  | unasked | misdated | unscheduled | undrafted | unchanged => rfl
  | unnumbered _ _ hid => exact status_of_taskNumber hid
  | undated _ _ htoday | undatedWork _ _ _ _ htoday => exact status_of_today htoday
  | unlimited _ hnone => exact absurd hnone hlimit

/-- What there is to a request below `/api`: an operation, a refusal, or an answer that needs no tasks. -/
inductive Reading (server : Server) (request : Http.Request) : Prop where
  | asks {op : Operation} (h : server.Asks request op)
  | refused {f : Failure} (h : server.Refuses request f)
  | told {text : String} (h : ∀ db, server.handle request db = (.plain text, db))

theorem reading {route : Route} (hroute : Route.of? request.method request.target.segments = some route) :
    server.Reading request := by
  cases route with
  | health => exact .told fun db => handle_of_route hroute
  | nextDate =>
    cases hnow : request.target.value? "now" with
    | none => exact .refused (.unasked hroute (by simp) hnow)
    | some now =>
      cases hdate : request.target.value? "date" with
      | none => exact .refused (.unasked hroute (by simp) hdate)
      | some date =>
        cases hrepeats : request.target.value? "repeat" with
        | none => exact .refused (.unasked hroute (by simp) hrepeats)
        | some repeats =>
          cases hparse : Date.parse now with
          | error e => exact .refused (.misdated hroute hnow hdate hrepeats hparse)
          | ok day =>
            cases hnext : nextDateText day date repeats with
            | error e => exact .refused (.unscheduled hroute hnow hdate hrepeats hparse hnext)
            | ok next =>
              refine .told (fun db => ?_ : ∀ db, server.handle request db = (.plain next, db))
              rw [handle_of_route hroute]
              simp only [answer, Server.nextDate, hnow, hdate, hrepeats, hparse, hnext]
              rfl
  | getTask =>
    cases hid : taskNumber (request.target.value? "id") with
    | error f => exact .refused (.unnumbered hroute .get hid)
    | ok id => exact .asks (.get hroute hid)
  | deleteTask =>
    cases hid : taskNumber (request.target.value? "id") with
    | error f => exact .refused (.unnumbered hroute .delete hid)
    | ok id => exact .asks (.delete hroute hid)
  | completeTask =>
    cases hid : taskNumber (request.target.value? "id") with
    | error f => exact .refused (.unnumbered hroute .complete hid)
    | ok id =>
      cases htoday : server.today with
      | error f => exact .refused (.undatedWork hroute .complete hid (Or.inr rfl) htoday)
      | ok today => exact .asks (.complete hroute hid htoday)
  | createTask =>
    cases hdraft : newDraft? request with
    | none => exact .refused (.undrafted hroute hdraft)
    | some draft =>
      cases htoday : server.today with
      | error f => exact .refused (.undated hroute hdraft htoday)
      | ok today => exact .asks (.create hroute hdraft htoday)
  | updateTask =>
    cases hdraft : changedDraft? request with
    | none => exact .refused (.unchanged hroute hdraft)
    | some changed =>
      obtain ⟨text, draft⟩ := changed
      cases hid : taskNumber (some text) with
      | error f => exact .refused (.unnumbered hroute (.update hdraft) hid)
      | ok id =>
        cases htoday : server.today with
        | error f => exact .refused (.undatedWork hroute (.update hdraft) hid (Or.inl rfl) htoday)
        | ok today => exact .asks (.update hroute hdraft hid htoday)
  | listTasks =>
    cases hlimit : server.listLimit with
    | none => exact .refused (.unlimited hroute hlimit)
    | some limit => exact .asks (.list hroute hlimit)

/-! ### What a healthy server makes of a request -/

theorem status_serve (site : Http.Site) (target : Http.Target) :
    (site.serve target).status = 200 ∨ (site.serve target).status = 302 ∨ (site.serve target).status = 404 := by
  have hfile : ∀ path, ((site.file? path).getD (.page 404)).status = 200 ∨
      ((site.file? path).getD (.page 404)).status = 404 := by
    intro path
    unfold Http.Site.file?
    cases site.files.find? (·.1 == path) with
    | none => exact Or.inr rfl
    | some found => exact Or.inl rfl
  unfold Http.Site.serve
  simp only
  split_ifs
  · exact Or.inr (Or.inl rfl)
  · exact Or.inr (Or.inr rfl)
  · exact (hfile _).imp_right Or.inr
  · exact Or.inr (Or.inr rfl)
  · exact (hfile _).imp_right Or.inr

/-- The request is answered by an operation that it asks for, or leaves the database as it is and is told neither of a
new task nor of a failure of the server. -/
def Accounted (server : Server) (request : Http.Request) (db : Database) : Prop :=
  (∃ op, server.Asks request op ∧ server.handle request db =
    (response op (op.run { database := db }).1, (op.run { database := db }).2.database)) ∨
  (server.handle request db).1.status ≠ 201 ∧ (server.handle request db).1.status < 500 ∧
    (server.handle request db).2 = db

theorem Accounted.of_kept {told : Http.Response} (h : server.handle request db = (told, db))
    (hstatus : told.status = 200 ∨ told.status = 302 ∨ 400 ≤ told.status ∧ told.status < 500) :
    server.Accounted request db := by
  have hnew : told.status ≠ 201 := by omega
  have hlt : told.status < 500 := by omega
  refine Or.inr ?_
  rw [h]
  exact ⟨hnew, hlt, rfl⟩

theorem accounted (h : server.Healthy) (request : Http.Request) (db : Database) : server.Accounted request db := by
  cases hroute : Route.of? request.method request.target.segments with
  | none =>
    have hhandle : server.handle request db =
        if request.method = .get then (server.site.serve request.target, db) else (.page 405, db) := by
      unfold handle
      rw [hroute]
    split_ifs at hhandle
    · have hstatus := status_serve server.site request.target
      exact .of_kept hhandle (by omega)
    · exact .of_kept hhandle (Or.inr (Or.inr (show 400 ≤ 405 ∧ 405 < 500 by omega)))
  | some route =>
    cases (reading hroute : server.Reading request) with
    | asks hasks => exact Or.inl ⟨_, hasks, handle_of_asks h hasks db⟩
    | @refused f hrefuses =>
      obtain ⟨limit, hlimit, -⟩ := h.limited
      have hstatus : f.response.status = 400 := hrefuses.status_eq (by simp [hlimit])
      exact .of_kept (handle_of_refuses hrefuses db) (by omega)
    | told hhandle => exact .of_kept (hhandle db) (Or.inl rfl)

/-- A server that takes New Year's Day of 2023 for today and lists up to fifty tasks. -/
def onNewYear : Server where
  clock := .fixed Date.newYear
  hostDay := ⟨2023, 1, 1, Nat.one_pos, by decide⟩
  listLimit := some 50
  site := ⟨[]⟩

theorem healthy_onNewYear : onNewYear.Healthy :=
  ⟨rfl, 50, rfl, by decide⟩

end Server

/-! ### What requests make of a new database -/

/-- A healthy server, of whatever day, answers a request and leaves the other database; the operation that the request
asks for, if any, is admitted on the database that is there. -/
def Exchange (admits : Database → Operation → Prop) (db db' : Database) : Prop :=
  ∃ (server : Server) (request : Http.Request), server.Healthy ∧ (∀ op, server.Asks request op → admits db op) ∧
    (server.handle request db).2 = db'

/-- The databases that requests to healthy servers make of a new one. -/
def Served (db : Database) : Prop :=
  Relation.ReflTransGen (Exchange fun _ _ => True) Database.fresh db

variable {admits : Database → Operation → Prop} {db db' : Database}

theorem Exchange.cases (h : Exchange admits db db') :
    db' = db ∨ ∃ op, admits db op ∧ db' = (op.run { database := db }).2.database := by
  obtain ⟨server, request, hserver, hadmits, rfl⟩ := h
  rcases server.accounted hserver request db with ⟨op, hasks, hhandle⟩ | ⟨-, -, hkept⟩
  · exact Or.inr ⟨op, hadmits op hasks, congrArg Prod.snd hhandle⟩
  · exact Or.inl hkept

/-- What requests make of a new database is what some operations make of it. -/
theorem Served.reachable (h : Served db) : Connection.Reachable { database := db } := by
  induction h with
  | refl => exact .fresh
  | @tail db db' _ hexchange ih =>
    rcases hexchange.cases with rfl | ⟨op, -, rfl⟩
    · exact ih
    · obtain ⟨t, ht, -⟩ := ih.sound
      obtain ⟨answer, u, hrun, -⟩ := op.refines { database := db } t
      rw [Connection.withTable_eq ht] at hrun
      have hstep := Connection.Reachable.step op ih
      rw [hrun] at hstep ⊢
      exact hstep

end Api

end Agenda
