import Agenda.Api.Body
import Agenda.Api.Error
import Agenda.Http.Site
import Agenda.Task.Operation

/-!
# The server

What a server is put together from, and how it answers a request: the paths below `/api` are answered by an
operation on the tasks, every other path by a file of the web client. Each request works on the database through a
connection of its own.
-/

namespace Agenda.Api

/-- Where the server reads the day from. -/
inductive Clock where
  /-- The day of the machine it runs on. -/
  | host
  /-- Always the same day. -/
  | fixed (date : Date)
deriving DecidableEq

/-- How the server gets at its database. -/
inductive Access where
  /-- A connection can be had. -/
  | connected
  /-- No connection becomes free in time. -/
  | exhausted
  /-- The server was put together without a database. -/
  | missing
deriving DecidableEq

/-- The parts of a server. -/
structure Server where
  clock : Clock
  /-- The day of the machine. -/
  hostDay : Day
  access : Access := .connected
  /-- The greatest number of tasks in a list, unless the server was put together without settings. -/
  listLimit : Option Nat
  site : Http.Site

/-- What a request does: an answer, or a failure, and the database afterwards. -/
abbrev Outcome (α : Type) : Type := Except Failure α × Database

/-! ### Arguments of requests -/

/-- The number of a task that a text names. -/
def taskNumber (text : Option String) : Except Failure Int :=
  match text.map Text.trim with
  | none => .error (.badRequest "task id is required")
  | some id =>
    if id = "" then .error (.badRequest "task id is required")
    else
      match Number.readWord id.toList with
      | some n => .ok n
      | none => .error (.badRequest ("invalid task id: " ++ Text.quoted id))

/-- The day of a clock. -/
def Clock.today (clock : Clock) (hostDay : Day) : Except RuleError Date :=
  match clock with
  | fixed date => .ok date
  | host => Date.ofDay hostDay

namespace Server

/-- The day of the server's clock. -/
def today (server : Server) : Except Failure Date :=
  (server.clock.today server.hostDay).mapError Failure.rule

/-- Work on the tasks through a connection of its own. -/
def withTasks {α : Type} (server : Server) (work : Session α) (db : Database) : Outcome α :=
  match server.access with
  | .missing => (.error (.setup (.missingPart "Database provider not found in depot")), db)
  | .exhausted => (.error (.store .noConnection), db)
  | .connected =>
    let (answer, connection) := work { database := db }
    (answer.mapError Failure.task, connection.database)

/-! ### Answers -/

/-- A task as clients see it. -/
def taskValue (task : Task) : Json.Value :=
  .ofMembers [("id", .ofString (String.ofList (Number.intText task.id))), ("date", .ofString task.date),
    ("title", .ofString task.title), ("comment", .ofString task.comment), ("repeat", .ofString task.repeats)]

/-- A list of tasks as clients see it. -/
def tasksValue (tasks : List Task) : Json.Value :=
  .ofMembers [("tasks", .array (tasks.map taskValue))]

/-- The answer where there is nothing to tell. -/
def nothing : Json.Value := .ofMembers []

/-- The response to a request that succeeded or failed. -/
def respond {α : Type} (render : α → Http.Response) : Except Failure α → Http.Response
  | .ok a => render a
  | .error f => f.response

/-! ### The requests below `/api` -/

/-- The next date of a rule, all of it given in the query. -/
def nextDate (query : Http.Target) : Except Failure String :=
  match query.value? "now", query.value? "date", query.value? "repeat" with
  | some now, some date, some repeats =>
    match Date.parse now with
    | .error e => .error (.rule e)
    | .ok now => (nextDateText now date repeats).mapError Failure.rule
  | _, _, _ => .error (.badRequest "now, date and repeat parameters are required")

/-- Lists tasks, narrowed down by a search. -/
def listTasks (server : Server) (search : Option String) (db : Database) : Outcome (List Task) :=
  match server.listLimit with
  | none => (.error (.setup (.missingPart "Configuration not found in depot")), db)
  | some limit => server.withTasks (Task.list search limit) db

/-- Looks at a task. -/
def getTask (server : Server) (id : Option String) (db : Database) : Outcome Task :=
  match taskNumber id with
  | .error f => (.error f, db)
  | .ok id => server.withTasks (Task.get id) db

/-- Deletes a task. -/
def deleteTask (server : Server) (id : Option String) (db : Database) : Outcome Unit :=
  match taskNumber id with
  | .error f => (.error f, db)
  | .ok id => server.withTasks (Task.delete id) db

/-- Marks a task as done. -/
def completeTask (server : Server) (id : Option String) (db : Database) : Outcome Completion :=
  match taskNumber id with
  | .error f => (.error f, db)
  | .ok id =>
    match server.today with
    | .error f => (.error f, db)
    | .ok today => server.withTasks (Task.complete id today) db

/-- Makes a task from a body. -/
def createTask (server : Server) (body : Option String) (db : Database) : Outcome Task :=
  match body.bind Body.newTask? with
  | none => (.error (.badRequest "invalid task body"), db)
  | some draft =>
    match server.today with
    | .error f => (.error f, db)
    | .ok today => server.withTasks (Task.create draft today) db

/-- Changes a task as a body says. -/
def updateTask (server : Server) (body : Option String) (db : Database) : Outcome Task :=
  match body.bind Body.changedTask? with
  | none => (.error (.badRequest "invalid task body"), db)
  | some (id, draft) =>
    match taskNumber (some id) with
    | .error f => (.error f, db)
    | .ok id =>
      match server.today with
      | .error f => (.error f, db)
      | .ok today => server.withTasks (Task.update id draft today) db

end Server

/-! ### Routes -/

/-- What a path below `/api` answers. -/
inductive Route where
  | health
  | nextDate
  | getTask
  | createTask
  | updateTask
  | deleteTask
  | completeTask
  | listTasks
deriving DecidableEq

/-- The route of a method and a path. -/
def Route.of? (method : Http.Method) (segments : List String) : Option Route :=
  match method, segments with
  | .get, ["api", "app", "healthcheck"] => some health
  | .get, ["api", "nextdate"] => some nextDate
  | .get, ["api", "task"] => some getTask
  | .post, ["api", "task"] => some createTask
  | .put, ["api", "task"] => some updateTask
  | .delete, ["api", "task"] => some deleteTask
  | .post, ["api", "task", "done"] => some completeTask
  | .get, ["api", "tasks"] => some listTasks
  | _, _ => none

namespace Server

/-- Answers a request on a route. -/
def answer (server : Server) (route : Route) (request : Http.Request) (db : Database) : Http.Response × Database :=
  let id := request.target.value? "id"
  let body := Body.text? request.contentType request.body
  let done {α : Type} (render : α → Http.Response) (outcome : Outcome α) : Http.Response × Database :=
    (respond render outcome.1, outcome.2)
  match route with
  | .health => (.plain "OK", db)
  | .nextDate => (respond .plain (nextDate request.target), db)
  | .getTask => done (fun task => .json 200 (taskValue task)) (server.getTask id db)
  | .createTask => done (fun task => .json 201 (taskValue task)) (server.createTask body db)
  | .updateTask => done (fun _ => .json 200 nothing) (server.updateTask body db)
  | .deleteTask => done (fun _ => .json 200 nothing) (server.deleteTask id db)
  | .completeTask => done (fun _ => .json 200 nothing) (server.completeTask id db)
  | .listTasks =>
    done (fun tasks => .json 200 (tasksValue tasks)) (server.listTasks (request.target.value? "search") db)

/-- Answers a request. Every path is also one of the web client, which is only read. -/
def handle (server : Server) (request : Http.Request) (db : Database) : Http.Response × Database :=
  match Route.of? request.method request.target.segments with
  | some route => server.answer route request db
  | none => if request.method = .get then (server.site.serve request.target, db) else (.page 405, db)

/-- Answers requests in order. -/
def handleAll (server : Server) : List Http.Request → Database → List Http.Response × Database
  | [], db => ([], db)
  | r :: rs, db =>
    let (response, db) := server.handle r db
    let (responses, db) := server.handleAll rs db
    (response :: responses, db)

end Server

end Agenda.Api
