import Agenda.Proofs.Api.Client

/-!
# Failures as clients see them

Every request below `/api` that is answered with an error has failed in one of four ways (`Server.Fails`): it was
refused, or there was no database, or no connection to it, or the operation that it asked for failed. The answer is JSON
with one text in it: the wording of the failure where the client got something wrong, and otherwise a text that the
status alone decides (`Server.failures_told`).
-/

namespace Agenda.Api

variable {f : Failure}

/-! ### Responses that tell of a failure -/

/-- The text that a client is told under a status. -/
inductive Failure.Worded (f : Failure) : Nat → String → Prop
  | mistake : Worded f 400 f.message
  | absent : Worded f 404 f.message
  | internal : Worded f 500 "Internal server error"
  | unavailable : Worded f 503 "Database unavailable"

/-- The response is an object with one member, which tells of the failure. -/
def Tells (told : Http.Response) (f : Failure) : Prop :=
  told.contentType = some "application/json; charset=utf-8" ∧
    ∃ text, Json.Value.parse told.body.toList = some (.ofMembers [("error", .ofString text)]) ∧ f.Worded told.status text

theorem Failure.worded_clientMessage (f : Failure) : f.Worded f.status f.clientMessage := by
  unfold clientMessage
  rcases f.status_cases with h | h | h | h <;> rw [h]
  · exact .mistake
  · exact .absent
  · exact .internal
  · exact .unavailable

theorem parse_error (text : String) : Json.Value.parse (Json.Value.ofMembers [("error", .ofString text)]).text.toList =
    some (.ofMembers [("error", .ofString text)]) := by
  refine Json.Value.parse_text ?_
  have htokens : (Json.Value.ofMembers [("error", .ofString text)]).tokens =
      [.openBrace, .string (some "error"), .colon, .string (some text), .closeBrace] := rfl
  simp [htokens, Json.Token.Numberless]

theorem Failure.tells_response (f : Failure) : Tells f.response f :=
  ⟨rfl, f.clientMessage, parse_error _, f.worded_clientMessage⟩

/-- Of a failure of the server the response tells its status alone. -/
theorem Failure.response_congr {g : Failure} (h : f.status = g.status) (hserver : 500 ≤ f.status) :
    f.response = g.response := by
  have hg : ¬g.status < 500 := by omega
  simp [response, clientMessage, h, hg]

namespace Server

variable {server : Server} {request : Http.Request} {db : Database} {route : Route}

/-! ### Requests that fail -/

/-- What a request fails with. -/
inductive Fails (server : Server) (request : Http.Request) (db : Database) : Failure → Prop where
  | refused {f : Failure} (h : server.Refuses request f) : Fails server request db f
  /-- The server was put together without a database. -/
  | unprovided {op : Operation} (hasks : server.Asks request op) (haccess : server.access = .missing) :
      Fails server request db (.setup (.missingPart "Database provider not found in depot"))
  /-- No connection becomes free in time. -/
  | unconnected {op : Operation} (hasks : server.Asks request op) (haccess : server.access = .exhausted) :
      Fails server request db (.store .noConnection)
  /-- The operation fails, for want of a table too. -/
  | failed {op : Operation} {e : TaskError} (hasks : server.Asks request op) (haccess : server.access = .connected)
      (hrun : (op.run { database := db }).1 = .error e) : Fails server request db (.task e)

theorem handle_of_fails (h : server.Fails request db f) : (server.handle request db).1 = f.response := by
  cases h with
  | refused h => rw [handle_of_refuses h]
  | unprovided hasks haccess | unconnected hasks haccess =>
    rw [handle_eq_of_asks hasks]
    unfold withTasks
    rw [haccess]
    rfl
  | failed hasks haccess hrun =>
    rw [handle_eq_of_asks hasks, withTasks_of_connected haccess, hrun]
    rfl

/-- An error is told of just where something failed. -/
theorem exists_fails_iff (hroute : Route.of? request.method request.target.segments = some route) :
    (∃ f, server.Fails request db f) ↔ 400 ≤ (server.handle request db).1.status := by
  constructor
  · rintro ⟨f, hf⟩
    rw [handle_of_fails hf]
    show 400 ≤ f.status
    rcases f.status_cases with h | h | h | h <;> omega
  · intro hstatus
    cases (reading hroute : server.Reading request) with
    | @asks op hasks =>
      cases haccess : server.access with
      | missing => exact ⟨_, .unprovided hasks haccess⟩
      | exhausted => exact ⟨_, .unconnected hasks haccess⟩
      | connected =>
        cases hrun : (op.run { database := db }).1 with
        | error e => exact ⟨_, .failed hasks haccess hrun⟩
        | ok reply =>
          rw [handle_eq_of_asks hasks, withTasks_of_connected haccess, hrun] at hstatus
          change 400 ≤ (render op reply).status at hstatus
          have := status_render op reply
          omega
    | refused hrefuses => exact ⟨_, .refused hrefuses⟩
    | told hhandle =>
      rw [hhandle] at hstatus
      change 400 ≤ 200 at hstatus
      omega

/-- Whatever becomes of its connection to a database and of the database itself, a server answers a request below `/api`
with an error just where the request fails, and tells of what it fails with. Two requests that a server tells of a failure
of its own get the same response if they get the same status, whatever servers, texts and databases they went to. -/
theorem failures_told :
    (∀ (server : Server) (request : Http.Request) (db : Database) (route : Route),
      Route.of? request.method request.target.segments = some route →
      ((∃ f, server.Fails request db f) ↔ 400 ≤ (server.handle request db).1.status)) ∧
    (∀ (server : Server) (request : Http.Request) (db : Database) (f : Failure),
      server.Fails request db f → Tells (server.handle request db).1 f) ∧
    ∀ (server server' : Server) (request request' : Http.Request) (db db' : Database) (route route' : Route),
      Route.of? request.method request.target.segments = some route →
      Route.of? request'.method request'.target.segments = some route' →
      500 ≤ (server.handle request db).1.status →
      (server.handle request db).1.status = (server'.handle request' db').1.status →
      (server.handle request db).1 = (server'.handle request' db').1 := by
  refine ⟨fun server request db route => exists_fails_iff, fun server request db f hf => ?_, ?_⟩
  · rw [handle_of_fails hf]
    exact f.tells_response
  · intro server server' request request' db db' route route' hroute hroute' hserver hstatus
    have hserver' : 500 ≤ (server'.handle request' db').1.status := hstatus ▸ hserver
    -- Both requests fail, and of both failures the responses tell nothing but the status.
    obtain ⟨f, hf⟩ := (exists_fails_iff hroute).mpr ((by omega : 400 ≤ 500).trans hserver)
    obtain ⟨g, hg⟩ := (exists_fails_iff hroute').mpr ((by omega : 400 ≤ 500).trans hserver')
    rw [handle_of_fails hf] at hserver hstatus ⊢
    rw [handle_of_fails hg] at hstatus ⊢
    exact Failure.response_congr hstatus hserver

/-- A server that was put together without a database. -/
def withoutDatabase : Server :=
  { onNewYear with access := .missing }

/-- A request for all tasks. -/
def listAll : Http.Request :=
  .asking .get ["api", "tasks"] []

theorem target_listAll : listAll.target =
    { segments := ["api", "tasks"], endsWithSlash := false, query := [] } :=
  Http.Request.target_asking .get (by simp) (by simp [Http.Target.PlainName]) _

/-- A request for a task whose number has a quote in it. -/
def lookQuoted : Http.Request :=
  .asking .get ["api", "task"] [("id", "4\"2")]

theorem target_lookQuoted : lookQuoted.target =
    { segments := ["api", "task"], endsWithSlash := false, query := [("id", "4\"2")] } :=
  Http.Request.target_asking .get (by simp) (by simp [Http.Target.PlainName]) _

theorem route_lookQuoted : Route.of? lookQuoted.method lookQuoted.target.segments = some .getTask := by
  rw [target_lookQuoted]
  rfl

theorem fails_lookQuoted : onNewYear.Fails lookQuoted Database.fresh (numberUnreadable "4\"2") := by
  refine .refused (.unnumbered route_lookQuoted .get ?_)
  rw [target_lookQuoted, Http.Target.value?_cons]
  decide +kernel

/-- A quote in a request is told of as it was, and a client cannot tell a database without a table from none. -/
theorem failures_told_quoted :
    onNewYear.Fails lookQuoted Database.fresh (numberUnreadable "4\"2") ∧
      400 ≤ (onNewYear.handle lookQuoted Database.fresh).1.status ∧
      Json.Value.parse (onNewYear.handle lookQuoted Database.fresh).1.body.toList =
        some (.ofMembers [("error", .ofString "invalid task id: \"4\\\"2\"")]) ∧
      onNewYear.Fails (look 1) {} (.task (.store (.query .noTable))) ∧
      withoutDatabase.Fails listAll Database.fresh (.setup (.missingPart "Database provider not found in depot")) ∧
      (onNewYear.handle (look 1) {}).1.status = 500 ∧
      (onNewYear.handle (look 1) {}).1 = (withoutDatabase.handle listAll Database.fresh).1 := by
  obtain ⟨hiff, htells, hsame⟩ := failures_told
  have hroute : Route.of? (look 1).method (look 1).target.segments = some .getTask := by
    rw [target_look]
    rfl
  have hrouteList : Route.of? listAll.method listAll.target.segments = some .listTasks := by
    rw [target_listAll]
    rfl
  have hfails : onNewYear.Fails (look 1) {} (.task (.store (.query .noTable))) :=
    .failed (asks_look (by decide)) rfl rfl
  have hfailsList : withoutDatabase.Fails listAll Database.fresh
      (.setup (.missingPart "Database provider not found in depot")) := .unprovided (.list hrouteList rfl) rfl
  have hstatus : (onNewYear.handle (look 1) {}).1.status = 500 := congrArg Http.Response.status (handle_of_fails hfails)
  have hstatusList : (withoutDatabase.handle listAll Database.fresh).1.status = 500 :=
    congrArg Http.Response.status (handle_of_fails hfailsList)
  refine ⟨fails_lookQuoted, (hiff _ _ _ _ route_lookQuoted).mp ⟨_, fails_lookQuoted⟩, ?_, hfails, hfailsList, hstatus, ?_⟩
  · obtain ⟨-, text, hparse, hworded⟩ := htells _ _ _ _ fails_lookQuoted
    have hstatusQuoted : (onNewYear.handle lookQuoted Database.fresh).1.status = 400 :=
      congrArg Http.Response.status (handle_of_fails fails_lookQuoted)
    rw [hstatusQuoted] at hworded
    cases hworded
    exact hparse
  · exact hsame _ _ _ _ _ _ _ _ hroute hrouteList (by omega) (by omega)

end Server

end Agenda.Api
