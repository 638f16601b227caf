import Agenda.Proofs.Api.Request
import Agenda.Proofs.Task.Listing

/-!
# What a status tells

On a healthy server, as long as there is a number left for a new task, the one failure that is told as the server's own
is a search for a text that makes too long a pattern, as soon as there is a row to match it with. All else that a client
can send is done, or refused as the client's mistake; and nothing that is refused or fails has done anything
(`Server.failure_iff_tooLong`).
-/

namespace Agenda

namespace Operation

variable {db : Database} {t : Table}

theorem run_cases (op : Operation) (ht : db.table = some t) :
    (∃ reply, (op.run { database := db }).1 = .ok reply) ∨
    ∃ e, (op.run { database := db }).1 = .error e ∧ (op.run { database := db }).2.database = db ∧
      t.ledger.Step op (.error e) t.ledger := by
  obtain ⟨answer, u, hrun, hstep, herror⟩ := op.refines { database := db } t
  rw [Connection.withTable_eq ht] at hrun
  rw [hrun]
  cases answer with
  | ok reply => exact Or.inl ⟨reply, rfl⟩
  | error e =>
    obtain rfl := herror e rfl
    refine Or.inr ⟨e, rfl, ?_, hstep⟩
    exact congrArg Connection.database (Connection.withTable_eq ht)

/-- A list fails just if the text that it is asked for makes too long a pattern, some row would have to match it, and
there is room for a row in the answer. -/
theorem list_fails_iff (ht : db.table = some t) (search : Option String) (limit : Nat) :
    (∃ e, ((list search limit).run { database := db }).1 = .error e) ↔
      (Search.ofText search).TooLong ∧ t.rows ≠ [] ∧ limit ≠ 0 := by
  have hread : ∀ {text}, Search.ofText search = .containing text →
      Task.list search limit = Session.reading (·.search text limit) := by
    intro text htext
    unfold Task.list
    rw [htext]
  simp only [run_list, Except.map_eq_error_iff]
  constructor
  · rintro ⟨e, he⟩
    have hlist := Task.list_eq { database := db } t search limit
    rw [Connection.withTable_eq ht] at hlist
    rcases hlist with hok | ⟨text, htext, hlong, -⟩
    · rw [hok] at he
      cases he
    · cases hmatching : t.matching (Like.containing text) limit with
      | error cause => exact ⟨⟨text, htext, hlong⟩, (Table.matching_eq_error_iff.mp ⟨cause, hmatching⟩).2⟩
      | ok tasks =>
        rw [hread htext, Session.reading_of_ok ((Database.search_eq ht text limit).trans hmatching)] at he
        cases he
  · rintro ⟨⟨text, htext, hlong⟩, hrows, hlimit⟩
    obtain ⟨cause, hmatching⟩ := Table.matching_eq_error_iff.mpr ⟨hlong, hrows, hlimit⟩
    rw [hread htext, Session.reading_of_error ((Database.search_eq ht text limit).trans hmatching)]
    exact ⟨_, rfl⟩

end Operation

namespace Api

variable {op : Operation} {l : Ledger} {db : Database} {t : Table}

/-- Of what can fail while there is room, lists alone are told as failures of the server. -/
theorem serverFailure_iff {e : TaskError} (hroom : l.HasRoom) (h : l.Step op (.error e) l) :
    500 ≤ (Failure.task e).status ↔ ∃ search limit, op = .list search limit := by
  cases h with
  | refused hop hsettle =>
    have hno : ¬∃ search limit, op = .list search limit := by
      rintro ⟨search, limit, rfl⟩
      cases hop
    rcases Draft.settle_eq_error hsettle with ⟨why, rfl⟩ | ⟨cause, rfl⟩ <;>
      exact iff_of_false (show ¬500 ≤ 400 by omega) hno
  | missing hop =>
    refine iff_of_false (show ¬500 ≤ 404 by omega) ?_
    rintro ⟨search, limit, rfl⟩
    cases hop
  | full _ hfull => exact absurd hroom hfull
  | tooLong => exact iff_of_true (show 500 ≤ 500 by omega) ⟨_, _, rfl⟩
  | stuck => exact iff_of_false (show ¬500 ≤ 400 by omega) nofun

theorem serverFailure_run_iff (op : Operation) (ht : db.table = some t) (hroom : t.HasRoom) :
    500 ≤ (response op (op.run { database := db }).1).status ↔
      ∃ search limit, op = .list search limit ∧ (Search.ofText search).TooLong ∧ t.rows ≠ [] ∧ limit ≠ 0 := by
  rcases op.run_cases ht with ⟨reply, hreply⟩ | ⟨e, he, -, hstep⟩
  · have hstatus := status_render op reply
    rw [hreply]
    refine iff_of_false (fun hle => ?_) ?_
    · have : (response op (.ok reply)).status = (render op reply).status := rfl
      omega
    · rintro ⟨search, limit, rfl, hlist⟩
      obtain ⟨e, he⟩ := (Operation.list_fails_iff ht search limit).mpr hlist
      cases he.symm.trans hreply
  · rw [he]
    show 500 ≤ (Failure.task e).status ↔ _
    rw [serverFailure_iff (show t.ledger.HasRoom from hroom) hstep]
    constructor
    · rintro ⟨search, limit, rfl⟩
      exact ⟨search, limit, rfl, (Operation.list_fails_iff ht search limit).mp ⟨e, he⟩⟩
    · rintro ⟨search, limit, hop, -⟩
      exact ⟨search, limit, hop⟩

namespace Server

variable {server : Server}

/-- Whatever a healthy server is asked for and whatever its table holds: while there is a number left for a new task it
tells of a failure of its own just where a list is narrowed down to a text that makes too long a pattern and the table is
not empty; and a request that it does not fulfil leaves the database as it was. -/
theorem failure_iff_tooLong (h : server.Healthy) (ht : db.table = some t) (request : Http.Request) :
    (t.HasRoom → (500 ≤ (server.handle request db).1.status ↔
      Route.of? request.method request.target.segments = some .listTasks ∧
        (Search.ofText (request.target.value? "search")).TooLong ∧ t.rows ≠ [])) ∧
    (400 ≤ (server.handle request db).1.status → (server.handle request db).2 = db) := by
  obtain ⟨limit, hlimit, hpos⟩ := h.limited
  refine ⟨fun hroom => ⟨fun hfails => ?_, fun ⟨hroute, hlong, hrows⟩ => ?_⟩, fun hrefused => ?_⟩
  · rcases server.accounted h request db with ⟨op, hasks, hhandle⟩ | ⟨-, hlt, -⟩
    · rw [hhandle] at hfails
      obtain ⟨search, limit', rfl, hlong, hrows, -⟩ := (serverFailure_run_iff op ht hroom).mp hfails
      cases hasks with
      | list hroute => exact ⟨hroute, hlong, hrows⟩
    · omega
  · rw [handle_of_asks h (.list hroute hlimit) db]
    exact (serverFailure_run_iff _ ht hroom).mpr ⟨_, _, rfl, hlong, hrows, by omega⟩
  -- An operation that succeeds is answered with 200 or 201, so a refused one has failed and left the database.
  · rcases server.accounted h request db with ⟨op, hasks, hhandle⟩ | ⟨-, -, hkept⟩
    · rw [hhandle] at hrefused ⊢
      rcases op.run_cases ht with ⟨reply, hreply⟩ | ⟨e, -, hkept, -⟩
      · have hstatus := status_render op reply
        have : (response op (op.run { database := db }).1).status = (render op reply).status := by
          rw [hreply]
          rfl
        simp only at hrefused
        omega
      · exact hkept
    · exact hkept

/-- Fifty thousand letters. -/
def letters : String :=
  String.ofList (List.replicate 50000 'a')

theorem tooLong_letters : (Search.ofText (some letters)).TooLong := by
  have htrim : Text.trim letters = letters := by
    refine Text.trim_of_not_blank fun c hc => ?_
    unfold letters at hc
    rw [String.toList_ofList] at hc
    rw [List.eq_of_mem_replicate hc]
    rfl
  have hne : letters ≠ "" := by
    unfold letters
    rw [ne_eq, ← String.toList_eq_nil_iff, String.toList_ofList]
    exact List.cons_ne_nil _ _
  have hday : Search.readDay letters.toList = none := by
    unfold letters
    rw [String.toList_ofList]
    rfl
  have hsearch : Search.ofText (some letters) = .containing letters := by
    unfold Search.ofText
    simp only [htrim, if_neg hne, hday]
  have hlen : ∀ n, String.utf8Len (List.replicate n 'a') = n := by
    intro n
    induction n with
    | zero => rfl
    | succ n ih =>
      have hone : 'a'.utf8Size = 1 := rfl
      rw [List.replicate_succ, String.utf8Len_cons, ih, hone]
  have hsize : letters.utf8ByteSize = 50000 := by
    unfold letters
    rw [String.utf8ByteSize_ofList, hlen]
  refine ⟨letters, hsearch, ?_⟩
  have hlongest : Like.longestPattern = 50000 := rfl
  rw [Like.utf8ByteSize_containing, hsize, hlongest]
  omega

/-- A search for those letters. -/
def searchLetters : Http.Request :=
  .asking .get ["api", "tasks"] [("search", letters)]

theorem target_searchLetters : searchLetters.target =
    { segments := ["api", "tasks"], endsWithSlash := false, query := [("search", letters)] } :=
  Http.Request.target_asking .get (by simp) (by simp [Http.Target.PlainName]) _

/-- The database with the rent as its one task. -/
def rentDue : Database :=
  Database.fresh.withTasks (Table.empty.insert Connection.rent.toEntry)

/-- The search fails where there is a task, and only there. -/
theorem failure_of_letters :
    onNewYear.Healthy ∧ rentDue.table = some (Table.empty.insert Connection.rent.toEntry) ∧
      500 ≤ (onNewYear.handle searchLetters rentDue).1.status ∧
      (onNewYear.handle searchLetters rentDue).2 = rentDue ∧
      Database.fresh.table = some Table.empty ∧ (onNewYear.handle searchLetters Database.fresh).1.status < 500 := by
  have htable : rentDue.table = some (Table.empty.insert Connection.rent.toEntry) := rfl
  have hempty : Database.fresh.table = some Table.empty := rfl
  have hroute : Route.of? searchLetters.method searchLetters.target.segments = some .listTasks := by
    rw [target_searchLetters]
    rfl
  have hlong : (Search.ofText (searchLetters.target.value? "search")).TooLong := by
    rw [target_searchLetters, Http.Target.value?_cons]
    exact tooLong_letters
  obtain ⟨hfails, hkept⟩ := failure_iff_tooLong healthy_onNewYear htable searchLetters
  obtain ⟨hfresh, -⟩ := failure_iff_tooLong healthy_onNewYear hempty searchLetters
  have hfailed := (hfails (by decide)).mpr ⟨hroute, hlong, List.cons_ne_nil _ _⟩
  refine ⟨healthy_onNewYear, htable, hfailed, hkept (by omega), hempty, ?_⟩
  exact Nat.lt_of_not_le fun hle => ((hfresh (by decide)).mp hle).2.2 rfl

end Server

end Api

end Agenda
