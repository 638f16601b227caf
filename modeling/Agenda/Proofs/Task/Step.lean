import Agenda.Proofs.Store.Script
import Agenda.Proofs.Task.Ledger
import Agenda.Task.Step

/-!
# Steps in nested transactions

Every step of a script works on the database alone (`Step.local_run`), also one that opens a transaction of its own,
and leaves everything as it was if it fails (`Step.atomic_run`). So nested transactions are as good as the list of the
steps that last in them.
-/

namespace Agenda

/-! ### Sessions that work on the database alone -/

namespace Session

open Connection (Local)

variable {α β : Type} {work : Session α}

theorem local_ofExcept (answer : Except TaskError α) : Local (ofExcept answer) := fun _ _ => rfl

theorem local_pure (a : α) : Local (pure a : Session α) := local_ofExcept (.ok a)

theorem local_fail (e : TaskError) : Local (fail e : Session α) := local_ofExcept (.error e)

theorem local_reading (statement : Database → Except QueryError α) : Local (reading statement) := by
  intro c saved
  dsimp only [reading]
  cases statement c.database <;> rfl

theorem local_writing (statement : Database → Except QueryError (α × Database)) : Local (writing statement) := by
  intro c saved
  dsimp only [writing]
  cases statement c.database <;> rfl

theorem local_altering (change : Database → Except QueryError Database) : Local (altering change) := by
  intro c saved
  dsimp only [altering]
  cases change c.database <;> rfl

theorem local_bind {next : α → Session β} (hwork : Local work) (hnext : ∀ a, Local (next a)) :
    Local (work >>= next) := by
  intro c saved
  have hsaved := hwork c saved
  rcases hc : work c with ⟨answer, d⟩
  rw [hc] at hsaved
  cases answer with
  | error e => rw [bind_of_error hc, bind_of_error hsaved]
  | ok a =>
    rw [bind_of_ok hc, bind_of_ok hsaved]
    exact hnext a d saved

theorem local_ite {p : Prop} [Decidable p] {first second : Session α} (hfirst : Local first) (hsecond : Local second) :
    Local (if p then first else second : Session α) := by
  by_cases h : p
  · rw [if_pos h]
    exact hfirst
  · rw [if_neg h]
    exact hsecond

theorem local_transaction (hwork : Local work) : Local (transaction work) := by
  intro c saved
  have hbegin : ∀ saved, work (Connection.begin { c with savepoints := saved }) = _ := fun saved =>
    hwork c (c.database :: saved)
  have hc := hbegin c.savepoints
  unfold transaction
  rw [hbegin saved, hc]
  cases (work c).1 <;> rfl

end Session

namespace Task

open Connection (Local)
open Session

theorem local_create (draft : Draft) (today : Date) : Local (create draft today) :=
  local_bind (local_ofExcept _) fun _ => local_bind (local_writing _) fun _ => local_pure _

theorem local_get (id : Int) : Local (get id) := by
  refine local_bind (local_reading _) fun found => ?_
  cases found with
  | none => exact local_fail _
  | some task => exact local_pure task

theorem local_list (search : Option String) (limit : Nat) : Local (list search limit) := by
  unfold list
  cases Search.ofText search <;> exact local_reading _

theorem local_update (id : Int) (draft : Draft) (today : Date) : Local (update id draft today) :=
  local_bind (local_ofExcept _) fun _ => local_bind (local_writing _) fun _ => local_ite (local_fail _) (local_pure _)

theorem local_complete (id : Int) (today : Date) : Local (complete id today) := by
  refine local_transaction (local_bind (local_get id) fun task => local_ite ?_ ?_)
  · exact local_bind (local_writing _) fun _ => local_pure _
  · exact local_bind (local_ofExcept _) fun _ => local_bind (local_writing _) fun _ => local_pure _

theorem local_delete (id : Int) : Local (delete id) :=
  local_bind (local_writing _) fun _ => local_ite (local_fail _) (local_pure _)

end Task

/-! ### Failure -/

namespace Session

variable {α β : Type} {work : Session α} {c : Connection}

/-- The work fails and leaves the connection as it is. -/
def FailsOn (work : Session α) (c : Connection) : Prop :=
  ∃ e, work c = (.error e, c)

theorem FailsOn.writing {statement : Database → Except QueryError (α × Database)} {e : QueryError}
    (h : statement c.database = .error e) : (writing statement).FailsOn c := by
  refine ⟨.store (.query e), ?_⟩
  unfold Session.writing
  rw [h]

theorem FailsOn.bind (h : work.FailsOn c) (next : α → Session β) : (work >>= next).FailsOn c :=
  h.imp fun _ => bind_of_error

theorem FailsOn.ofExcept_bind {answer : Except TaskError α} {next : α → Session β} (h : ∀ a, (next a).FailsOn c) :
    (ofExcept answer >>= next).FailsOn c := by
  cases answer with
  | error e => exact ⟨e, rfl⟩
  | ok a => exact h a

/-- Whenever the work fails it leaves the connection as it is. -/
def Atomic (work : Session α) : Prop :=
  ∀ c e, (work c).1 = .error e → (work c).2 = c

theorem Atomic.map (h : work.Atomic) (f : α → β) : Atomic (work >>= fun a => pure (f a)) := by
  intro c e herr
  rcases hc : work c with ⟨answer, d⟩
  cases answer with
  | error e' =>
    rw [bind_of_error hc]
    have hd := h c e' (by rw [hc])
    rwa [hc] at hd
  | ok a =>
    rw [bind_of_ok hc] at herr
    cases herr

theorem atomic_writing (statement : Database → Except QueryError (α × Database)) : Atomic (writing statement) := by
  intro c e herr
  unfold writing at herr ⊢
  cases h : statement c.database with
  | error cause => rfl
  | ok a =>
    rw [h] at herr
    cases herr

theorem atomic_altering (change : Database → Except QueryError Database) : Atomic (altering change) := by
  intro c e herr
  unfold altering at herr ⊢
  cases h : change c.database with
  | error cause => rfl
  | ok db =>
    rw [h] at herr
    cases herr

end Session

namespace Operation

variable {c : Connection} {e : TaskError}

theorem local_run (op : Operation) : Connection.Local op.run := by
  cases op with
  | create draft today => exact Session.local_bind (Task.local_create draft today) fun _ => Session.local_pure _
  | get id => exact Session.local_bind (Task.local_get id) fun _ => Session.local_pure _
  | list search limit => exact Session.local_bind (Task.local_list search limit) fun _ => Session.local_pure _
  | update id draft today => exact Session.local_bind (Task.local_update id draft today) fun _ => Session.local_pure _
  | complete id today => exact Session.local_bind (Task.local_complete id today) fun _ => Session.local_pure _
  | delete id => exact Session.local_bind (Task.local_delete id) fun _ => Session.local_pure _

/-- Without a table an operation fails and changes nothing. -/
theorem failsOn_noTable (op : Operation) (h : c.database.table = none) : op.run.FailsOn c := by
  obtain ⟨⟨table, migrated⟩, saved⟩ := c
  cases h
  cases op with
  | create draft today =>
    refine .bind (.ofExcept_bind fun entry => ?_) _
    exact .bind (.writing rfl) _
  | list search limit =>
    refine .bind ?_ _
    unfold Task.list
    cases Search.ofText search <;> exact ⟨_, rfl⟩
  | update id draft today =>
    refine .bind (.ofExcept_bind fun entry => ?_) _
    exact .bind (.writing rfl) _
  | get | complete | delete => exact ⟨_, rfl⟩

theorem atomic_run (op : Operation) : op.run.Atomic := by
  intro c e herr
  cases ht : c.database.table with
  | none =>
    obtain ⟨e', hrun⟩ := op.failsOn_noTable ht
    rw [hrun]
  | some t =>
    obtain ⟨answer, u, hrun, -, hkept⟩ := op.refines c t
    rw [Connection.withTable_eq ht] at hrun
    rw [hrun] at herr ⊢
    rw [hkept e herr]
    exact Connection.withTable_eq ht

end Operation

/-! ### Steps -/

namespace Step

theorem local_run (step : Step) : Connection.Local step.run := by
  cases step with
  | operation op => exact Session.local_bind op.local_run fun _ => Session.local_pure _
  | statement s => exact Session.local_bind (Session.local_writing _) fun _ => Session.local_pure _
  | migrate => exact Session.local_bind (Session.local_altering _) fun _ => Session.local_pure _
  | dropTable => exact Session.local_bind (Session.local_altering _) fun _ => Session.local_pure _

/-- A step that fails undoes itself, also where it opened a transaction of its own. -/
theorem atomic_run (step : Step) : step.run.Atomic := by
  cases step with
  | operation op => exact op.atomic_run.map _
  | statement s => exact (Session.atomic_writing _).map _
  | migrate => exact (Session.atomic_altering _).map fun _ => StepReply.schema
  | dropTable => exact (Session.atomic_altering _).map fun _ => StepReply.schema

/-- Nested transactions leave what the steps that last in them leave one after the other: those of a block that is
undone are gone, with the blocks in it, and those of a block that is kept stand in its place. Every step answers as it
does after the earlier steps that last up to then, those of the blocks around it included. A step that fails leaves
everything as it was, so the block that it stands in does what it does without it. -/
theorem runAll_lasting (scripts : List (Script Step)) (c : Connection) :
    (runAll scripts c).2 = c.after run (Script.lastingAll scripts) ∧
      (runAll scripts c).1 = Script.answersAll run c [] scripts ∧
      (∀ (s : Step) d e, (s.run d).1 = .error e → (s.run d).2 = d) ∧
      ∀ (s : Step) before behind kept d e, (s.run (d.begin.after run (Script.lastingAll before))).1 = .error e →
        (runAll [.block (before ++ .step s :: behind) kept] d).2 = (runAll [.block (before ++ behind) kept] d).2 := by
  refine ⟨Script.runAll_after local_run scripts c, Script.runAll_answers local_run c scripts [] c rfl,
    fun s d e herr => s.atomic_run d e herr, ?_⟩
  intro s before behind kept d e herr
  have hskip := Script.runAll_skip local_run (s.atomic_run _ e herr) behind
  show Connection.finish (Script.runAll run (before ++ .step s :: behind) d.begin).2 kept = _
  rw [hskip]
  rfl

/-- A step that stores a task of that title. -/
def storing (title : String) : Step :=
  .statement (.insert { date := "20230101", title, comment := "", repeats := "" })

/-- A step that finds no task to delete. -/
def deletingNone : Step :=
  .operation (.delete 9)

/-- A task that is stored, one that is undone, and one more after a step that failed. -/
def shopping (kept : Bool) : Script Step :=
  .block ([.step (storing "bread"), .block [.step (storing "milk")] false] ++
    .step deletingNone :: [.step (storing "butter")]) kept

/-- A connection that works on a new database. -/
def unused : Connection where
  database := Database.fresh

/-- A connection to a table that has given its last number. -/
def usedUp : Connection where
  database := { table := some Table.usedUp, migrated := true }

/-- The number of the task that is undone is given again, and undone with the whole block no number is given at all.
Where there is no number left a task is not stored, which leaves the block around it as it is. -/
theorem runAll_lasting_shopping :
    (runAll [shopping true] unused).2 = unused.after run [storing "bread", deletingNone, storing "butter"] ∧
      (runAll [shopping true] unused).2.database.table.map (·.lastId) = some 2 ∧
      (runAll [shopping false] unused).2 = unused ∧
      (deletingNone.run (unused.begin.after run [storing "bread"])).1 = .error (.noTask 9) ∧
      (runAll [shopping true] unused).2 =
        (runAll [.block ([.step (storing "bread"), .block [.step (storing "milk")] false] ++ [.step (storing "butter")])
          true] unused).2 ∧
      ((storing "salt").run usedUp.begin).1 = .error (.store (.query .full)) ∧
      (runAll [.block [.step (storing "salt")] true] usedUp).2 = usedUp := by
  have hfull : ((storing "salt").run (usedUp.begin.after run [])).1 = .error (.store (.query .full)) := by rfl
  have hfail : (deletingNone.run (unused.begin.after run [storing "bread"])).1 = .error (.noTask 9) := by
    decide +kernel
  obtain ⟨hkept, -, -, hskip⟩ := runAll_lasting [shopping true] unused
  refine ⟨hkept, ?_, (runAll_lasting [shopping false] unused).1, hfail, hskip _ _ _ true unused _ hfail, hfull,
    hskip _ [] [] true usedUp _ hfull⟩
  rw [hkept]
  rfl

end Step

end Agenda
