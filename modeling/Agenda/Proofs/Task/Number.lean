import Agenda.Proofs.Store.History
import Agenda.Proofs.Task.Step

/-!
# Numbers of tasks

A step that stores a task gives it the number after the last one given. So along a run the numbers that have been
given and not been undone are 1, 2, 3 and so on, whichever of their tasks are still there: the counter comes back to
an earlier number only together with the tasks and the log of that moment. A number without a row gets one only by
being given (`Ledger.Grown.gone`), which is why the number of a deleted task stays free.
-/

namespace Agenda

/-! ### Numbers in the ledger -/

namespace Ledger

variable {l l' l'' : Ledger} {given given' : List Int} {id i : Int} {e : Entry}

/-- From one ledger to another these numbers were given, in this order: the ones after the last, one by one. No other
number came to have an entry. -/
structure Grown (l l' : Ledger) (given : List Int) : Prop where
  lastId : l'.lastId = l.lastId + given.length
  bounds : ∀ i ∈ given, l.lastId < i ∧ i ≤ l'.lastId
  increasing : given.Pairwise (· < ·)
  gone : ∀ i, i ∉ l.entries → i ∉ given → i ∉ l'.entries

namespace Grown

theorem refl (l : Ledger) : Grown l l [] where
  lastId := rfl
  bounds := nofun
  increasing := List.Pairwise.nil
  gone _ h _ := h

theorem trans (h : Grown l l' given) (h' : Grown l' l'' given') : Grown l l'' (given ++ given') where
  lastId := by
    rw [h'.lastId, h.lastId, List.length_append, Nat.add_assoc]
  bounds i hi := by
    have hle := h.lastId
    have hle' := h'.lastId
    rcases List.mem_append.mp hi with hi | hi
    · obtain ⟨hlt, hub⟩ := h.bounds i hi
      exact ⟨hlt, by omega⟩
    · obtain ⟨hlt, hub⟩ := h'.bounds i hi
      exact ⟨by omega, hub⟩
  increasing := by
    refine List.pairwise_append.mpr ⟨h.increasing, h'.increasing, fun i hi j hj => ?_⟩
    exact lt_of_le_of_lt (h.bounds i hi).2 (h'.bounds j hj).1
  gone i hi hgiven := by
    obtain ⟨hno, hno'⟩ := not_or.mp (mt List.mem_append.mpr hgiven)
    exact h'.gone i (h.gone i hi hno) hno'

end Grown

theorem grown_put (hid : id ∈ l.entries) (e : Entry) : Grown l (l.put id e) [] where
  lastId := rfl
  bounds := nofun
  increasing := List.Pairwise.nil
  gone i hi _ hput := by
    rcases Finmap.mem_insert.mp hput with rfl | hmem
    · exact hi hid
    · exact hi hmem

theorem grown_remove (l : Ledger) (id : Int) : Grown l (l.remove id) [] where
  lastId := rfl
  bounds := nofun
  increasing := List.Pairwise.nil
  gone _ hi _ hremove := hi (Finmap.mem_erase.mp hremove).2

theorem grown_add (l : Ledger) (e : Entry) : Grown l (l.add e) [(l.lastId : Int) + 1] where
  lastId := rfl
  bounds i hi := by
    obtain rfl := List.mem_singleton.mp hi
    exact ⟨Int.lt_succ _, le_of_eq rfl⟩
  increasing := List.pairwise_singleton _ _
  gone i hi hgiven hadd := by
    rcases Finmap.mem_insert.mp hadd with rfl | hmem
    · exact hgiven (List.mem_singleton.mpr rfl)
    · exact hi hmem

end Ledger

/-! ### Numbers that steps give -/

namespace Operation

/-- The number of the task that the operation stores, going by its answer. -/
def given? : Operation → Except TaskError Reply → Option Int
  | create _ _, .ok (.task r) => some r.id
  | _, _ => none

@[simp] theorem given?_error (op : Operation) (e : TaskError) : op.given? (.error e) = none := by
  cases op <;> rfl

end Operation

theorem Table.grown_modify (t : Table) (id : Int) (f : Entry → Entry) : t.ledger.Grown (t.modify id f).ledger [] := by
  cases hfind : t.find? id with
  | none =>
    rw [Table.modify_of_absent hfind]
    exact Ledger.Grown.refl _
  | some r =>
    rw [Table.ledger_modify hfind]
    exact Ledger.grown_put (Table.mem_ledger_of_find? hfind) _

theorem Ledger.Step.grown {l l' : Ledger} {op : Operation} {answer : Except TaskError Reply}
    (h : l.Step op answer l') : Grown l l' (op.given? answer).toList := by
  cases h with
  | refused | missing | stuck =>
    rw [Operation.given?_error]
    exact Grown.refl l
  | full | found | listed | tooLong => exact Grown.refl l
  | created => exact grown_add l _
  | updated _ hid => exact grown_put hid _
  | moved hlookup => exact grown_put (Finmap.mem_of_lookup_eq_some hlookup) _
  | removed | deleted => exact grown_remove l _

namespace Step

variable {c d : Connection} {t : Table} {s : Step} {steps : List Step} {scripts : List (Script Step)}
  {log before behind : List (Step × Except TaskError StepReply)}

/-- The step works on tasks and leaves the schema alone. -/
def OnTasks : Step → Prop
  | operation _ | statement _ => True
  | migrate | dropTable => False

instance : (s : Step) → Decidable s.OnTasks
  | operation _ | statement _ => inferInstanceAs (Decidable True)
  | migrate | dropTable => inferInstanceAs (Decidable False)

/-- The number of the task that the step stores, going by its answer. -/
def given? : Step → Except TaskError StepReply → Option Int
  | operation op, .ok (.operation reply) => op.given? (.ok reply)
  | statement (.insert _), .ok (.statement (.inserted id)) => some id
  | _, _ => none

/-- The numbers that the steps of a log give, in order. -/
def numbers (log : List (Step × Except TaskError StepReply)) : List Int :=
  log.flatMap fun p => (p.1.given? p.2).toList

theorem given?_of_error {e : TaskError} (s : Step) : s.given? (.error e) = none := by
  cases s with
  | statement s => cases s <;> rfl
  | operation | migrate | dropTable => rfl

theorem run_statement_ok {s : Statement} {reply : StatementReply} {db : Database}
    (h : s.run c.database = .ok (reply, db)) :
    (statement s).run c = (.ok (.statement reply), { c with database := db }) :=
  Session.bind_of_ok (Session.writing_of_ok h)

theorem run_statement_error {s : Statement} {e : QueryError} (h : s.run c.database = .error e) :
    (statement s).run c = (.error (.store (.query e)), c) :=
  Session.bind_of_error (Session.writing_of_error h)

/-- The step leaves a table that has given one number more if the answer tells of one, and else none. -/
def Gives (s : Step) (c : Connection) (t : Table) : Prop :=
  ∃ u, (s.run c).2.database.table = some u ∧ t.ledger.Grown u.ledger (s.given? (s.run c).1).toList

theorem Gives.of_error {e : TaskError} (hrun : s.run c = (.error e, c)) (ht : c.database.table = some t) :
    s.Gives c t := by
  refine ⟨t, ?_⟩
  rw [hrun, given?_of_error]
  exact ⟨ht, Ledger.Grown.refl _⟩

theorem operation_gives (ht : c.database.table = some t) (op : Operation) : (operation op).Gives c t := by
  obtain ⟨u, hu, hstep⟩ := op.run_step ht
  have hkept := op.atomic_run c
  rcases hrun : op.run c with ⟨answer, d⟩
  rw [hrun] at hu hstep hkept
  cases answer with
  | error e =>
    obtain rfl := hkept e rfl
    exact .of_error (Session.bind_of_error hrun) ht
  | ok reply =>
    have hdone : (operation op).run c = (.ok (.operation reply), d) := Session.bind_of_ok hrun
    refine ⟨u, ?_⟩
    rw [hdone]
    exact ⟨hu, hstep.grown⟩

theorem statement_gives (ht : c.database.table = some t) (s : Statement) : (statement s).Gives c t := by
  obtain ⟨⟨table, migrated⟩, saved⟩ := c
  cases ht
  have htable : Database.table { table := some t, migrated } = some t := rfl
  cases s with
  | insert e =>
    by_cases hroom : t.HasRoom
    · have hinsert := Database.insert_of_hasRoom htable hroom e
      have hrun : (Statement.insert e).run { table := some t, migrated } =
          .ok (.inserted (t.lastId + 1), { table := some (t.insert e), migrated }) :=
        congrArg (Except.map _) hinsert
      refine ⟨t.insert e, ?_⟩
      rw [run_statement_ok hrun]
      exact ⟨rfl, Table.ledger_insert hroom e ▸ t.ledger.grown_add e⟩
    · have hinsert := Database.insert_of_full htable hroom e
      have hrun : (Statement.insert e).run { table := some t, migrated } = .error .full :=
        congrArg (Except.map _) hinsert
      exact .of_error (run_statement_error hrun) rfl
  | find | list | listOn => exact ⟨t, rfl, Ledger.Grown.refl _⟩
  | search needle limit =>
    have hsearch := Database.search_eq htable needle limit
    have hrun : (Statement.search needle limit).run { table := some t, migrated } =
        (t.matching (Like.containing needle) limit).map fun tasks => (.rows tasks, { table := some t, migrated }) :=
      congrArg (Except.map _) hsearch
    rcases t.matching_cases (Like.containing needle) limit with hok | ⟨-, herr⟩
    · rw [hok] at hrun
      refine ⟨t, ?_⟩
      rw [run_statement_ok hrun]
      exact ⟨rfl, Ledger.Grown.refl _⟩
    · rw [herr] at hrun
      exact .of_error (run_statement_error hrun) rfl
  | replace id e => exact ⟨_, rfl, t.grown_modify id _⟩
  | redate id date => exact ⟨_, rfl, t.grown_modify id _⟩
  | remove id => exact ⟨t.erase id, rfl, t.ledger_erase id ▸ t.ledger.grown_remove id⟩

theorem run_gives (hs : s.OnTasks) (ht : c.database.table = some t) : s.Gives c t := by
  cases s with
  | operation op => exact operation_gives ht op
  | statement s => exact statement_gives ht s
  | migrate | dropTable => exact hs.elim

/-! ### Numbers along a run -/

/-- Steps, one after the other, give the numbers that are in their answers. -/
theorem after_grown (hsteps : ∀ s ∈ steps, s.OnTasks) (ht : c.database.table = some t) :
    ∃ u, (c.after run steps).database.table = some u ∧ t.ledger.Grown u.ledger (numbers (c.trace run steps)) := by
  induction steps generalizing c t with
  | nil => exact ⟨t, ht, Ledger.Grown.refl _⟩
  | cons s steps ih =>
    obtain ⟨hs, hsteps⟩ := List.forall_mem_cons.mp hsteps
    obtain ⟨u, hu, hgrown⟩ := run_gives hs ht
    obtain ⟨v, hv, hrest⟩ := ih hsteps hu
    exact ⟨v, hv, hgrown.trans hrest⟩

/-- At every moment of a run that works on the tasks of a new database, transactions and all, the numbers that were
given and not undone are in increasing order, and every row has one of them, no two the same. A step that stores a
task next gives it a number above all of these, one more than how many there are; so numbers stay below 2⁶³ while
fewer tasks than that are stored. And where after a part of the log a number that was given has no row, it has none
after the whole log: it never names another task. -/
theorem numbers_given_once (hsteps : ∀ s ∈ Script.stepsAll scripts, s.OnTasks)
    (h : Script.Passes run unused scripts log d) :
    ∃ t, d.database.table = some t ∧
      (t.rows.map (·.id)).Nodup ∧
      (∀ r ∈ t.rows, r.id ∈ numbers log) ∧
      (numbers log).Pairwise (· < ·) ∧
      (∀ (s : Step) id, s.OnTasks → s.given? (s.run d).1 = some id →
        id = (numbers log).length + 1 ∧ (∀ r ∈ t.rows, r.id < id) ∧ ∀ i ∈ numbers log, i < id) ∧
      ∀ before behind, log = before ++ behind → ∀ i ∈ numbers before, ∀ u,
        (unused.after run (before.map Prod.fst)).database.table = some u → u.find? i = none → t.find? i = none := by
  obtain ⟨steps, hmem, rfl, hd⟩ := h.eq_trace local_run
  have hon : ∀ s ∈ steps, s.OnTasks := fun s hs => hsteps s (hmem s hs)
  obtain ⟨t, ht, hgrown⟩ := after_grown hon (show unused.database.table = some Table.empty from rfl)
  have hrow : ∀ r ∈ t.rows, r.id ∈ numbers (unused.trace run steps) := by
    intro r hr
    by_contra hno
    have hgone := hgrown.gone r.id (Table.notMem_ledger_iff.mpr rfl) hno
    exact Table.find?_eq_none_iff.mp (Table.notMem_ledger_iff.mp hgone) r hr rfl
  have hlast : t.lastId = (numbers (unused.trace run steps)).length := by
    have := hgrown.lastId
    exact this.trans (Nat.zero_add _)
  refine ⟨t, hd ▸ ht, t.nodup_ids, hrow, hgrown.increasing, ?_, ?_⟩
  · intro s id hs hid
    obtain ⟨u, -, hnext⟩ := run_gives hs (hd ▸ ht)
    rw [hid] at hnext
    obtain ⟨hlt, hle⟩ := hnext.bounds id (List.mem_singleton.mpr rfl)
    have hone : u.ledger.lastId = t.ledger.lastId + 1 := hnext.lastId
    have hid : id = t.ledger.lastId + 1 := by omega
    refine ⟨hlast ▸ hid, fun r hr => ?_, fun i hi => ?_⟩
    · exact lt_of_le_of_lt (t.le_lastId r hr) hlt
    · exact lt_of_le_of_lt (hgrown.bounds i hi).2 hlt
  · intro before behind hlog i hi u hu hgone
    obtain ⟨xs, ys, rfl, rfl, rfl⟩ := Connection.exists_of_trace_eq_append hlog
    have hxs : (unused.trace run xs).map Prod.fst = xs := Connection.map_fst_trace run xs unused
    rw [hxs] at hu
    obtain ⟨hbefore, hbehind⟩ := List.forall_mem_append.mp hon
    obtain ⟨u', hu', hgrown'⟩ := after_grown hbefore (show unused.database.table = some Table.empty from rfl)
    obtain rfl := Option.some.inj (hu.symm.trans hu')
    obtain ⟨t', ht', hrest⟩ := after_grown hbehind hu
    have happend : unused.after run (xs ++ ys) = (unused.after run xs).after run ys :=
      Connection.after_append unused run xs ys
    rw [happend, ht'] at ht
    obtain rfl := Option.some.inj ht
    -- The numbers behind are above all those before, so the number is not given again.
    have hno : i ∉ numbers ((unused.after run xs).trace run ys) := fun hagain =>
      absurd (hrest.bounds i hagain).1 (not_lt_of_ge (hgrown'.bounds i hi).2)
    exact Table.notMem_ledger_iff.mp (hrest.gone i (Table.notMem_ledger_iff.mpr hgone) hno)

/-- Bread is stored and deleted; the milk in between is undone. -/
def breadForgotten : List (Script Step) :=
  [.step (storing "bread"), .block [.step (storing "milk")] false, .step (.operation (.delete 1)),
    .step (storing "butter")]

/-- The log of that run: the milk is not in it, and the butter has its number. -/
def breadForgottenLog : List (Step × Except TaskError StepReply) :=
  [(storing "bread", .ok (.statement (.inserted 1))), (.operation (.delete 1), .ok (.operation .deleted)),
    (storing "butter", .ok (.statement (.inserted 2)))]

/-- The number of the milk, which was undone, is given to the butter; that of the bread, which was deleted, to no task
again. -/
theorem numbers_given_once_breadForgotten :
    (∀ s ∈ Script.stepsAll breadForgotten, s.OnTasks) ∧
      Script.Passes run unused breadForgotten breadForgottenLog (runAll breadForgotten unused).2 ∧
      ∃ t, (runAll breadForgotten unused).2.database.table = some t ∧ numbers breadForgottenLog = [1, 2] ∧
        t.find? 1 = none ∧
        ∀ id, (storing "salt").given? ((storing "salt").run (runAll breadForgotten unused).2).1 = some id → id = 3 := by
  have hsteps : ∀ s ∈ Script.stepsAll breadForgotten, s.OnTasks := by decide
  have hpasses : Script.Passes run unused breadForgotten breadForgottenLog (runAll breadForgotten unused).2 :=
    .behind (.behind (.behind (.behind (.here _ _))))
  obtain ⟨t, ht, -, -, -, hnext, hgone⟩ := numbers_given_once hsteps hpasses
  refine ⟨hsteps, hpasses, t, ht, rfl, ?_, fun id hid => (hnext (storing "salt") id trivial hid).1⟩
  exact hgone (breadForgottenLog.take 2) (breadForgottenLog.drop 2) rfl 1 (List.mem_singleton.mpr rfl) _ rfl rfl

end Step

end Agenda
