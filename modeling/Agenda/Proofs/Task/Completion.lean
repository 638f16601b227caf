import Agenda.Proofs.Repeat.Daily
import Agenda.Proofs.Store.Script
import Agenda.Proofs.Task.Reachable

/-!
# Completions of a repeating task

A completion moves a repeating task from its stored date, which was itself the outcome of a completion. The date is
written, read back and stepped on from, time and again, and yet stays a date of the rule from where the task began
(`Rule.Grid`): every completion adds some steps to those before. Operations on other tasks do not matter to it.
-/

namespace Agenda

/-! ### Dates on the grid of a rule -/

namespace Rule

variable {rule : Rule} {d a : Date} {n i j k : Nat} {steps : Nat → Nat} {due : Nat → Date}

/-- The first `n` dates after `d`, each some steps of the rule after the one before: the date `due j` is `steps j`
steps after `d`. -/
structure Grid (rule : Rule) (d : Date) (n : Nat) (steps : Nat → Nat) (due : Nat → Date) : Prop where
  zero : steps 0 = 0
  lt : ∀ i j, i < j → j ≤ n → steps i < steps j
  stepped : ∀ j ≤ n, rule.stepped d (steps j) = some (due j)

namespace Grid

theorem due_zero (h : rule.Grid d n steps due) : due 0 = d := by
  have h0 := h.stepped 0 (Nat.zero_le n)
  rw [h.zero] at h0
  exact (Option.some.inj h0).symm

theorem due_lt (h : rule.Grid d n steps due) (hr : rule.Readable) (hij : i < j) (hj : j ≤ n) : due i < due j :=
  stepped_lt_stepped hr (h.lt i j hij hj) (h.stepped i (Nat.le_of_lt (Nat.lt_of_lt_of_le hij hj))) (h.stepped j hj)

theorem refl (rule : Rule) (d : Date) : rule.Grid d 0 (fun _ => 0) fun _ => d where
  zero := rfl
  lt i j hij hj := by omega
  stepped _ _ := rfl

/-- From a date on the grid one goes on along the same grid. -/
theorem cons (hk : 1 ≤ k) (ha : rule.stepped d k = some a) (h : rule.Grid a n steps due) :
    rule.Grid d (n + 1) (Nat.casesOn · 0 fun j => k + steps j) (Nat.casesOn · d due) where
  zero := rfl
  lt i j hij hj := by
    cases j with
    | zero => omega
    | succ j =>
      cases i with
      | zero => exact Nat.lt_of_lt_of_le hk (Nat.le_add_right k (steps j))
      | succ i => exact Nat.add_lt_add_left (h.lt i j (by omega) (by omega)) k
  stepped j hj := by
    cases j with
    | zero => rfl
    | succ j =>
      show rule.stepped d (k + steps j) = some (due j)
      rw [stepped_add, ha]
      exact h.stepped j (by omega)

end Grid

/-- Steps of a daily rule move by a multiple of its days. -/
theorem ordinal_of_stepped_daily {days : Nat} (h : (daily days).stepped d k = some a) :
    a.ordinal = d.ordinal + k * days :=
  stepped_daily_eq_some_iff.mp h

end Rule

/-! ### Runs in which a task is only completed -/

theorem Entry.with_date (e : Entry) {d : Date} (hd : Date.parse e.date = .ok d) : { e with date := d.text } = e := by
  rw [Date.text_of_parse hd]

namespace Operation

/-- The operation is neither an update nor a removal of the task of that number. -/
def Spares (id : Int) : Operation → Prop
  | update i _ _ | delete i => i ≠ id
  | create _ _ | get _ | list _ _ | complete _ _ => True

instance (id : Int) : (op : Operation) → Decidable (op.Spares id)
  | update i _ _ | delete i => inferInstanceAs (Decidable (i ≠ id))
  | create _ _ | get _ | list _ _ | complete _ _ => inferInstanceAs (Decidable True)

/-- The operation marks the task of that number as done, and succeeds. -/
def completed (id : Int) : Operation → Except TaskError Reply → Bool
  | complete i _, .ok _ => i == id
  | _, _ => false

@[simp] theorem completed_error (id : Int) (op : Operation) (e : TaskError) : op.completed id (.error e) = false := by
  cases op <;> rfl

end Operation

namespace Connection

/-- How many of the operations mark the task of that number as done, with success. -/
def completions (c : Connection) (id : Int) : List Operation → Nat
  | [] => 0
  | op :: ops => (if op.completed id (op.run c).1 then 1 else 0) + completions (op.run c).2 id ops

end Connection

namespace Ledger.Step

variable {l l' : Ledger} {op : Operation} {answer : Except TaskError Reply} {id : Int} {e : Entry}

/-- An operation that spares a repeating task leaves it as it is, unless it completes it. -/
theorem kept_or_moved (h : l.Step op answer l') (hspares : op.Spares id) (he : l.entries.lookup id = some e)
    (hrepeats : e.repeats ≠ "") :
    op.completed id answer = false ∧ l'.entries.lookup id = some e ∨
    op.completed id answer = true ∧ ∃ today date, nextDateText today e.date e.repeats = .ok date ∧
      l'.entries.lookup id = some { e with date } := by
  cases h with
  | refused | missing | stuck => exact Or.inl ⟨Operation.completed_error _ _ _, he⟩
  | full | found | listed | tooLong => exact Or.inl ⟨rfl, he⟩
  | created _ _ hfresh => exact Or.inl ⟨rfl, (lookup_add hfresh (Finmap.mem_of_lookup_eq_some he) _).trans he⟩
  | updated => exact Or.inl ⟨rfl, (Finmap.lookup_insert_of_ne _ (Ne.symm hspares)).trans he⟩
  | deleted => exact Or.inl ⟨rfl, (Finmap.lookup_erase_ne (Ne.symm hspares)).trans he⟩
  | @removed i _ x hlookup honce =>
    have hne : i ≠ id := by
      rintro rfl
      obtain rfl := Option.some.inj (hlookup.symm.trans he)
      exact hrepeats honce
    exact Or.inl ⟨beq_false_of_ne hne, (Finmap.lookup_erase_ne hne.symm).trans he⟩
  | @moved i today x date hlookup _ hnext =>
    by_cases hi : i = id
    · subst hi
      obtain rfl := Option.some.inj (hlookup.symm.trans he)
      exact Or.inr ⟨beq_self_eq_true i, today, date, hnext, Finmap.lookup_insert _⟩
    · exact Or.inl ⟨beq_false_of_ne hi, (Finmap.lookup_insert_of_ne _ (Ne.symm hi)).trans he⟩

end Ledger.Step

namespace Connection

variable {c : Connection} {t : Table} {id : Int} {e : Entry} {d : Date} {rule : Rule} {ops : List Operation}

/-- After every part of a run that spares the task, its entry is the one it began with, on the date of the grid that
belongs to the number of completions so far. -/
theorem grid_of_spared (ht : c.database.table = some t) (he : t.ledger.entries.lookup id = some e)
    (hd : Date.parse e.date = .ok d) (hr : Rule.parse e.repeats = .ok rule) (hrepeats : e.repeats ≠ "")
    (hops : ∀ op ∈ ops, op.Spares id) :
    ∃ steps due, rule.Grid d (c.completions id ops) steps due ∧
      ∀ done, done <+: ops → ∃ u, (c.after Operation.run done).database.table = some u ∧
        u.ledger.entries.lookup id = some { e with date := (due (c.completions id done)).text } := by
  -- The run is taken from its front: after an operation the task is one to begin with again, on a date of the grid.
  induction ops generalizing c t e d with
  | nil =>
    refine ⟨fun _ => 0, fun _ => d, Rule.Grid.refl rule d, fun done hdone => ⟨t, ?_⟩⟩
    obtain rfl := List.prefix_nil.mp hdone
    rw [e.with_date hd]
    exact ⟨ht, he⟩
  | cons op ops ih =>
    obtain ⟨hop, hops⟩ := List.forall_mem_cons.mp hops
    obtain ⟨u, hu, hstep⟩ := op.run_step ht
    rcases hstep.kept_or_moved hop he hrepeats with ⟨hnot, hkept⟩ | ⟨hdone, today, date, hnext, hmoved⟩
    · -- The rest of the run starts from the same entry, so its grid is the one of the whole run.
      obtain ⟨steps, due, hgrid, hrun⟩ := ih hu hkept hd hr hrepeats hops
      have hcount : ∀ done, c.completions id (op :: done) = (op.run c).2.completions id done := by
        intro done
        rw [completions, hnot, if_neg Bool.false_ne_true, Nat.zero_add]
      refine ⟨steps, due, hcount ops ▸ hgrid, fun done hdone => ?_⟩
      rcases List.prefix_cons_iff.mp hdone with rfl | ⟨rest, rfl, hrest⟩
      · refine ⟨t, ht, ?_⟩
        rw [completions, hgrid.due_zero, e.with_date hd]
        exact he
      · rw [hcount]
        exact hrun rest hrest
    · -- The rest starts `k` steps further along the grid.
      obtain ⟨k, a, hk, rfl⟩ := firstPast_of_nextDateText hd hr hnext
      obtain ⟨steps, due, hgrid, hrun⟩ := ih hu hmoved (Date.parse_text a) hr hrepeats hops
      have hcount : ∀ done, c.completions id (op :: done) = (op.run c).2.completions id done + 1 := by
        intro done
        rw [completions, hdone, if_pos rfl, Nat.add_comm]
      refine ⟨_, _, hcount ops ▸ hgrid.cons hk.pos hk.reached, fun done hdone => ?_⟩
      rcases List.prefix_cons_iff.mp hdone with rfl | ⟨rest, rfl, hrest⟩
      · refine ⟨t, ht, ?_⟩
        show _ = some { e with date := d.text }
        rw [e.with_date hd]
        exact he
      · rw [hcount]
        exact hrun rest hrest

/-- A repeating task that operations have stored never leaves the grid of its rule and first date, as long as it is
only completed, whatever happens to other tasks and whatever days the completions take for today. After `j` successful
completions it is still there under its number, with nothing changed but its date, which is the one `steps j` steps
after the first; every completion takes more steps than all before it and ends on a later date. For a daily rule the
dates differ by multiples of its days. -/
theorem Reachable.completions_on_grid (h : c.Reachable) {r : Task} (ht : c.database.table = some t) (hr : r ∈ t.rows)
    (hrepeats : r.repeats ≠ "") (hops : ∀ op ∈ ops, op.Spares r.id) :
    ∃ d₀ rule, Date.parse r.date = .ok d₀ ∧ Rule.parse r.repeats = .ok rule ∧
      ∃ (steps : Nat → Nat) (due : Nat → Date), steps 0 = 0 ∧ due 0 = d₀ ∧
        (∀ i j, i < j → j ≤ c.completions r.id ops → steps i < steps j ∧ due i < due j) ∧
        (∀ j, j ≤ c.completions r.id ops → rule.stepped d₀ (steps j) = some (due j)) ∧
        (∀ n j, rule = .daily n → j ≤ c.completions r.id ops → ∃ m, (due j).ordinal = d₀.ordinal + m * n) ∧
        ∀ done, done <+: ops → ∃ u, (c.after Operation.run done).database.table = some u ∧
          u.find? r.id = some { r with date := (due (c.completions r.id done)).text } := by
  obtain ⟨t', ht', hsound⟩ := h.sound
  obtain rfl := Option.some.inj (ht.symm.trans ht')
  have he : t.ledger.entries.lookup r.id = some r.toEntry := Table.lookup_ledger_eq_some_iff.mpr hr
  obtain ⟨⟨d₀, hd⟩, -, hrule⟩ := hsound _ _ he
  obtain ⟨rule, hrule⟩ := hrule.resolve_left hrepeats
  have hreadable : rule.Readable := Rule.readable_of_parse hrule
  obtain ⟨steps, due, hgrid, hrun⟩ := grid_of_spared ht he hd hrule hrepeats hops
  refine ⟨d₀, rule, hd, hrule, steps, due, hgrid.zero, hgrid.due_zero, fun i j hij hj => ?_, hgrid.stepped, ?_, ?_⟩
  · exact ⟨hgrid.lt i j hij hj, hgrid.due_lt hreadable hij hj⟩
  · rintro n j rfl hj
    exact ⟨steps j, Rule.ordinal_of_stepped_daily (hgrid.stepped j hj)⟩
  · intro done hdone
    obtain ⟨u, hu, hlookup⟩ := hrun done hdone
    exact ⟨u, hu, Table.find?_eq_some_iff.mpr ⟨Table.lookup_ledger_eq_some_iff.mp hlookup, rfl⟩⟩

/-- A task of every third day, due on New Year's Day of 2023. -/
def watering : Task where
  date := "20230101"
  title := "water the plants"
  comment := ""
  repeats := "d 3"
  id := 1

/-- What making that task leaves of a new database. -/
def withWatering : Connection :=
  ((Operation.create { title := watering.title, date := watering.date, repeats := watering.repeats } Date.newYear).run
    { database := Database.fresh }).2

/-- It is marked as done on New Year's Day, and again, before the first date that this gave, after another task was
made and deleted. -/
def wateredTwice : List Operation :=
  [.complete 1 Date.newYear, .create { title := "rent" } Date.newYear, .delete 2, .complete 1 Date.newYear]

/-- The first completion moves the task by one step, the second one by another, although `now` is the same. -/
theorem completions_on_grid_withWatering :
    withWatering.Reachable ∧ withWatering.database.table = some (Table.empty.insert watering.toEntry) ∧
      (∀ op ∈ wateredTwice, op.Spares 1) ∧ withWatering.completions 1 wateredTwice = 2 ∧
      ∃ steps : Nat → Nat, steps 0 = 0 ∧ steps 0 < steps 1 ∧ steps 1 < steps 2 ∧
        ∃ u, (withWatering.after Operation.run wateredTwice).database.table = some u ∧
          ∃ d, (Rule.daily 3).stepped Date.newYear (steps 2) = some d ∧
            u.find? 1 = some { watering with date := d.text } := by
  have hreach : withWatering.Reachable := .step _ .fresh
  have htable : withWatering.database.table = some (Table.empty.insert watering.toEntry) := by rfl
  have hspares : ∀ op ∈ wateredTwice, op.Spares 1 := by decide
  have hcount : withWatering.completions 1 wateredTwice = 2 := by decide +kernel
  have hrow : watering ∈ (Table.empty.insert watering.toEntry).rows := List.mem_singleton.mpr rfl
  obtain ⟨d₀, rule, hd, hrule, steps, due, hzero, -, hlt, hstepped, -, hrun⟩ :=
    hreach.completions_on_grid htable hrow (by decide) hspares
  obtain rfl : Date.newYear = d₀ := Except.ok.inj ((show Date.parse watering.date = .ok Date.newYear by decide).symm.trans hd)
  obtain rfl : Rule.daily 3 = rule := Except.ok.inj ((show Rule.parse watering.repeats = _ by decide).symm.trans hrule)
  obtain ⟨u, hu, hfind⟩ := hrun wateredTwice (List.prefix_refl _)
  have hcount' : withWatering.completions watering.id wateredTwice = 2 := hcount
  rw [hcount'] at hfind hlt hstepped
  exact ⟨hreach, htable, hspares, hcount, steps, hzero, (hlt 0 1 (by omega) (by omega)).1, (hlt 1 2 (by omega) (by omega)).1,
    u, hu, due 2, hstepped 2 (by omega), hfind⟩

end Connection

end Agenda
