import Agenda.Proofs.Task.Ledger

/-!
# What operations make of a new database

Operations keep every entry sound (`Ledger.Step.sound`), so in every state that they make of a new database the task
of every row can be completed, unless the dates run out.
-/

namespace Agenda

/-- The connections that operations, one after the other, make of one with a new database. -/
inductive Connection.Reachable : Connection → Prop where
  | fresh : Reachable { database := Database.fresh }
  | step {c : Connection} (op : Operation) (h : Reachable c) : Reachable (op.run c).2

theorem Entry.Sound.moved {e : Entry} {today : Date} {date : String} (h : e.Sound)
    (hnext : nextDateText today e.date e.repeats = .ok date) : Entry.Sound { e with date } := by
  obtain ⟨d, hd, -⟩ := lt_of_nextDateText hnext
  exact ⟨⟨d, hd⟩, h.title, h.repeats⟩

namespace Ledger

variable {l l' : Ledger} {op : Operation} {answer : Except TaskError Reply} {id : Int} {e : Entry} {today : Date}

/-- Every entry is sound. -/
def Sound (l : Ledger) : Prop :=
  ∀ id e, l.entries.lookup id = some e → e.Sound

theorem sound_empty : Sound { entries := ∅, lastId := 0 } := by
  intro id e h
  rw [Finmap.lookup_empty] at h
  cases h

theorem sound_insert {entries : Finmap fun _ : Int => Entry} {lastId : Nat} (h : Sound { entries, lastId })
    (he : e.Sound) {n : Nat} : Sound { entries := entries.insert id e, lastId := n } := by
  intro i x hx
  by_cases hi : i = id
  · subst hi
    rw [Finmap.lookup_insert] at hx
    cases hx
    exact he
  · rw [Finmap.lookup_insert_of_ne _ hi] at hx
    exact h i x hx

theorem sound_remove (h : l.Sound) (id : Int) : (l.remove id).Sound := by
  intro i x hx
  by_cases hi : i = id
  · subst hi
    rw [remove, Finmap.lookup_erase] at hx
    cases hx
  · rw [remove, Finmap.lookup_erase_ne hi] at hx
    exact h i x hx

namespace Step

theorem sound (h : l.Step op answer l') (hl : l.Sound) : l'.Sound := by
  cases h with
  | refused | missing | full | found | listed | tooLong | stuck => exact hl
  | created hsettle => exact sound_insert hl (Draft.sound_of_settle hsettle)
  | updated hsettle => exact sound_insert hl (Draft.sound_of_settle hsettle)
  | removed => exact sound_remove hl _
  | moved hlookup _ hnext => exact sound_insert hl ((hl _ _ hlookup).moved hnext)
  | deleted => exact sound_remove hl _

/-- An operation that settles a draft leaves the entry that it answers, and its date has not passed. -/
theorem le_of_draft {draft : Draft} {reply : Reply} (h : l.Step op (.ok reply) l')
    (hop : op.draft? = some (draft, today)) :
    ∃ r : Task, reply = .task r ∧ (∀ id, op.id? = some id → r.id = id) ∧
      l'.entries.lookup r.id = some r.toEntry ∧ ∃ d, Date.parse r.date = .ok d ∧ today ≤ d := by
  cases h with
  | created hsettle =>
    cases hop
    exact ⟨_, rfl, nofun, Finmap.lookup_insert _, Draft.le_of_settle hsettle⟩
  | updated hsettle =>
    cases hop
    exact ⟨_, rfl, fun _ hid => Option.some.inj hid, Finmap.lookup_insert _, Draft.le_of_settle hsettle⟩
  | found | listed | removed | moved | deleted => cases hop

/-- A completion that moves a task leaves it on the date that it answers, after today. -/
theorem lt_of_moved {date : String} (h : l.Step (.complete id today) (.ok (.completion (.moved date))) l') :
    ∃ e, l'.entries.lookup id = some e ∧ e.date = date ∧ ∃ d, Date.parse date = .ok d ∧ today < d := by
  cases h with
  | moved _ _ hnext => exact ⟨_, Finmap.lookup_insert _, rfl, lt_of_nextDateText hnext⟩

/-- Where the entries are sound, the dates that run out are all that can fail a completion. -/
theorem dateOutOfRange_of_complete {cause : TaskError} (h : l.Step (.complete id today) (.error cause) l')
    (hl : l.Sound) (hid : id ∈ l.entries) : ∃ last, cause = .rule (.dateOutOfRange last) := by
  cases h with
  | refused hop => cases hop
  | missing hop _ hno =>
    cases hop
    exact absurd hid hno
  | stuck hlookup hrepeats hnext =>
    obtain ⟨⟨d, hd⟩, -, hrule⟩ := hl _ _ hlookup
    obtain ⟨rule, hr⟩ := hrule.resolve_left hrepeats
    obtain ⟨last, rfl⟩ := nextDateText_eq_error hd hr hnext
    exact ⟨last, rfl⟩

end Step

end Ledger

namespace Connection

variable {c : Connection}

theorem Reachable.sound (h : c.Reachable) : ∃ t, c.database.table = some t ∧ t.ledger.Sound := by
  -- What is kept along the run: there is a table, and its entries are sound.
  induction h with
  | fresh => exact ⟨Table.empty, rfl, Ledger.sound_empty⟩
  | @step c op _ ih =>
    obtain ⟨t, ht, hsound⟩ := ih
    obtain ⟨u, hu, hstep⟩ := op.run_step ht
    exact ⟨u, hu, hstep.sound hsound⟩

/-- In every state that operations make of a new database every row is sound. An operation with a draft that succeeds
from there leaves its row on a date that has not passed, a completion that moves a task leaves it on a date after
today, and a completion of a task that is there fails only where the dates run out. -/
theorem Reachable.rows_sound (h : c.Reachable) :
    ∃ t, c.database.table = some t ∧
      (∀ r ∈ t.rows, r.toEntry.Sound) ∧
      (∀ (op : Operation) draft today reply, op.draft? = some (draft, today) → (op.run c).1 = .ok reply →
        ∃ u, (op.run c).2.database.table = some u ∧ ∃ r ∈ u.rows, reply = .task r ∧
          (∀ id, op.id? = some id → r.id = id) ∧ ∃ d, Date.parse r.date = .ok d ∧ today ≤ d) ∧
      (∀ id today date, ((Operation.complete id today).run c).1 = .ok (.completion (.moved date)) →
        ∃ u, ((Operation.complete id today).run c).2.database.table = some u ∧ ∃ r ∈ u.rows, r.id = id ∧
          r.date = date ∧ ∃ d, Date.parse date = .ok d ∧ today < d) ∧
      ∀ r ∈ t.rows, ∀ today cause, ((Operation.complete r.id today).run c).1 = .error cause →
        ∃ last, cause = .rule (.dateOutOfRange last) := by
  obtain ⟨t, ht, hsound⟩ := h.sound
  refine ⟨t, ht, fun r hr => hsound _ _ (Table.lookup_ledger_eq_some_iff.mpr hr), ?_, ?_, ?_⟩
  · intro op draft today reply hop hreply
    obtain ⟨u, hu, hstep⟩ := op.run_step ht
    rw [hreply] at hstep
    obtain ⟨r, rfl, hid, hlookup, hdate⟩ := hstep.le_of_draft hop
    exact ⟨u, hu, r, Table.lookup_ledger_eq_some_iff.mp hlookup, rfl, hid, hdate⟩
  · intro id today date hmoved
    obtain ⟨u, hu, hstep⟩ := (Operation.complete id today).run_step ht
    rw [hmoved] at hstep
    obtain ⟨e, hlookup, hdate, hlt⟩ := hstep.lt_of_moved
    exact ⟨u, hu, _, Table.lookup_ledger_eq_some_iff.mp hlookup, rfl, hdate, hlt⟩
  · intro r hr today cause hcause
    obtain ⟨u, -, hstep⟩ := (Operation.complete r.id today).run_step ht
    rw [hcause] at hstep
    have hlookup := Table.lookup_ledger_eq_some_iff.mpr hr
    exact hstep.dateOutOfRange_of_complete hsound (Finmap.mem_of_lookup_eq_some hlookup)

/-- A task of every year, due on the last day of the calendar. -/
def yearEnd : Entry where
  date := "99991231"
  title := "close the books"
  comment := ""
  repeats := "y"

/-- What making that task leaves of a new database. -/
def withYearEnd : Connection :=
  ((Operation.create { title := yearEnd.title, date := yearEnd.date, repeats := yearEnd.repeats } Date.newYear).run
    { database := Database.fresh }).2

/-- That task is stored and sound, and its dates run out. -/
theorem rows_sound_withYearEnd :
    withYearEnd.Reachable ∧ withYearEnd.database.table = some (Table.empty.insert yearEnd) ∧ yearEnd.Sound ∧
      ∃ cause, ((Operation.complete 1 Date.newYear).run withYearEnd).1 = .error cause ∧
        ∃ last, cause = .rule (.dateOutOfRange last) := by
  have hreach : withYearEnd.Reachable := .step _ .fresh
  have htable : withYearEnd.database.table = some (Table.empty.insert yearEnd) := by rfl
  have hfail : ((Operation.complete 1 Date.newYear).run withYearEnd).1 =
      .error (.rule (.dateOutOfRange "99991231")) := by rfl
  have hrow : ({ toEntry := yearEnd, id := 1 } : Task) ∈ (Table.empty.insert yearEnd).rows :=
    List.mem_singleton.mpr rfl
  obtain ⟨t, ht, hsound, -, -, hcomplete⟩ := hreach.rows_sound
  obtain rfl := Option.some.inj (htable.symm.trans ht)
  exact ⟨hreach, htable, hsound _ hrow, _, hfail, hcomplete _ hrow _ _ hfail⟩

end Connection

end Agenda
