import Agenda.Proofs.Store.History
import Agenda.Proofs.Task.Listing
import Agenda.Proofs.Task.Step

/-!
# Operations on different tasks

An operation that names a task looks at the row of that number and at nothing else, and changes no other row
(`Operation.exists_actsOn`). So operations on different tasks can change places: neither sees what the other does. By
moving one operation after the other past those of another client, two lists of operations that are interleaved in any
way come to be one list after the other.
-/

namespace Agenda

/-! ### Changes of one row -/

namespace Table

/-- What becomes of the row of a number. -/
inductive RowChange where
  | keep
  | change (f : Entry → Entry)
  | remove

namespace RowChange

/-- The row of that number after the change; any other row stays. -/
def row (id : Int) : RowChange → Task → Option Task
  | keep, r => some r
  | change f, r => some (changeRow id f r)
  | remove, r => if r.id = id then none else some r

variable {i j id : Int} {r r' : Task}

theorem row_of_ne (h : r.id ≠ id) (x : RowChange) : x.row id r = some r := by
  cases x with
  | keep => rfl
  | change f => simp [row, changeRow, h]
  | remove => simp [row, h]

theorem id_of_row {x : RowChange} (h : x.row id r = some r') : r'.id = r.id := by
  cases x with
  | keep =>
    cases h
    rfl
  | change f =>
    cases h
    exact changeRow_id id f r
  | remove =>
    obtain ⟨-, h⟩ := Option.ite_none_left_eq_some.mp h
    cases h
    rfl

theorem bind_row_of_ne (h : r.id ≠ id) (x y : RowChange) : (x.row i r).bind (y.row id) = x.row i r := by
  cases hx : x.row i r with
  | none => rfl
  | some r' => exact row_of_ne (id_of_row hx ▸ h) y

/-- Changes of the rows of different numbers can change places. -/
theorem row_comm (h : i ≠ j) (x y : RowChange) (r : Task) :
    (x.row i r).bind (y.row j) = (y.row j r).bind (x.row i) := by
  by_cases hi : r.id = i
  · have hj : r.id ≠ j := hi ▸ h
    rw [bind_row_of_ne hj, row_of_ne hj, Option.bind_some]
  · rw [bind_row_of_ne hi, row_of_ne hi, Option.bind_some]

end RowChange

variable {t : Table} {i j id : Int}

/-- The table after a change of the row of that number. -/
def changed (t : Table) (id : Int) : RowChange → Table
  | .keep => t
  | .change f => t.modify id f
  | .remove => t.erase id

theorem rows_changed (t : Table) (id : Int) (x : RowChange) :
    (t.changed id x).rows = t.rows.filterMap (x.row id) := by
  cases x with
  | keep => exact List.filterMap_some.symm
  | change f => exact (congrFun List.filterMap_eq_map t.rows).symm
  | remove =>
    show t.rows.filter (·.id != id) = _
    rw [← List.filterMap_eq_filter]
    congr 1
    funext r
    by_cases hr : r.id = id <;> simp [RowChange.row, Option.guard, hr]

theorem lastId_changed (t : Table) (id : Int) (x : RowChange) : (t.changed id x).lastId = t.lastId := by
  cases x <;> rfl

theorem changed_comm (h : i ≠ j) (x y : RowChange) :
    (t.changed i x).changed j y = (t.changed j y).changed i x := by
  refine ext ?_ ?_
  · simp only [rows_changed, List.filterMap_filterMap]
    congr 1
    funext r
    exact RowChange.row_comm h x y r
  · simp only [lastId_changed]

theorem find?_changed_of_ne (h : i ≠ id) (x : RowChange) : (t.changed id x).find? i = t.find? i := by
  cases x with
  | keep => rfl
  | change f =>
    show (t.modify id f).find? i = _
    rw [find?_modify]
    cases hfind : t.find? i with
    | none => rfl
    | some r =>
      have hr : r.id ≠ id := (find?_eq_some_iff.mp hfind).2 ▸ h
      simp [changeRow, hr]
  | remove =>
    show (t.erase id).find? i = _
    rw [find?_erase, if_neg h]

end Table

namespace Operation

open Table (RowChange)

variable {a b op : Operation} {i j id : Int} {c : Connection} {xs ys zs : List Operation}

/-- An answer and what becomes of the row of a number, by the row that is there. -/
abbrev Effect : Type :=
  Option Task → Except TaskError Reply × RowChange

/-- The operation looks at the row of that number alone, and does what it does to that row alone. -/
def ActsOn (op : Operation) (id : Int) (effect : Effect) : Prop :=
  ∀ (c : Connection) (t : Table),
    op.run (c.withTable t) = ((effect (t.find? id)).1, c.withTable (t.changed id (effect (t.find? id)).2))

/-! The effects of the four operations that name a task. -/

def getEffect (id : Int) : Effect
  | none => (.error (.noTask id), .keep)
  | some r => (.ok (.task r), .keep)

def updateEffect (id : Int) : Except TaskError Entry → Effect
  | .error e, _ => (.error e, .keep)
  | .ok _, none => (.error (.noTask id), .keep)
  | .ok entry, some _ => (.ok (.task { toEntry := entry, id }), .change fun _ => entry)

def moveEffect : Except RuleError String → Except TaskError Reply × RowChange
  | .error e => (.error (.rule e), .keep)
  | .ok next => (.ok (.completion (.moved next)), .change fun e => { e with date := next })

def completeEffect (id : Int) (today : Date) : Effect
  | none => (.error (.noTask id), .keep)
  | some r =>
    if r.repeats = "" then (.ok (.completion .removed), .remove) else moveEffect (nextDateText today r.date r.repeats)

def deleteEffect (id : Int) : Effect
  | none => (.error (.noTask id), .keep)
  | some _ => (.ok .deleted, .remove)

theorem get_actsOn (id : Int) : (get id).ActsOn id (getEffect id) := by
  intro c t
  have hrun := Task.get_eq c t id
  cases hfind : t.find? id with
  | none =>
    rw [hfind] at hrun
    exact Session.bind_of_error hrun
  | some r =>
    rw [hfind] at hrun
    exact Session.bind_of_ok hrun

theorem update_actsOn (id : Int) (draft : Draft) (today : Date) :
    (update id draft today).ActsOn id (updateEffect id (draft.settle today)) := by
  intro c t
  have hrun := Task.update_eq c t id draft today
  cases hsettle : draft.settle today with
  | error e =>
    rw [hsettle] at hrun
    exact Session.bind_of_error hrun
  | ok entry =>
    rw [hsettle] at hrun
    cases hfind : t.find? id with
    | none =>
      rw [hfind] at hrun
      exact Session.bind_of_error hrun
    | some r =>
      rw [hfind] at hrun
      exact Session.bind_of_ok hrun

theorem complete_actsOn (id : Int) (today : Date) : (complete id today).ActsOn id (completeEffect id today) := by
  intro c t
  have hrun := Task.complete_eq c t id today
  cases hfind : t.find? id with
  | none =>
    rw [hfind] at hrun
    exact Session.bind_of_error hrun
  | some r =>
    rw [hfind] at hrun
    unfold completeEffect
    by_cases honce : r.repeats = ""
    · simp only [if_pos honce] at hrun ⊢
      exact Session.bind_of_ok hrun
    · simp only [if_neg honce] at hrun ⊢
      cases hnext : nextDateText today r.date r.repeats with
      | error e =>
        rw [hnext] at hrun
        exact Session.bind_of_error hrun
      | ok next =>
        rw [hnext] at hrun
        exact Session.bind_of_ok hrun

theorem delete_actsOn (id : Int) : (delete id).ActsOn id (deleteEffect id) := by
  intro c t
  have hrun := Task.delete_eq c t id
  cases hfind : t.find? id with
  | none =>
    rw [hfind] at hrun
    exact Session.bind_of_error hrun
  | some r =>
    rw [hfind] at hrun
    exact Session.bind_of_ok hrun

theorem exists_actsOn (h : op.id? = some id) : ∃ effect, op.ActsOn id effect := by
  cases op with
  | create | list => cases h
  | get i =>
    cases h
    exact ⟨_, get_actsOn id⟩
  | update i draft today =>
    cases h
    exact ⟨_, update_actsOn id draft today⟩
  | complete i today =>
    cases h
    exact ⟨_, complete_actsOn id today⟩
  | delete i =>
    cases h
    exact ⟨_, delete_actsOn id⟩

/-! ### Changing places -/

/-- The operations name different tasks. -/
structure Apart (a b : Operation) : Prop where
  left : a.id? ≠ none
  right : b.id? ≠ none
  ne : a.id? ≠ b.id?

theorem Apart.symm (h : a.Apart b) : b.Apart a where
  left := h.right
  right := h.left
  ne := h.ne.symm

/-- An operation answers the same after one on another task, and the two leave the same in either order. -/
theorem Apart.run_comm (h : a.Apart b) (c : Connection) :
    (b.run (a.run c).2).1 = (b.run c).1 ∧ (b.run (a.run c).2).2 = (a.run (b.run c).2).2 := by
  obtain ⟨i, hi⟩ := Option.ne_none_iff_exists'.mp h.left
  obtain ⟨j, hj⟩ := Option.ne_none_iff_exists'.mp h.right
  have hne : i ≠ j := fun hij => h.ne (by rw [hi, hj, hij])
  cases ht : c.database.table with
  | none =>
    -- Without a table both fail and leave the connection as it is.
    obtain ⟨e, ha⟩ := a.failsOn_noTable ht
    obtain ⟨e', hb⟩ := b.failsOn_noTable ht
    simp only [ha, hb, and_self]
  | some t =>
    obtain ⟨effect, ha⟩ := exists_actsOn hi
    obtain ⟨effect', hb⟩ := exists_actsOn hj
    rw [← Connection.withTable_eq ht, ha, hb, hb, ha, Table.find?_changed_of_ne hne.symm, Table.find?_changed_of_ne hne]
    exact ⟨rfl, congrArg c.withTable (Table.changed_comm hne _ _)⟩

/-- An operation can be moved to the front of operations on other tasks. -/
theorem run_after_of_apart (h : ∀ a ∈ xs, a.Apart b) (c : Connection) :
    b.run (c.after run xs) = ((b.run c).1, (b.run c).2.after run xs) ∧
      (b.run c).2.trace run xs = c.trace run xs := by
  induction xs generalizing c with
  | nil => exact ⟨rfl, rfl⟩
  | cons a xs ih =>
    obtain ⟨ha, hxs⟩ := List.forall_mem_cons.mp h
    obtain ⟨hanswer, hstate⟩ := ha.run_comm c
    obtain ⟨hanswer', -⟩ := ha.symm.run_comm c
    obtain ⟨hrun, htrace⟩ := ih hxs (a.run c).2
    rw [hanswer, hstate] at hrun
    rw [hstate] at htrace
    refine ⟨hrun, ?_⟩
    show (a, (a.run (b.run c).2).1) :: (a.run (b.run c).2).2.trace run xs = (a, (a.run c).1) :: (a.run c).2.trace run xs
    rw [hanswer', htrace]

end Operation

/-! ### Interleavings -/

/-- The third list is made up of the first two, the elements of each in their order. -/
inductive Interleaving {α : Type} : List α → List α → List α → Prop
  | nil : Interleaving [] [] []
  | left {xs ys zs : List α} (x : α) (h : Interleaving xs ys zs) : Interleaving (x :: xs) ys (x :: zs)
  | right {xs ys zs : List α} (y : α) (h : Interleaving xs ys zs) : Interleaving xs (y :: ys) (y :: zs)

theorem Interleaving.symm {α : Type} {xs ys zs : List α} (h : Interleaving xs ys zs) : Interleaving ys xs zs := by
  induction h with
  | nil => exact .nil
  | left x _ ih => exact .right x ih
  | right y _ ih => exact .left y ih

namespace Operation

variable {xs ys zs : List Operation}

theorem after_interleaving (hzs : Interleaving xs ys zs) (hapart : ∀ a ∈ xs, ∀ b ∈ ys, a.Apart b) (c : Connection) :
    c.after run zs = (c.after run xs).after run ys ∧
      Interleaving (c.trace run xs) ((c.after run xs).trace run ys) (c.trace run zs) := by
  induction hzs generalizing c with
  | nil => exact ⟨rfl, .nil⟩
  | left x _ ih =>
    obtain ⟨hafter, htrace⟩ := ih (List.forall_mem_cons.mp hapart).2 (x.run c).2
    exact ⟨hafter, .left _ htrace⟩
  | @right xs ys zs y _ ih =>
    have hy : ∀ a ∈ xs, a.Apart y := fun a ha => hapart a ha y List.mem_cons_self
    obtain ⟨hafter, htrace⟩ := ih (fun a ha b hb => hapart a ha b (List.mem_cons_of_mem y hb)) (y.run c).2
    obtain ⟨hrun, hxs⟩ := run_after_of_apart hy c
    have hlater : (c.after run xs).trace run (y :: ys) =
        (y, (y.run c).1) :: ((y.run c).2.after run xs).trace run ys := by
      show (y, (y.run (c.after run xs)).1) :: (y.run (c.after run xs)).2.trace run ys = _
      rw [hrun]
    refine ⟨?_, ?_⟩
    · show (y.run c).2.after run zs = (y.run (c.after run xs)).2.after run ys
      rw [hafter, hrun]
    · rw [hlater, ← hxs]
      exact .right _ htrace

/-- Two lists of operations that name tasks, those of one list others than those of the other, may be interleaved in any
way: what they leave is what they leave one list after the other, whichever goes first, and every operation answers
the same. -/
theorem interleaved_eq_sequential (hzs : Interleaving xs ys zs) (hnamed : ∀ op ∈ xs ++ ys, op.id? ≠ none)
    (hdisjoint : ∀ a ∈ xs, ∀ b ∈ ys, a.id? ≠ b.id?) (c : Connection) :
    (c.after run zs = c.after run (xs ++ ys) ∧
        Interleaving (c.trace run xs) ((c.after run xs).trace run ys) (c.trace run zs)) ∧
      c.after run zs = c.after run (ys ++ xs) ∧
        Interleaving ((c.after run ys).trace run xs) (c.trace run ys) (c.trace run zs) := by
  have hapart : ∀ a ∈ xs, ∀ b ∈ ys, a.Apart b := fun a ha b hb =>
    ⟨hnamed a (List.mem_append_left ys ha), hnamed b (List.mem_append_right xs hb), hdisjoint a ha b hb⟩
  obtain ⟨hafter, htrace⟩ := after_interleaving hzs hapart c
  obtain ⟨hafter', htrace'⟩ := after_interleaving hzs.symm (fun b hb a ha => (hapart a ha b hb).symm) c
  exact ⟨⟨hafter.trans (Connection.after_append c run xs ys).symm, htrace⟩,
    hafter'.trans (Connection.after_append c run ys xs).symm, htrace'.symm⟩

/-- One client completes and then looks at the rent, another one moves the visit and deletes it. -/
def onRent : List Operation :=
  [.complete 1 Date.newYear, .get 1]

@[inherit_doc onRent] def onVisit : List Operation :=
  [.complete 2 Date.newYear, .delete 2]

/-- The operations of the two clients as they arrive. -/
def onRentAndVisit : List Operation :=
  [.complete 2 Date.newYear, .complete 1 Date.newYear, .delete 2, .get 1]

/-- The rent is gone when it is looked at, as without the other client. -/
theorem interleaved_eq_sequential_onRentAndVisit :
    Interleaving onRent onVisit onRentAndVisit ∧ (∀ op ∈ onRent ++ onVisit, op.id? ≠ none) ∧
      (∀ a ∈ onRent, ∀ b ∈ onVisit, a.id? ≠ b.id?) ∧
      Connection.withRentAndVisit.after run onRentAndVisit =
        Connection.withRentAndVisit.after run (onRent ++ onVisit) ∧
      Interleaving
        [(.complete 1 Date.newYear, .ok (.completion .removed)), (.get 1, .error (.noTask 1))]
        ((Connection.withRentAndVisit.after run onRent).trace run onVisit)
        (Connection.withRentAndVisit.trace run onRentAndVisit) := by
  have hzs : Interleaving onRent onVisit onRentAndVisit := .right _ (.left _ (.right _ (.left _ .nil)))
  have hnamed : ∀ op ∈ onRent ++ onVisit, op.id? ≠ none := by decide
  have hdisjoint : ∀ a ∈ onRent, ∀ b ∈ onVisit, a.id? ≠ b.id? := by decide
  obtain ⟨⟨hafter, htrace⟩, -⟩ := interleaved_eq_sequential hzs hnamed hdisjoint Connection.withRentAndVisit
  exact ⟨hzs, hnamed, hdisjoint, hafter, htrace⟩

end Operation

end Agenda
