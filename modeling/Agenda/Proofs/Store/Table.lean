import Agenda.Store.Database
import Mathlib

/-!
# Looking a task up by its number

The rows of a table have different numbers, none larger than the last one given. So `find?` gives the one row of a
number, and what the changes of a table do is said by what `find?` gives afterwards. An entry is stored as long as there
is a number left for it.
-/

namespace Agenda

namespace Table

variable {t u : Table} {id i : Int} {r a b : Task} {e : Entry} {f : Entry → Entry}

theorem ext (hrows : t.rows = u.rows) (hlast : t.lastId = u.lastId) : t = u := by
  cases t
  cases u
  cases hrows
  cases hlast
  rfl

/-! ### One row for each number -/

theorem nodup_ids (t : Table) : (t.rows.map (·.id)).Nodup :=
  List.pairwise_map.mpr (t.sorted.imp fun h => Int.ne_of_lt h)

theorem eq_of_id (ha : a ∈ t.rows) (hb : b ∈ t.rows) (h : a.id = b.id) : a = b :=
  List.inj_on_of_nodup_map t.nodup_ids ha hb h

theorem find?_eq_none_iff : t.find? id = none ↔ ∀ r ∈ t.rows, r.id ≠ id := by
  simp [find?]

theorem find?_eq_some_iff : t.find? id = some r ↔ r ∈ t.rows ∧ r.id = id := by
  constructor
  · intro h
    exact ⟨List.mem_of_find?_eq_some h, by simpa using List.find?_some h⟩
  · rintro ⟨hr, rfl⟩
    cases hfind : t.find? r.id with
    | none => exact absurd rfl (find?_eq_none_iff.mp hfind r hr)
    | some x =>
      have hx : x.id = r.id := by simpa using List.find?_some hfind
      rw [eq_of_id (List.mem_of_find?_eq_some hfind) hr hx]

theorem fitsWord_of_find? (h : t.find? id = some r) : Number.fitsWord id = true := by
  obtain ⟨hr, rfl⟩ := find?_eq_some_iff.mp h
  exact t.fitsWord r hr

theorem find?_of_lastId_lt (h : t.lastId < id) : t.find? id = none :=
  find?_eq_none_iff.mpr fun r hr heq => by
    have := t.le_lastId r hr
    omega

theorem count_eq_zero_iff : t.count id = 0 ↔ t.find? id = none := by
  unfold count
  rw [List.countP_eq_zero, find?_eq_none_iff]
  simp

theorem count_ne_zero_of_find? (h : t.find? id = some r) : t.count id ≠ 0 := by
  intro hcount
  rw [count_eq_zero_iff.mp hcount] at h
  cases h

/-! ### After a change -/

theorem rows_insert (h : t.HasRoom) (e : Entry) :
    (t.insert e).rows = t.rows ++ [{ toEntry := e, id := t.lastId + 1 }] := by
  rw [insert, dif_pos h]

theorem lastId_insert (h : t.HasRoom) (e : Entry) : (t.insert e).lastId = t.lastId + 1 := by
  rw [insert, dif_pos h]

theorem find?_insert (h : t.HasRoom) (e : Entry) (i : Int) :
    (t.insert e).find? i = if i = t.lastId + 1 then some { toEntry := e, id := t.lastId + 1 } else t.find? i := by
  unfold find?
  rw [rows_insert h, List.find?_append]
  split
  · rename_i hi
    subst hi
    have hnone : t.find? (t.lastId + 1) = none := find?_of_lastId_lt (Int.lt_succ _)
    unfold find? at hnone
    simp [hnone]
  · rename_i hi
    have hne : ((t.lastId : Int) + 1 == i) = false := by simpa using Ne.symm hi
    simp [hne]

theorem find?_modify (t : Table) (id : Int) (f : Entry → Entry) (i : Int) :
    (t.modify id f).find? i = (t.find? i).map (changeRow id f) := by
  unfold modify find?
  rw [List.find?_map]
  congr 2
  funext r
  simp

theorem find?_erase (t : Table) (id i : Int) : (t.erase id).find? i = if i = id then none else t.find? i := by
  unfold erase find?
  rw [List.find?_filter]
  split
  · rename_i hi
    subst hi
    simp
  · rename_i hi
    congr 1
    funext r
    by_cases hr : r.id = i
    · simp [hr, hi]
    · simp [hr]

/-- Changing the row of a number that no row has changes nothing. -/
theorem modify_of_absent (h : t.find? id = none) : t.modify id f = t := by
  refine ext ?_ rfl
  show t.rows.map (changeRow id f) = t.rows
  conv_rhs => rw [← List.map_id t.rows]
  refine List.map_congr_left fun r hr => ?_
  unfold changeRow
  rw [if_neg (find?_eq_none_iff.mp h r hr)]
  rfl

/-- Changing a row to what it is already changes nothing. -/
theorem modify_self (h : t.find? id = some r) : t.modify id (fun _ => r.toEntry) = t := by
  obtain ⟨hr, rfl⟩ := find?_eq_some_iff.mp h
  refine ext ?_ rfl
  show t.rows.map (changeRow r.id fun _ => r.toEntry) = t.rows
  conv_rhs => rw [← List.map_id t.rows]
  refine List.map_congr_left fun x hx => ?_
  unfold changeRow
  split_ifs with hid
  · rw [eq_of_id hx hr hid]
    rfl
  · rfl

/-- Removing the row of a number that no row has changes nothing. -/
theorem erase_of_absent (h : t.find? id = none) : t.erase id = t := by
  refine ext ?_ rfl
  show t.rows.filter (·.id != id) = t.rows
  rw [List.filter_eq_self]
  intro r hr
  simpa using find?_eq_none_iff.mp h r hr

/-! ### Lists -/

/-- The rows that a pattern matches, in the title or in the comment. -/
def matched (t : Table) (pattern : String) : List Task :=
  t.rows.filter fun r => Like.accepts (Like.compile pattern) r.title || Like.accepts (Like.compile pattern) r.comment

theorem matching_of_le {pattern : String} (h : pattern.utf8ByteSize ≤ Like.longestPattern) (limit : Nat) :
    t.matching pattern limit = .ok (firstByDate (t.matched pattern) limit) := by
  unfold matching
  rw [if_neg (by simp; omega)]
  rfl

theorem matching_cases (t : Table) (pattern : String) (limit : Nat) :
    t.matching pattern limit = .ok (firstByDate (t.matched pattern) limit) ∨
    Like.longestPattern < pattern.utf8ByteSize ∧ t.matching pattern limit = .error .patternTooLong := by
  rcases Nat.lt_or_ge Like.longestPattern pattern.utf8ByteSize with h | h
  · unfold matching
    split
    · exact Or.inr ⟨h, rfl⟩
    · exact Or.inl rfl
  · exact Or.inl (matching_of_le h limit)

theorem matching_eq_error_iff {pattern : String} {limit : Nat} :
    (∃ e, t.matching pattern limit = .error e) ↔
      Like.longestPattern < pattern.utf8ByteSize ∧ t.rows ≠ [] ∧ limit ≠ 0 := by
  unfold matching
  split
  · rename_i h
    simp only [Bool.and_eq_true, decide_eq_true_eq, Bool.not_eq_true', List.isEmpty_eq_false_iff, bne_iff_ne] at h
    exact ⟨fun _ => ⟨h.1.1, h.1.2, h.2⟩, fun _ => ⟨_, rfl⟩⟩
  · rename_i h
    simp only [Bool.and_eq_true, decide_eq_true_eq, Bool.not_eq_true', List.isEmpty_eq_false_iff, bne_iff_ne] at h
    exact ⟨nofun, fun ⟨hlong, hrows, hlimit⟩ => absurd ⟨⟨hlong, hrows⟩, hlimit⟩ h⟩

theorem mem_of_mem_firstByDate {rows : List Task} {limit : Nat} (h : r ∈ firstByDate rows limit) : r ∈ rows :=
  List.mem_mergeSort.mp (List.mem_of_mem_take h)

end Table

theorem Database.insert_of_hasRoom {db : Database} {t : Table} (h : db.table = some t) (hroom : t.HasRoom) (e : Entry) :
    db.insert e = .ok (t.lastId + 1, db.withTasks (t.insert e)) := by
  simp only [insert, tasks, h, bind, Except.bind, if_pos hroom]
  rfl

theorem Database.insert_of_full {db : Database} {t : Table} (h : db.table = some t) (hfull : ¬t.HasRoom) (e : Entry) :
    db.insert e = .error .full := by
  simp only [insert, tasks, h, bind, Except.bind, if_neg hfull]

/-- A table that has given its last number. -/
def Table.usedUp : Table :=
  { Table.empty with
    lastId := Table.greatestId
    le_lastId := fun _ hr => absurd hr List.not_mem_nil
    lastId_le := Nat.le_refl _ }

example (e : Entry) : Database.insert { table := some Table.usedUp } e = .error .full := rfl

/-- A search matches the rows of the table with the pattern of the needle. -/
theorem Database.search_eq {db : Database} {t : Table} (h : db.table = some t) (needle : String) (limit : Nat) :
    db.search needle limit = t.matching (Like.containing needle) limit := by
  unfold search tasks
  rw [h]
  simp only [bind, Except.bind]

end Agenda
