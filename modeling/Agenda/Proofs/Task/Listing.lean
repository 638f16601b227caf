import Agenda.Proofs.Store.Search
import Agenda.Proofs.Task.Reachable

/-!
# Lists of tasks

The three statements behind a list keep one order: by the day that the stored date names, and by number on the same
day. They compare texts of dates, or only numbers; that this is the order of the days is due to every stored date
being one that can be read (`Task.dueBefore_of_precedes`).
-/

namespace Agenda

namespace Search

/-- The task belongs to the search. -/
def Matches : Search → Task → Prop
  | all, _ => True
  | onDate date, r => Date.parse r.date = .ok date
  | containing text, r =>
    Like.accepts (Like.compile (Like.containing text)) r.title = true ∨
      Like.accepts (Like.compile (Like.containing text)) r.comment = true

/-- The text of the search makes a pattern that the matcher does not take. -/
def TooLong (search : Search) : Prop :=
  ∃ text, search = containing text ∧ Like.longestPattern < (Like.containing text).utf8ByteSize

end Search

namespace Task

/-- The strict order of days and, on one day, of numbers. -/
def DueBefore (a b : Task) : Prop :=
  ∃ d e, Date.parse a.date = .ok d ∧ Date.parse b.date = .ok e ∧ (d < e ∨ d = e ∧ a.id < b.id)

variable {a b : Task} {d : Date}

theorem DueBefore.ne (h : a.DueBefore b) : a ≠ b := by
  rintro rfl
  obtain ⟨d, e, hd, he, h⟩ := h
  obtain rfl := Except.ok.inj (hd.symm.trans he)
  rcases h with h | ⟨-, h⟩
  · exact lt_irrefl d h
  · exact lt_irrefl a.id h

theorem date_eq_text_iff : a.date = d.text ↔ Date.parse a.date = .ok d := by
  constructor
  · intro h
    rw [h]
    exact Date.parse_text d
  · intro h
    exact (Date.text_of_parse h).symm

/-- Between dates that can be read, the order of their texts is the order of the days. -/
theorem dueBefore_of_precedes (ha : a.Sound) (hb : b.Sound) (h : a.Precedes b) : a.DueBefore b := by
  obtain ⟨d, hd⟩ := ha.date
  obtain ⟨e, he⟩ := hb.date
  refine ⟨d, e, hd, he, ?_⟩
  rcases h with hdate | ⟨hdate, hid⟩
  · rw [← Date.text_of_parse hd, ← Date.text_of_parse he, Date.text_lt_text] at hdate
    exact Or.inl hdate
  · rw [hdate, he] at hd
    exact Or.inr ⟨(Except.ok.inj hd).symm, hid⟩

end Task

namespace Table

variable {t : Table} {r : Task}

theorem mem_pick (search : Search) : r ∈ t.pick search ↔ r ∈ t.rows ∧ search.Matches r := by
  cases search with
  | all => simp [pick, Search.Matches]
  | onDate date => simp [pick, Search.Matches, Task.date_eq_text_iff]
  | containing text => simp [pick, Search.Matches, matched]

end Table

namespace Connection

variable {c : Connection} {t : Table}

/-- The answer of a list is a beginning of the picked rows in order, or an error about the length of the text. -/
theorem list_answer (ht : c.database.table = some t) (search : Option String) (limit : Nat) :
    (Task.list search limit c).1 = .ok (((t.pick (Search.ofText search)).mergeSort Task.before).take limit) ∨
      (Search.ofText search).TooLong ∧ (Task.list search limit c).1 = .error (.store (.query .patternTooLong)) := by
  have hlist := Task.list_eq c t search limit
  rw [withTable_eq ht] at hlist
  rcases hlist with hok | ⟨text, hsearch, hlong, herr⟩
  · rw [hok]
    exact Or.inl rfl
  · rw [herr]
    exact Or.inr ⟨⟨text, hsearch, hlong⟩, rfl⟩

/-- In every state that operations make of a new database, lists of one search with different limits are beginnings of
one list: that of all the tasks of the search, each once, by the days on which they are due and then by number. Only a
text that makes too long a pattern gets an error instead. -/
theorem Reachable.list_in_order (h : c.Reachable) (search : Option String) :
    ∃ (t : Table) (found : List Task), c.database.table = some t ∧
      (∀ r, r ∈ found ↔ r ∈ t.rows ∧ (Search.ofText search).Matches r) ∧
      found.Pairwise Task.DueBefore ∧ found.Nodup ∧
      (∀ limit tasks, (Task.list search limit c).1 = .ok tasks → tasks = found.take limit) ∧
      (∀ limit cause, (Task.list search limit c).1 = .error cause → (Search.ofText search).TooLong) ∧
      ∀ limit limit' tasks tasks', limit ≤ limit' → (Task.list search limit c).1 = .ok tasks →
        (Task.list search limit' c).1 = .ok tasks' → tasks <+: tasks' := by
  obtain ⟨t, ht, hsound⟩ := h.sound
  have hrow : ∀ r ∈ t.rows, r.Sound := fun r hr => hsound _ _ (Table.lookup_ledger_eq_some_iff.mpr hr)
  have hmem : ∀ r, r ∈ (t.pick (Search.ofText search)).mergeSort Task.before ↔
      r ∈ t.rows ∧ (Search.ofText search).Matches r := fun r => List.mem_mergeSort.trans (Table.mem_pick _)
  have hdue : ((t.pick (Search.ofText search)).mergeSort Task.before).Pairwise Task.DueBefore := by
    have hids : ((t.pick (Search.ofText search)).map (·.id)).Nodup :=
      t.nodup_ids.sublist ((t.pick_sublist _).map _)
    exact (Task.pairwise_precedes hids).imp_of_mem fun ha hb hab =>
      Task.dueBefore_of_precedes (hrow _ ((hmem _).mp ha).1) (hrow _ ((hmem _).mp hb).1) hab
  have hok : ∀ limit tasks, (Task.list search limit c).1 = .ok tasks →
      tasks = ((t.pick (Search.ofText search)).mergeSort Task.before).take limit := by
    intro limit tasks htasks
    rcases list_answer ht search limit with hlist | ⟨-, herr⟩
    · exact Except.ok.inj (htasks.symm.trans hlist)
    · cases htasks.symm.trans herr
  refine ⟨t, _, ht, hmem, hdue, hdue.imp Task.DueBefore.ne, hok, ?_, ?_⟩
  · intro limit cause hcause
    rcases list_answer ht search limit with hlist | ⟨hlong, -⟩
    · cases hcause.symm.trans hlist
    · exact hlong
  · intro limit limit' tasks tasks' hle htasks htasks'
    rw [hok limit tasks htasks, hok limit' tasks' htasks']
    exact List.take_prefix_take_left hle

/-- A task of 1 February 2024 and, stored after it, one of an earlier day. -/
def rent : Task where
  date := "20240201"
  title := "rent"
  comment := ""
  repeats := ""
  id := 1

@[inherit_doc rent] def visit : Task where
  date := "20230105"
  title := "visit"
  comment := "bring flowers"
  repeats := "y"
  id := 2

/-- What making these tasks leaves of a new database. -/
def withRentAndVisit : Connection :=
  ((Operation.create { title := visit.title, date := visit.date, comment := visit.comment, repeats := visit.repeats }
      Date.newYear).run
    ((Operation.create { title := rent.title, date := rent.date } Date.newYear).run { database := Database.fresh }).2).2

/-- All the tasks come in the order of their days, and those of a day come alone. -/
theorem list_in_order_withRentAndVisit :
    withRentAndVisit.Reachable ∧
      (∃ found : List Task, (Task.list none 2 withRentAndVisit).1 = .ok (found.take 2) ∧
        (∀ r, r ∈ found ↔ r = rent ∨ r = visit) ∧ found.Pairwise Task.DueBefore) ∧
      (Task.list (some "1.2.2024") 0 withRentAndVisit).1 = .ok [] ∧
      (Task.list (some "1.2.2024") 2 withRentAndVisit).1 = .ok [rent] ∧ [] <+: [rent] := by
  have hreach : withRentAndVisit.Reachable := .step _ (.step _ .fresh)
  have htable : withRentAndVisit.database.table = some ((Table.empty.insert rent.toEntry).insert visit.toEntry) := by rfl
  have hnone : (Task.list (some "1.2.2024") 0 withRentAndVisit).1 = .ok [] := by decide +kernel
  have hrent : (Task.list (some "1.2.2024") 2 withRentAndVisit).1 = .ok [rent] := by decide +kernel
  obtain ⟨t, found, ht, hmem, hdue, -, hok, -⟩ := hreach.list_in_order none
  obtain ⟨-, -, -, -, -, -, -, -, hprefix⟩ := hreach.list_in_order (some "1.2.2024")
  obtain rfl := Option.some.inj (htable.symm.trans ht)
  have hlist : (Task.list none 2 withRentAndVisit).1 = .ok (found.take 2) := by
    rw [← hok 2 _ rfl]
    rfl
  refine ⟨hreach, ⟨found, hlist, fun r => ?_, hdue⟩, hnone, hrent, hprefix 0 2 _ _ (by omega) hnone hrent⟩
  rw [hmem]
  show r ∈ [rent, visit] ∧ True ↔ _
  simp

end Connection

end Agenda
