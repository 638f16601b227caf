import Agenda.Proofs.Store.Like
import Agenda.Proofs.Store.Table

/-!
# What a search finds

A search lists the rows of which the title or the comment contains the needle, in the order of their dates and then
of their numbers, as far as the limit lets it.
-/

namespace Agenda

namespace Task

variable {a b c : Task}

/-- The strict order of lists: by the date's text, and by number on the same date. -/
def Precedes (a b : Task) : Prop :=
  a.date < b.date ∨ a.date = b.date ∧ a.id < b.id

theorem before_iff : before a b = true ↔ a.date < b.date ∨ a.date = b.date ∧ a.id ≤ b.id := by
  unfold before
  rw [Bool.or_eq_true, Bool.and_eq_true, decide_eq_true_eq, beq_iff_eq, decide_eq_true_eq]

theorem before_trans (hab : before a b = true) (hbc : before b c = true) : before a c = true := by
  rw [before_iff] at *
  rcases hab with hab | ⟨hab, hid⟩
  · rcases hbc with hbc | ⟨hbc, -⟩
    · exact Or.inl (lt_trans hab hbc)
    · exact Or.inl (hbc ▸ hab)
  · rw [hab]
    rcases hbc with hbc | ⟨hbc, hid'⟩
    · exact Or.inl hbc
    · exact Or.inr ⟨hbc, hid.trans hid'⟩

theorem before_total (a b : Task) : (before a b || before b a) = true := by
  rw [Bool.or_eq_true, before_iff, before_iff]
  rcases lt_trichotomy a.date b.date with h | h | h
  · exact Or.inl (Or.inl h)
  · rcases le_total a.id b.id with hid | hid
    · exact Or.inl (Or.inr ⟨h, hid⟩)
    · exact Or.inr (Or.inr ⟨h.symm, hid⟩)
  · exact Or.inr (Or.inl h)

theorem precedes_of_before (h : before a b = true) (hne : a.id ≠ b.id) : a.Precedes b := by
  rcases before_iff.mp h with h | ⟨h, hid⟩
  · exact Or.inl h
  · exact Or.inr ⟨h, lt_of_le_of_ne hid hne⟩

theorem pairwise_before (rows : List Task) : (rows.mergeSort before).Pairwise fun a b => before a b = true := by
  apply List.pairwise_mergeSort
  · intro a b c hab hbc
    exact before_trans hab hbc
  · exact before_total

/-- Rows with different numbers are listed in strict order. -/
theorem pairwise_precedes {rows : List Task} (h : (rows.map (·.id)).Nodup) :
    (rows.mergeSort before).Pairwise Precedes := by
  have hnodup : ((rows.mergeSort before).map (·.id)).Nodup :=
    ((List.mergeSort_perm rows before).map _).nodup_iff.mpr h
  exact (pairwise_before rows).imp₂ (fun _ _ => precedes_of_before) (List.pairwise_map.mp hnodup)

end Task

namespace Table

variable {t : Table} {r : Task} {needle : String}

theorem mem_matched_containing (hneedle : Like.Plain needle) (htitle : Like.Plain r.title)
    (hcomment : Like.Plain r.comment) : r ∈ t.matched (Like.containing needle) ↔
      r ∈ t.rows ∧ (Like.Contains r.title needle ∨ Like.Contains r.comment needle) := by
  unfold matched
  rw [List.mem_filter, Bool.or_eq_true, Like.accepts_containing htitle hneedle, Like.accepts_containing hcomment hneedle]

theorem nodup_matched (t : Table) (pattern : String) : ((t.matched pattern).map (·.id)).Nodup :=
  t.nodup_ids.sublist (List.filter_sublist.map _)

end Table

namespace Database

/-- A search whose pattern is not too long lists the rows that contain the needle, each once and in order, up to the
limit. -/
theorem search_finds {db : Database} {t : Table} {needle : String} (h : db.table = some t)
    (hsize : needle.utf8ByteSize +
      (needle.toList.count '%' + needle.toList.count '_' + needle.toList.count Like.escape) + 2 ≤ Like.longestPattern)
    (hneedle : Like.Plain needle) (hrows : ∀ r ∈ t.rows, Like.Plain r.title ∧ Like.Plain r.comment) :
    ∃ found : List Task, (∀ limit, db.search needle limit = .ok (found.take limit)) ∧
      found.Pairwise Task.Precedes ∧
      ∀ r, r ∈ found ↔ r ∈ t.rows ∧ (Like.Contains r.title needle ∨ Like.Contains r.comment needle) := by
  refine ⟨(t.matched (Like.containing needle)).mergeSort Task.before, fun limit => ?_,
    Task.pairwise_precedes (t.nodup_matched _), fun r => ?_⟩
  · rw [search_eq h]
    exact Table.matching_of_le (Like.utf8ByteSize_containing needle ▸ hsize) limit
  · rw [List.mem_mergeSort]
    constructor
    · intro hr
      obtain ⟨htitle, hcomment⟩ := hrows r (List.mem_filter.mp hr).1
      exact (Table.mem_matched_containing hneedle htitle hcomment).mp hr
    · rintro ⟨hr, hcontains⟩
      obtain ⟨htitle, hcomment⟩ := hrows r hr
      exact (Table.mem_matched_containing hneedle htitle hcomment).mpr ⟨hr, hcontains⟩

/-- A task with the text `5%_off`, and one that it would match if its signs had their meaning. -/
def offers : Table :=
  (Table.empty.insert { date := "20240201", title := "5 pounds off", comment := "", repeats := "" }).insert
    { date := "20240301", title := "sale", comment := "now 5%_OFF", repeats := "" }

/-- A new database with these tasks. -/
def ofOffers : Database where
  table := some offers
  migrated := true

/-- Only the text itself is found, whatever the case of its letters. -/
theorem search_finds_offer :
    ofOffers.table = some offers ∧ Like.Plain "5%_off" ∧ (∀ r ∈ offers.rows, Like.Plain r.title ∧ Like.Plain r.comment) ∧
      ∃ found : List Task, ofOffers.search "5%_off" 50 = .ok (found.take 50) ∧
        { date := "20240301", title := "sale", comment := "now 5%_OFF", repeats := "", id := 2 } ∈ found ∧
        { date := "20240201", title := "5 pounds off", comment := "", repeats := "", id := 1 } ∉ found := by
  have hneedle : Like.Plain "5%_off" := by decide +kernel
  have hrows : ∀ r ∈ offers.rows, Like.Plain r.title ∧ Like.Plain r.comment := by decide +kernel
  obtain ⟨found, hfound, -, hmem⟩ :=
    search_finds (rfl : ofOffers.table = some offers) (by decide +kernel) hneedle hrows
  refine ⟨rfl, hneedle, hrows, found, hfound 50, (hmem _).mpr (by decide +kernel), fun hno => ?_⟩
  exact absurd ((hmem _).mp hno) (by decide +kernel)

end Database

end Agenda
