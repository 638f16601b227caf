import Agenda.Proofs.Task.Listing

/-!
# Searches for a text

A text that names no day finds every task that shows it before the first NUL of the title or of the comment. The day
may be named with fewer digits than `DD.MM.YYYY` has, and what stands behind a NUL is not looked at.
-/

namespace Agenda

namespace Like

variable {text needle : String}

/-- The needle stands in the text, character by character, and no NUL before it. -/
def Shows (text needle : String) : Prop :=
  ∃ p q, '\x00' ∉ p ∧ text.toList = p ++ needle.toList ++ q

theorem beforeNul_append_of_notMem {a : List Char} (h : '\x00' ∉ a) (b : List Char) :
    beforeNul (a ++ b) = a ++ beforeNul b := by
  refine List.takeWhile_append_of_pos fun c hc => decide_eq_true ?_
  rintro rfl
  exact h hc

theorem beforeNul_append_of_mem {a : List Char} (h : '\x00' ∈ a) (b : List Char) :
    beforeNul (a ++ b) = beforeNul a := by
  have hcut : (beforeNul a).length ≠ a.length := by
    intro hlen
    have hself : beforeNul a = a := (List.takeWhile_sublist _).eq_of_length hlen
    exact absurd (List.takeWhile_eq_self_iff.mp hself _ h) (by decide)
  exact (List.takeWhile_append ..).trans (if_neg hcut)

/-- The matcher takes a text for what it shows. -/
theorem Shows.accepts (h : Shows text needle) : accepts (compile (containing needle)) text = true := by
  obtain ⟨p, q, hp, htext⟩ := h
  have hcut : beforeNul text.toList = p ++ beforeNul (needle.toList ++ q) := by
    rw [htext, List.append_assoc, beforeNul_append_of_notMem hp]
  rw [compile_containing]
  show fits _ (beforeNul text.toList) = true
  rw [hcut]
  by_cases hnul : '\x00' ∈ needle.toList
  · rw [if_pos hnul, List.append_nil, fits_suffix, beforeNul_append_of_mem hnul, List.map_append]
    exact List.suffix_append _ _
  · rw [if_neg hnul, fits_infix, beforeNul_append_of_notMem hnul, beforeNul_of_notMem hnul, ← List.append_assoc,
      List.map_append, List.map_append]
    exact List.infix_append _ _ _

end Like

namespace Search

/-- Two digits, two digits and four digits, with dots between them. -/
def hasDayShape : List Char → Bool
  | [a, b, '.', c, d, '.', e, f, g, h] => [a, b, c, d, e, f, g, h].all Char.isDigit
  | _ => false

variable {text : String}

theorem ofText_of_readDay_eq_none (hne : Text.trim text ≠ "") (h : readDay (Text.trim text).toList = none) :
    ofText (some text) = containing (Text.trim text) := by
  unfold ofText
  simp only [if_neg hne, h]

theorem ofText_of_readDay_eq_some {d : Date} (hne : Text.trim text ≠ "")
    (h : readDay (Text.trim text).toList = some d) : ofText (some text) = onDate d := by
  unfold ofText
  simp only [if_neg hne, h]

end Search

namespace Connection

variable {c : Connection} {t : Table}

/-- A list that the limit does not cut has every task of the search. -/
theorem mem_list_of_le {search : Option String} {limit : Nat} {tasks : List Task} (ht : c.database.table = some t)
    (hlimit : t.rows.length ≤ limit) (hlist : (Task.list search limit c).1 = .ok tasks) (r : Task) :
    r ∈ tasks ↔ r ∈ t.rows ∧ (Search.ofText search).Matches r := by
  rcases list_answer ht search limit with hok | ⟨-, herr⟩
  · have htasks := Except.ok.inj (hlist.symm.trans hok)
    have hlen : ((t.pick (Search.ofText search)).mergeSort Task.before).length ≤ limit := by
      rw [List.length_mergeSort]
      exact (t.pick_sublist _).length_le.trans hlimit
    rw [htasks, List.take_of_length_le hlen, List.mem_mergeSort, Table.mem_pick]
  · cases hlist.symm.trans herr

/-- In every state that operations make of a new database, the list of a search for a text has every task of which the
title or the comment shows the text, so far as the limit is not below the number of tasks. If the text names a day, the
list has the tasks of that day, and no others. -/
theorem Reachable.list_shows (h : c.Reachable) : ∃ t, c.database.table = some t ∧
    ∀ text limit tasks, Text.trim text ≠ "" → t.rows.length ≤ limit → (Task.list (some text) limit c).1 = .ok tasks →
      match Search.readDay (Text.trim text).toList with
      | none => ∀ r ∈ t.rows,
        Like.Shows r.title (Text.trim text) ∨ Like.Shows r.comment (Text.trim text) → r ∈ tasks
      | some d => ∀ r, r ∈ tasks ↔ r ∈ t.rows ∧ Date.parse r.date = .ok d := by
  obtain ⟨t, ht, -⟩ := h.sound
  refine ⟨t, ht, fun text limit tasks hne hlimit hlist => ?_⟩
  have hmem := mem_list_of_le ht hlimit hlist
  cases hday : Search.readDay (Text.trim text).toList with
  | none =>
    rw [Search.ofText_of_readDay_eq_none hne hday] at hmem
    intro r hr hshows
    exact (hmem r).mpr ⟨hr, hshows.imp Like.Shows.accepts Like.Shows.accepts⟩
  | some d =>
    rw [Search.ofText_of_readDay_eq_some hne hday] at hmem
    exact hmem

/-- A search for a word finds the comment that has it. -/
theorem list_shows_withRentAndVisit : withRentAndVisit.Reachable ∧ Text.trim " flowers " ≠ "" ∧
    Search.readDay (Text.trim " flowers ").toList = none ∧ Like.Shows visit.comment (Text.trim " flowers ") ∧
    ∃ tasks, (Task.list (some " flowers ") 2 withRentAndVisit).1 = .ok tasks ∧ visit ∈ tasks := by
  have hreach : withRentAndVisit.Reachable := .step _ (.step _ .fresh)
  have htable : withRentAndVisit.database.table =
      some ((Table.empty.insert rent.toEntry).insert visit.toEntry) := by rfl
  have hne : Text.trim " flowers " ≠ "" := by decide +kernel
  have hday : Search.readDay (Text.trim " flowers ").toList = none := by decide +kernel
  have hshows : Like.Shows visit.comment (Text.trim " flowers ") :=
    ⟨"bring ".toList, [], by decide +kernel, by decide +kernel⟩
  have hlist : (Task.list (some " flowers ") 2 withRentAndVisit).1 = .ok [visit] := by decide +kernel
  obtain ⟨t, ht, hshown⟩ := hreach.list_shows
  obtain rfl := Option.some.inj (htable.symm.trans ht)
  have h := hshown " flowers " 2 _ hne (by decide) hlist
  rw [hday] at h
  exact ⟨hreach, hne, hday, hshows, _, hlist, h visit (by decide +kernel) (Or.inr hshows)⟩

/-- Tasks with a day in few digits in the title, and with a NUL in it. -/
def withOddTitles : Connection :=
  ((Operation.create { title := "left\x00right" } Date.newYear).run
    ((Operation.create { title := "call on 1.2.2024" } Date.newYear).run { database := Database.fresh }).2).2

/-- A text without the shape of a day that is in a title, and a list without the task: `1.2.2024` is taken for a day,
and `right` stands behind a NUL. -/
theorem list_not_shows_withOddTitles : withOddTitles.Reachable ∧
    ∃ t r₁ r₂, withOddTitles.database.table = some t ∧ t.rows = [r₁, r₂] ∧
      Search.hasDayShape (Text.trim "1.2.2024").toList = false ∧ (Text.trim "1.2.2024").toList <:+: r₁.title.toList ∧
      (Task.list (some "1.2.2024") 50 withOddTitles).1 = .ok [] ∧
      Search.hasDayShape (Text.trim "right").toList = false ∧ (Text.trim "right").toList <:+: r₂.title.toList ∧
      (Task.list (some "right") 50 withOddTitles).1 = .ok [] := by
  refine ⟨.step _ (.step _ .fresh), _, _, _, rfl, rfl, ?_⟩
  exact ⟨by decide +kernel, ⟨"call on ".toList, [], by decide +kernel⟩, by decide +kernel, by decide +kernel,
    ⟨"left\x00".toList, [], by decide +kernel⟩, by decide +kernel⟩

end Connection

end Agenda
