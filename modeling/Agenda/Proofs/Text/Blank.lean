import Agenda.Text.Blank
import Mathlib

/-!
# Blank texts

The blank texts are those of which nothing is left without the blanks at both ends. What is left of a text is the one
part of it that stands between blanks and neither begins nor ends with one (`trimmed_eq_iff`).
-/

namespace Agenda.Text

theorem trimmed_eq_nil_iff {cs : List Char} : trimmed cs = [] ↔ ∀ c ∈ cs, isBlank c = true := by
  unfold trimmed
  rw [List.reverse_eq_nil_iff, List.dropWhile_eq_nil_iff]
  constructor
  · intro h
    have hnil : (cs.dropWhile isBlank).dropWhile isBlank = [] :=
      List.dropWhile_eq_nil_iff.mpr fun c hc => h c (List.mem_reverse.mpr hc)
    rw [List.dropWhile_idempotent] at hnil
    exact List.dropWhile_eq_nil_iff.mp hnil
  · intro h c hc
    exact h c ((List.dropWhile_suffix isBlank).subset (List.mem_reverse.mp hc))

theorem trim_eq_empty_iff_forall {s : String} : trim s = "" ↔ ∀ c ∈ s.toList, isBlank c = true := by
  unfold trim
  rw [← String.toList_eq_nil_iff, String.toList_ofList, trimmed_eq_nil_iff]

theorem trim_eq_empty_iff {s : String} : trim s = "" ↔ isBlankText s = true :=
  trim_eq_empty_iff_forall.trans List.all_eq_true.symm

/-! ### What is left between blanks -/

variable {cs ds before after : List Char}

/-- The second text stands in the first one between blanks, and neither begins nor ends with a blank. -/
structure Trims (cs ds : List Char) : Prop where
  around : ∃ before after, cs = before ++ ds ++ after ∧ (∀ c ∈ before, isBlank c = true) ∧ ∀ c ∈ after, isBlank c = true
  first : ∀ c ∈ ds.head?, isBlank c = false
  last : ∀ c ∈ ds.getLast?, isBlank c = false

theorem dropWhile_isBlank_append (hbefore : ∀ c ∈ before, isBlank c = true)
    (hfirst : ∀ c ∈ ds.head?, isBlank c = false) : (before ++ ds).dropWhile isBlank = ds := by
  rw [List.dropWhile_append_of_pos hbefore]
  cases ds with
  | nil => rfl
  | cons d ds => exact List.dropWhile_cons_of_neg (by simp [hfirst d rfl])

theorem Trims.trimmed_eq (h : Trims cs ds) : trimmed cs = ds := by
  obtain ⟨⟨before, after, rfl, hbefore, hafter⟩, hfirst, hlast⟩ := h
  by_cases hnil : ds = []
  · subst hnil
    rw [trimmed_eq_nil_iff, List.append_nil]
    intro c hc
    exact (List.mem_append.mp hc).elim (hbefore c) (hafter c)
  · have hfirst : ∀ c ∈ (ds ++ after).head?, isBlank c = false := by
      rw [List.head?_append_of_ne_nil ds hnil]
      exact hfirst
    have hafter : ∀ c ∈ after.reverse, isBlank c = true := fun c hc => hafter c (List.mem_reverse.mp hc)
    rw [← List.head?_reverse] at hlast
    unfold trimmed
    rw [List.append_assoc, dropWhile_isBlank_append hbefore hfirst, List.reverse_append,
      dropWhile_isBlank_append hafter hlast, List.reverse_reverse]

theorem isBlank_of_head?_dropWhile {c : Char} (h : (cs.dropWhile isBlank).head? = some c) : isBlank c = false := by
  have hnot := List.head?_dropWhile_not isBlank cs
  rw [h] at hnot
  exact hnot

theorem trims_trimmed (cs : List Char) : Trims cs (trimmed cs) := by
  -- The blanks at the end are those at the front of the reversed rest.
  have hfront : cs.takeWhile isBlank ++ cs.dropWhile isBlank = cs := List.takeWhile_append_dropWhile
  have hback : trimmed cs ++ (cs.dropWhile isBlank).rtakeWhile isBlank = cs.dropWhile isBlank :=
    List.rdropWhile_append_rtakeWhile ..
  refine ⟨⟨cs.takeWhile isBlank, (cs.dropWhile isBlank).rtakeWhile isBlank, ?_, ?_, ?_⟩, ?_, ?_⟩
  · rw [List.append_assoc, hback, hfront]
  · exact fun c hc => List.mem_takeWhile_imp hc
  · exact fun c hc => List.mem_rtakeWhile_imp hc
  · intro c hc
    have hhead : (cs.dropWhile isBlank).head? = some c := by
      rw [← hback, List.head?_append, hc]
      rfl
    exact isBlank_of_head?_dropWhile hhead
  · intro c hc
    rw [trimmed, List.getLast?_reverse] at hc
    exact isBlank_of_head?_dropWhile hc

/-- What is left is the part between blanks. -/
theorem trimmed_eq_iff : trimmed cs = ds ↔ Trims cs ds :=
  ⟨fun h => h ▸ trims_trimmed cs, Trims.trimmed_eq⟩

theorem trim_eq_iff {s t : String} : trim s = t ↔ Trims s.toList t.toList := by
  unfold trim
  rw [← trimmed_eq_iff, ← String.toList_inj, String.toList_ofList]

/-- A text without blanks of its own is left when blanks are put around it. -/
theorem trims_of_not_blank (h : ∀ c ∈ ds, isBlank c = false) (hbefore : ∀ c ∈ before, isBlank c = true)
    (hafter : ∀ c ∈ after, isBlank c = true) : Trims (before ++ ds ++ after) ds where
  around := ⟨before, after, rfl, hbefore, hafter⟩
  first c hc := h c (List.mem_of_head? hc)
  last c hc := h c (List.mem_of_getLast? hc)

theorem trim_of_not_blank {s : String} (h : ∀ c ∈ s.toList, isBlank c = false) : trim s = s := by
  have htrims : Trims ([] ++ s.toList ++ []) s.toList :=
    trims_of_not_blank h (List.forall_mem_nil _) (List.forall_mem_nil _)
  rw [List.nil_append, List.append_nil] at htrims
  exact trim_eq_iff.mpr htrims

end Agenda.Text
