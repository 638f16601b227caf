import Agenda.Calendar.Date
import Mathlib

/-!
# Dates in order

The eight-digit number of a date tells its year, month and day, so the order of the numbers is a linear order of
the dates, and it compares years first, then months, then days.
-/

namespace Agenda

namespace Date

variable {a b d : Date}

/-! ### Parts of a date -/

theorem month_le (d : Date) : d.month ≤ 12 :=
  le_of_daysInMonth_pos (Nat.lt_of_lt_of_le d.day_pos d.day_le)

theorem day_le_31 (d : Date) : d.day ≤ 31 :=
  Nat.le_trans d.day_le (daysInMonth_le d.year d.month)

theorem eq_iff : a = b ↔ a.year = b.year ∧ a.month = b.month ∧ a.day = b.day := by
  constructor
  · rintro rfl
    exact ⟨rfl, rfl, rfl⟩
  · cases a
    cases b
    rintro ⟨rfl, rfl, rfl⟩
    rfl

theorem of?_eq_some_iff {year month day : Nat} :
    of? year month day = some d ↔ d.year = year ∧ d.month = month ∧ d.day = day := by
  unfold of?
  split
  · rw [Option.some.injEq, eq_comm, eq_iff]
  · rename_i h
    constructor
    · intro hnone
      cases hnone
    · rintro ⟨rfl, rfl, rfl⟩
      exact absurd ⟨d.year_le, d.day_pos, d.day_le⟩ h

theorem of?_eq_none_iff {year month day : Nat} :
    of? year month day = none ↔ ¬(year ≤ 9999 ∧ 1 ≤ day ∧ day ≤ daysInMonth year month) := by
  unfold of?
  split
  · rename_i h
    exact ⟨fun hnone => absurd hnone (Option.some_ne_none _), fun hnot => absurd h hnot⟩
  · rename_i h
    exact ⟨fun _ => h, fun _ => rfl⟩

/-! ### The order -/

theorem lt_iff_number : a < b ↔ a.number < b.number := Iff.rfl

theorem number_injective (h : a.number = b.number) : a = b := by
  have ha := a.month_le
  have hb := b.month_le
  have hda := a.day_le_31
  have hdb := b.day_le_31
  unfold number at h
  exact eq_iff.mpr (by omega)

instance : LinearOrder Date where
  le_refl d := Nat.le_refl d.number
  le_trans _ _ _ h₁ h₂ := Nat.le_trans h₁ h₂
  lt_iff_le_not_ge _ _ := Nat.lt_iff_le_and_not_ge
  le_antisymm _ _ h₁ h₂ := number_injective (Nat.le_antisymm h₁ h₂)
  le_total a b := Nat.le_total a.number b.number
  toDecidableLE := inferInstance
  toDecidableEq := inferInstance
  toDecidableLT := inferInstance
  compare_eq_compareOfLessAndEq a b := by
    show compare a.number b.number = _
    rw [Nat.compare_eq_ite_lt]
    unfold compareOfLessAndEq
    by_cases hlt : a < b
    · rw [if_pos hlt, if_pos (lt_iff_number.mp hlt)]
    · rw [if_neg hlt, if_neg (mt lt_iff_number.mpr hlt)]
      by_cases heq : a = b
      · subst heq
        simp
      · have hgt : b.number < a.number := by
          have := mt number_injective heq
          have := mt lt_iff_number.mpr hlt
          omega
        rw [if_neg heq, if_pos hgt]

theorem lt_iff : a < b ↔
    a.year < b.year ∨ a.year = b.year ∧ (a.month < b.month ∨ a.month = b.month ∧ a.day < b.day) := by
  have ha := a.month_le
  have hb := b.month_le
  have hda := a.day_le_31
  have hdb := b.day_le_31
  rw [lt_iff_number]
  unfold number
  omega

/-- New Year's Day of 2023, the today of examples. -/
def newYear : Date :=
  ⟨2023, 1, 1, by decide, by decide, by decide⟩

end Date

end Agenda
