import Agenda.Proofs.Calendar.Order

/-!
# Anniversaries

A date comes back every year on its day of its month, which every year has unless it is 29 February. The year after a
leap day has none, so that a leap day comes back on the first of March, and from there on that day in every year.
-/

namespace Agenda

theorem isLeap_succ {year : Nat} (h : isLeap year = true) : isLeap (year + 1) = false := by
  simp only [isLeap, Bool.and_eq_true, beq_iff_eq] at h
  simp only [isLeap, Bool.and_eq_false_iff, beq_eq_false_iff_ne]
  omega

theorem daysInMonth_congr {month : Nat} (h : month ≠ 2) (year year' : Nat) :
    daysInMonth year month = daysInMonth year' month := by
  unfold daysInMonth
  split <;> simp_all

/-- Months have the same days in every year, but for 29 February. -/
theorem le_daysInMonth_of_le {year month day : Nat} (h : day ≤ daysInMonth year month)
    (hnot : ¬(month = 2 ∧ day = 29)) (year' : Nat) : day ≤ daysInMonth year' month := by
  by_cases hmonth : month = 2
  · subst hmonth
    simp only [daysInMonth] at h ⊢
    split at h
    · split
      · exact h
      · omega
    · split
      · omega
      · exact h
  · rw [daysInMonth_congr hmonth year' year]
    exact h

namespace Date

variable {a d : Date} {year : Nat}

/-- The date is a 29 February. -/
def IsLeapDay (d : Date) : Prop :=
  d.month = 2 ∧ d.day = 29

instance (d : Date) : Decidable d.IsLeapDay :=
  inferInstanceAs (Decidable (d.month = 2 ∧ d.day = 29))

/-- Month and day on which a date comes back in the years after it. -/
def anniversary (d : Date) : Nat × Nat :=
  if d.IsLeapDay then (3, 1) else (d.month, d.day)

theorem IsLeapDay.isLeap (h : d.IsLeapDay) : isLeap d.year = true := by
  have hle := d.day_le
  rw [h.1, h.2] at hle
  by_contra hnot
  simp only [daysInMonth, if_neg hnot] at hle
  omega

/-- Every year has the anniversary. -/
theorem exists_anniversary (d : Date) (h : year ≤ 9999) : ∃ a : Date, a.year = year ∧ (a.month, a.day) = d.anniversary := by
  unfold anniversary
  split
  · exact ⟨⟨year, 3, 1, h, by decide, (by decide : 1 ≤ 31)⟩, rfl, rfl⟩
  · rename_i hnot
    exact ⟨⟨year, d.month, d.day, h, d.day_pos, le_daysInMonth_of_le d.day_le hnot year⟩, rfl, rfl⟩

/-- An anniversary is no leap day, so it is its own. -/
theorem anniversary_eq (h : (a.month, a.day) = d.anniversary) : a.anniversary = d.anniversary := by
  have hnot : ¬a.IsLeapDay := by
    rintro ⟨hmonth, hday⟩
    rw [hmonth, hday, anniversary] at h
    split at h
    · cases h
    · rename_i hd
      exact hd ⟨(Prod.mk.inj h).1.symm, (Prod.mk.inj h).2.symm⟩
  rw [← h, anniversary, if_neg hnot]

theorem nextYear_of_isLeapDay (h : d.IsLeapDay) : d.nextYear = of? (d.year + 1) 3 1 := by
  have hnone : of? (d.year + 1) d.month d.day = none := by
    rw [Option.eq_none_iff_forall_ne_some]
    intro x hx
    obtain ⟨hyear, hmonth, hday⟩ := of?_eq_some_iff.mp hx
    have hx : x.IsLeapDay := ⟨hmonth.trans h.1, hday.trans h.2⟩
    have hleap := hx.isLeap
    rw [hyear, isLeap_succ h.isLeap] at hleap
    cases hleap
  unfold nextYear
  rw [hnone]
  rfl

theorem nextYear_of_not_isLeapDay (h : ¬d.IsLeapDay) : d.nextYear = of? (d.year + 1) d.month d.day := by
  unfold nextYear
  cases hsame : of? (d.year + 1) d.month d.day with
  | some x => rfl
  | none =>
    -- The next year has every day but the leap day, so it is itself what is missing.
    have hend : ¬d.year + 1 ≤ 9999 := fun hyear => by
      unfold of? at hsame
      rw [dif_pos ⟨hyear, d.day_pos, le_daysInMonth_of_le d.day_le h _⟩] at hsame
      cases hsame
    exact dif_neg fun hmarch => hend hmarch.1

/-- One year on, a date comes to its anniversary. -/
theorem nextYear_eq_some_iff : d.nextYear = some a ↔ a.year = d.year + 1 ∧ (a.month, a.day) = d.anniversary := by
  unfold anniversary
  split
  · rename_i h
    rw [nextYear_of_isLeapDay h, of?_eq_some_iff, Prod.mk.injEq]
  · rename_i h
    rw [nextYear_of_not_isLeapDay h, of?_eq_some_iff, Prod.mk.injEq]

theorem lt_of_nextYear (h : d.nextYear = some a) : d < a := by
  rw [lt_iff, (nextYear_eq_some_iff.mp h).1]
  exact Or.inl (Nat.lt_succ_self _)

theorem nextYear_eq_none_iff : d.nextYear = none ↔ d.year = 9999 := by
  constructor
  · intro hnone
    by_contra hyear
    have hle := d.year_le
    obtain ⟨a, ha⟩ := exists_anniversary d (show d.year + 1 ≤ 9999 by omega)
    rw [nextYear_eq_some_iff.mpr ha] at hnone
    cases hnone
  · intro hyear
    rw [Option.eq_none_iff_forall_ne_some]
    intro a ha
    have hle := a.year_le
    have := (nextYear_eq_some_iff.mp ha).1
    omega

end Date

end Agenda
