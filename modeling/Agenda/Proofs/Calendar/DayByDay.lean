import Agenda.Proofs.Calendar.Ordinal

/-!
# One day at a time

After a day comes the next day of its month, after the last day of a month the first of the next month, and after the
last day of December New Year's Day (`tomorrow`). That is one day number further on, so going on day by day
(`daysLater`) leads where `addDays` gets by counting days, and ends with it after 31 December 9999
(`addDays_dayByDay`).
-/

namespace Agenda

theorem daysInMonth_pos {month : Nat} (hpos : 1 ≤ month) (hle : month ≤ 12) (year : Nat) :
    1 ≤ daysInMonth year month := by
  interval_cases month
  case «2» =>
    show 1 ≤ if isLeap year then 29 else 28
    split <;> decide
  all_goals exact of_decide_eq_true rfl

namespace Date

variable {a d : Date} {n : Nat}

/-! ### The day after -/

/-- The day after: the next day of the month, else the first of the next month, else New Year's Day of the next year. -/
def tomorrow (d : Date) : Option Date :=
  if d.day < daysInMonth d.year d.month then of? d.year d.month (d.day + 1)
  else if d.month < 12 then of? d.year (d.month + 1) 1
  else of? (d.year + 1) 1 1

theorem ordinal_of_tomorrow (h : d.tomorrow = some a) : a.ordinal = d.ordinal + 1 := by
  have hpos := d.day_pos
  have hlast := d.day_le
  unfold tomorrow at h
  split at h
  · obtain ⟨hyear, hmonth, hday⟩ := of?_eq_some_iff.mp h
    simp only [ordinal, hyear, hmonth, hday]
    omega
  · split at h
    · obtain ⟨hyear, hmonth, hday⟩ := of?_eq_some_iff.mp h
      simp only [ordinal, hyear, hmonth, hday, daysBeforeMonth_succ]
      omega
    · -- The day is the last one of its year, and a year has the days of its twelve months.
      have hdecember : d.month = 12 := by
        have := d.month_le
        omega
      have hyearEnd := daysBeforeMonth_thirteen d.year
      rw [daysBeforeMonth_succ, ← hdecember] at hyearEnd
      obtain ⟨hyear, hmonth, hday⟩ := of?_eq_some_iff.mp h
      simp only [ordinal, hyear, hmonth, hday, daysBeforeYear_succ, daysBeforeMonth_one]
      omega

/-- Only the last day of the calendar has no day after it. -/
theorem eq_lastDay_of_tomorrow (h : d.tomorrow = none) : d = lastDay := by
  have hlast := d.day_le
  unfold tomorrow at h
  split at h
  · rename_i hday
    exact absurd ⟨d.year_le, Nat.le_add_left 1 _, hday⟩ (of?_eq_none_iff.mp h)
  · split at h
    · rename_i hmonth
      exact absurd ⟨d.year_le, le_refl 1, daysInMonth_pos (Nat.le_add_left 1 _) hmonth _⟩ (of?_eq_none_iff.mp h)
    · have hyear : ¬d.year + 1 ≤ 9999 := fun hyear =>
        of?_eq_none_iff.mp h ⟨hyear, le_refl 1, daysInMonth_pos (le_refl 1) (by omega) _⟩
      have hyear : d.year = 9999 := by
        have := d.year_le
        omega
      have hmonth : d.month = 12 := by
        have := d.month_le
        omega
      have hdecember : daysInMonth d.year d.month = 31 := by
        rw [hmonth]
        rfl
      exact eq_iff.mpr ⟨hyear, hmonth, show d.day = 31 by omega⟩

theorem tomorrow_eq_addDays (d : Date) : d.tomorrow = d.addDays 1 := by
  cases h : d.tomorrow with
  | some a => exact (addDays_eq_some_iff.mpr (ordinal_of_tomorrow h)).symm
  | none =>
    rw [eq_lastDay_of_tomorrow h]
    exact (addDays_eq_none_iff.mpr (by decide)).symm

/-! ### Day by day -/

/-- The day so many days later, going on one day at a time, unless the calendar ends before. -/
def daysLater (d : Date) : Nat → Option Date
  | 0 => some d
  | n + 1 => (daysLater d n).bind tomorrow

theorem addDays_eq_daysLater (d : Date) (n : Nat) : d.addDays n = d.daysLater n := by
  induction n with
  | zero => exact addDays_eq_some_iff.mpr rfl
  | succ n ih =>
    have hstep : tomorrow = fun x : Date => x.addDays 1 := funext tomorrow_eq_addDays
    rw [daysLater, ← ih, hstep, addDays_bind]

/-- Days cannot be added when some are left on the last day of the calendar. -/
theorem addDays_eq_none_iff_lastDay : d.addDays n = none ↔ ∃ k < n, d.addDays k = some lastDay := by
  have hle := ordinal_lt_daysOfCalendar d
  rw [addDays_eq_none_iff]
  constructor
  · intro hfull
    refine ⟨lastDay.ordinal - d.ordinal, ?_, addDays_eq_some_iff.mpr ?_⟩
    · have hend : ¬d.ordinal + n ≤ lastDay.ordinal := mt lt_daysOfCalendar_iff.mpr (Nat.not_lt.mpr hfull)
      omega
    · have := lt_daysOfCalendar_iff.mp hle
      omega
  · rintro ⟨k, hk, hlast⟩
    have hend : ¬d.ordinal + n ≤ lastDay.ordinal := by
      have := addDays_eq_some_iff.mp hlast
      omega
    exact Nat.not_lt.mp (mt lt_daysOfCalendar_iff.mp hend)

theorem lt_of_addDays_of_lt {x y : Date} {m : Nat} (hlt : m < n) (hm : d.addDays m = some x)
    (hn : d.addDays n = some y) : x < y := by
  rw [← ordinal_lt_ordinal, addDays_eq_some_iff.mp hm, addDays_eq_some_iff.mp hn]
  omega

/-- Adding days is going on day by day, and has no answer just if there are days left to go on the last day of the
calendar. So days may be added at once or in two parts, and more days lead to a later date. -/
theorem addDays_dayByDay (d : Date) :
    (∀ n, d.addDays n = d.daysLater n) ∧
    (∀ n, d.addDays n = none ↔ ∃ k < n, d.daysLater k = some lastDay) ∧
    (∀ m n, ((d.addDays m).bind fun x => x.addDays n) = d.addDays (m + n)) ∧
    ∀ m n x y, m < n → d.addDays m = some x → d.addDays n = some y → x < y := by
  refine ⟨addDays_eq_daysLater d, fun n => ?_, addDays_bind d, fun m n x y hlt hm hn => lt_of_addDays_of_lt hlt hm hn⟩
  simp only [← addDays_eq_daysLater]
  exact addDays_eq_none_iff_lastDay

/-- The day before the leap day of 2028. -/
def leapEve : Date :=
  { newYear with
    year := 2028, month := 2, day := 28, year_le := by decide, day_pos := by decide, day_le := by decide }

/-- The first of March after it. -/
def leapMarch : Date :=
  { newYear with year := 2028, month := 3, year_le := by decide, day_le := by decide }

/-- The last day of February one year later. -/
def februaryEnd : Date :=
  { leapEve with year := 2029, year_le := by decide, day_le := by decide }

/-- The leap day lies between its eve and the first of March, so these are two days apart, and the last day of the next
February is 366 days away. After the last day of the calendar nothing comes. -/
theorem addDays_dayByDay_leapYear :
    2 < 366 ∧ leapEve.addDays 2 = some leapMarch ∧ leapEve.addDays 366 = some februaryEnd ∧ leapMarch < februaryEnd ∧
      leapEve.daysLater 366 = some februaryEnd ∧ lastDay.addDays 1 = none := by
  have hlt : 2 < 366 := by decide
  have hmarch : leapEve.addDays 2 = some leapMarch := by decide +kernel
  have hyear : leapEve.addDays 366 = some februaryEnd := by decide +kernel
  obtain ⟨hwalk, -, -, hmono⟩ := addDays_dayByDay leapEve
  refine ⟨hlt, hmarch, hyear, hmono 2 366 _ _ hlt hmarch hyear, (hwalk 366).symm.trans hyear, ?_⟩
  exact ((addDays_dayByDay lastDay).2.1 1).mpr ⟨0, Nat.one_pos, rfl⟩

end Date

end Agenda
