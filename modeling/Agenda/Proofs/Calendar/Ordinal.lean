import Agenda.Calendar.DayNumber
import Agenda.Proofs.Calendar.Order

/-!
# Day numbers and dates

Day numbers are another name for dates: `ordinal` is strictly increasing, and `ofOrdinal?` gives back the date of
every day number up to that of 31 December 9999. So adding days to a date adds them to its day number.
-/

namespace Agenda

/-! ### Days before a year -/

/-- The number of days of a year. -/
def daysInYear (year : Nat) : Nat :=
  if isLeap year then 366 else 365

theorem daysBeforeYear_succ (year : Nat) : daysBeforeYear (year + 1) = daysBeforeYear year + daysInYear year := by
  have h4 := Nat.succ_div (a := year + 3) (b := 4)
  have h100 := Nat.succ_div (a := year + 99) (b := 100)
  have h400 := Nat.succ_div (a := year + 399) (b := 400)
  have hle : (year + 99) / 100 ≤ 365 * year + (year + 3) / 4 := by omega
  have hleap : isLeap year = true ↔ year % 4 = 0 ∧ (year % 100 ≠ 0 ∨ year % 400 = 0) := by simp [isLeap]
  unfold daysBeforeYear daysInYear
  rw [show year + 1 + 3 = year + 3 + 1 by omega, show year + 1 + 99 = year + 99 + 1 by omega,
    show year + 1 + 399 = year + 399 + 1 by omega, h4, h100, h400]
  simp only [hleap]
  clear h4 h100 h400
  generalize (year + 3) / 4 = q4 at hle ⊢
  generalize (year + 99) / 100 = q100 at hle ⊢
  generalize (year + 399) / 400 = q400
  split_ifs <;> omega

theorem daysInYear_pos (year : Nat) : 0 < daysInYear year := by
  unfold daysInYear
  split <;> omega

theorem daysBeforeYear_strictMono : StrictMono daysBeforeYear :=
  strictMono_nat_of_lt_succ fun year => by
    have := daysInYear_pos year
    rw [daysBeforeYear_succ]
    omega

/-- Four hundred times the days before a year, compared with the 146097 days of four hundred years. -/
theorem daysBeforeYear_bounds (year : Nat) :
    146097 * year ≤ 400 * daysBeforeYear year + 396 ∧ 400 * daysBeforeYear year ≤ 146097 * year + 699 := by
  unfold daysBeforeYear
  omega

theorem yearOfOrdinal_spec (n : Nat) :
    daysBeforeYear (yearOfOrdinal n) ≤ n ∧ n < daysBeforeYear (yearOfOrdinal n + 1) := by
  have hdiv := Nat.div_add_mod (n * 400 + 591) 146097
  have hmod := Nat.mod_lt (n * 400 + 591) (show 0 < 146097 by omega)
  unfold yearOfOrdinal
  generalize (n * 400 + 591) / 146097 = year at *
  dsimp only
  split
  · have := daysBeforeYear_bounds (year + 1 + 1)
    omega
  · split
    · -- The quotient is one year too large; it is not 0, because no day comes before the year 0.
      have hpos : year ≠ 0 := by
        rintro rfl
        simp [daysBeforeYear] at *
      obtain ⟨year, rfl⟩ := Nat.exists_eq_succ_of_ne_zero hpos
      have := daysBeforeYear_bounds year
      simp only [Nat.succ_eq_add_one, Nat.add_sub_cancel] at *
      omega
    · omega

/-! ### Days before a month -/

theorem daysBeforeMonth_succ (year month : Nat) :
    daysBeforeMonth year (month + 1) = daysBeforeMonth year month + daysInMonth year month := rfl

theorem daysBeforeMonth_mono (year : Nat) : Monotone (daysBeforeMonth year) :=
  monotone_nat_of_le_succ fun _ => Nat.le_add_right _ _

@[simp] theorem daysBeforeMonth_one (year : Nat) : daysBeforeMonth year 1 = 0 := rfl

@[simp] theorem daysBeforeMonth_thirteen (year : Nat) : daysBeforeMonth year 13 = daysInYear year := by
  unfold daysInYear
  cases h : isLeap year <;> simp [daysBeforeMonth, daysInMonth, h]

/-- The walk over the months keeps the number of days since 1 January, and ends in a month that the day lies in. -/
theorem monthOfDay_spec (year months month day : Nat) (hpos : 1 ≤ day)
    (hle : daysBeforeMonth year month + day ≤ daysBeforeMonth year (month + months + 1)) :
    1 ≤ (monthOfDay year months month day).2 ∧
      (monthOfDay year months month day).2 ≤ daysInMonth year (monthOfDay year months month day).1 ∧
      daysBeforeMonth year (monthOfDay year months month day).1 + (monthOfDay year months month day).2 =
        daysBeforeMonth year month + day := by
  induction months generalizing month day with
  | zero =>
    rw [Nat.add_zero, daysBeforeMonth_succ] at hle
    exact ⟨hpos, Nat.le_of_add_le_add_left hle, rfl⟩
  | succ months ih =>
    unfold monthOfDay
    split
    · rename_i hday
      exact ⟨hpos, hday, rfl⟩
    · rename_i hday
      have hsucc := daysBeforeMonth_succ year month
      rw [show month + (months + 1) + 1 = month + 1 + months + 1 by omega] at hle
      obtain ⟨h₁, h₂, h₃⟩ := ih (month + 1) (day - daysInMonth year month) (by omega) (by omega)
      exact ⟨h₁, h₂, by omega⟩

namespace Date

variable {a b d : Date} {n m : Nat}

/-! ### The day number of a date -/

theorem daysBeforeYear_le_ordinal (d : Date) : daysBeforeYear d.year ≤ d.ordinal := by
  unfold ordinal
  omega

/-- The days since 1 January stay within the year. -/
theorem dayOfYear_le (d : Date) : daysBeforeMonth d.year d.month + d.day ≤ daysInYear d.year := by
  have hday := d.day_le
  have hmono := daysBeforeMonth_mono d.year (show d.month + 1 ≤ 13 by have := d.month_le; omega)
  rw [daysBeforeMonth_succ, daysBeforeMonth_thirteen] at hmono
  omega

theorem ordinal_lt_daysBeforeYear (d : Date) : d.ordinal < daysBeforeYear (d.year + 1) := by
  have := d.dayOfYear_le
  have := d.day_pos
  rw [daysBeforeYear_succ]
  unfold ordinal
  omega

theorem ordinal_lt_of_month_lt (hyear : a.year = b.year) (hmonth : a.month < b.month) : a.ordinal < b.ordinal := by
  have hday := a.day_le
  have hpos := a.day_pos
  have hmono := daysBeforeMonth_mono a.year (show a.month + 1 ≤ b.month from hmonth)
  rw [daysBeforeMonth_succ] at hmono
  unfold ordinal
  rw [← hyear]
  omega

theorem ordinal_strictMono : StrictMono ordinal := by
  intro a b h
  rcases lt_iff.mp h with hyear | ⟨hyear, hmonth | ⟨hmonth, hday⟩⟩
  · calc
      a.ordinal < daysBeforeYear (a.year + 1) := a.ordinal_lt_daysBeforeYear
      _ ≤ daysBeforeYear b.year := daysBeforeYear_strictMono.monotone hyear
      _ ≤ b.ordinal := b.daysBeforeYear_le_ordinal
  · exact ordinal_lt_of_month_lt hyear hmonth
  · have := a.day_pos
    unfold ordinal
    rw [hyear, hmonth]
    omega

theorem ordinal_lt_ordinal : a.ordinal < b.ordinal ↔ a < b := ordinal_strictMono.lt_iff_lt
theorem ordinal_le_ordinal : a.ordinal ≤ b.ordinal ↔ a ≤ b := ordinal_strictMono.le_iff_le
theorem ordinal_inj : a.ordinal = b.ordinal ↔ a = b := ordinal_strictMono.injective.eq_iff

/-! ### The date of a day number -/

/-- The number of days of the years 0 to 9999. -/
def daysOfCalendar : Nat := 3652425

theorem ordinal_lt_daysOfCalendar (d : Date) : d.ordinal < daysOfCalendar :=
  Nat.lt_of_lt_of_le d.ordinal_lt_daysBeforeYear
    (daysBeforeYear_strictMono.monotone (show d.year + 1 ≤ 10000 by have := d.year_le; omega))

/-- The last day of the calendar. -/
def lastDay : Date :=
  ⟨9999, 12, 31, by decide, by decide, by decide⟩

theorem lt_daysOfCalendar_iff : n < daysOfCalendar ↔ n ≤ lastDay.ordinal := by
  have hlast : lastDay.ordinal + 1 = daysOfCalendar := by decide
  omega

theorem exists_ofOrdinal? (h : n < daysOfCalendar) : ∃ d, ofOrdinal? n = some d ∧ d.ordinal = n := by
  obtain ⟨hlow, hhigh⟩ := yearOfOrdinal_spec n
  have hyear : yearOfOrdinal n < 10000 :=
    daysBeforeYear_strictMono.lt_iff_lt.mp (Nat.lt_of_le_of_lt hlow h)
  rw [daysBeforeYear_succ, ← daysBeforeMonth_thirteen] at hhigh
  obtain ⟨hpos, hle, hsum⟩ := monthOfDay_spec (yearOfOrdinal n) 11 1
    (n - daysBeforeYear (yearOfOrdinal n) + 1) (Nat.le_add_left 1 _) (by
      show daysBeforeMonth _ 1 + _ ≤ daysBeforeMonth _ 13
      rw [daysBeforeMonth_one]
      omega)
  rw [daysBeforeMonth_one] at hsum
  refine ⟨⟨_, _, _, Nat.le_of_lt_succ hyear, hpos, hle⟩, of?_eq_some_iff.mpr ⟨rfl, rfl, rfl⟩, ?_⟩
  simp only [ordinal]
  omega

theorem ofOrdinal?_eq_none_iff : ofOrdinal? n = none ↔ daysOfCalendar ≤ n := by
  constructor
  · intro hnone
    by_contra hlt
    obtain ⟨d, hd, -⟩ := exists_ofOrdinal? (Nat.lt_of_not_le hlt)
    rw [hnone] at hd
    cases hd
  · intro hle
    have hyear : 9999 < yearOfOrdinal n := by
      have hhigh := (yearOfOrdinal_spec n).2
      have := daysBeforeYear_strictMono.lt_iff_lt.mp (show daysBeforeYear 10000 < _ from Nat.lt_of_le_of_lt hle hhigh)
      omega
    unfold ofOrdinal? of?
    exact dif_neg fun h => absurd h.1 (Nat.not_le.mpr hyear)

theorem ofOrdinal?_eq_some_iff : ofOrdinal? n = some d ↔ d.ordinal = n := by
  constructor
  · intro h
    have hlt : n < daysOfCalendar := by
      by_contra hle
      rw [ofOrdinal?_eq_none_iff.mpr (Nat.le_of_not_lt hle)] at h
      cases h
    obtain ⟨x, hx, hord⟩ := exists_ofOrdinal? hlt
    rw [h] at hx
    cases hx
    exact hord
  · rintro rfl
    obtain ⟨x, hx, hord⟩ := exists_ofOrdinal? d.ordinal_lt_daysOfCalendar
    rw [hx, ordinal_inj.mp hord]

/-! ### Adding days -/

/-- The shortcut within a month agrees with the way through the day numbers. -/
theorem addDays_eq (d : Date) (n : Nat) : d.addDays n = ofOrdinal? (d.ordinal + n) := by
  unfold addDays
  split
  · refine (ofOrdinal?_eq_some_iff.mpr ?_).symm
    have := d.day_pos
    simp only [ordinal]
    omega
  · rfl

theorem addDays_eq_some_iff : d.addDays n = some a ↔ a.ordinal = d.ordinal + n := by
  rw [addDays_eq, ofOrdinal?_eq_some_iff]

theorem addDays_eq_none_iff : d.addDays n = none ↔ daysOfCalendar ≤ d.ordinal + n := by
  rw [addDays_eq, ofOrdinal?_eq_none_iff]

/-- Moves by days add up, and a move out of the calendar is not made up for by another. -/
theorem addDays_bind (d : Date) (m n : Nat) : ((d.addDays m).bind fun x => x.addDays n) = d.addDays (m + n) := by
  cases hm : d.addDays m with
  | none =>
    have hfull := addDays_eq_none_iff.mp hm
    exact (addDays_eq_none_iff.mpr (by omega)).symm
  | some x =>
    show x.addDays n = _
    rw [addDays_eq, addDays_eq_some_iff.mp hm, Nat.add_assoc, addDays_eq]

theorem lt_of_addDays (hn : 1 ≤ n) (h : d.addDays n = some a) : d < a := by
  rw [← ordinal_lt_ordinal, addDays_eq_some_iff.mp h]
  omega

end Date

end Agenda
