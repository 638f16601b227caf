import Agenda.Calendar.Date

/-!
# Day numbers

Days are counted from 1 January of the year 0, which is day 0. `Date.ofOrdinal?` finds the date of a day number,
and `Date.addDays` moves a date by a number of days.
-/

namespace Agenda

/-- The number of days before the first day of a year. -/
def daysBeforeYear (year : Nat) : Nat :=
  365 * year + (year + 3) / 4 - (year + 99) / 100 + (year + 399) / 400

/-- The number of days of a year that come before a month. -/
def daysBeforeMonth (year : Nat) : Nat → Nat
  | 0 => 0
  | month + 1 => daysBeforeMonth year month + daysInMonth year month

/-- The year that a day number falls in. Four hundred years have 146097 days; the quotient is at most one year
too large. -/
def yearOfOrdinal (n : Nat) : Nat :=
  let year := (n * 400 + 591) / 146097
  if daysBeforeYear (year + 1) ≤ n then year + 1 else if n < daysBeforeYear year then year - 1 else year

/-- Walks over the months from `month` on until the day lies in one: at most `months` of them. -/
def monthOfDay (year : Nat) : (months month day : Nat) → Nat × Nat
  | 0, month, day => (month, day)
  | months + 1, month, day =>
    if day ≤ daysInMonth year month then (month, day)
    else monthOfDay year months (month + 1) (day - daysInMonth year month)

namespace Date

/-- The number of days from 1 January of the year 0 to the date. -/
def ordinal (d : Date) : Nat :=
  daysBeforeYear d.year + daysBeforeMonth d.year d.month + (d.day - 1)

/-- The date of a day number, unless it lies after the year 9999. -/
def ofOrdinal? (n : Nat) : Option Date :=
  let year := yearOfOrdinal n
  let (month, day) := monthOfDay year 11 1 (n - daysBeforeYear year + 1)
  of? year month day

/-- The date so many days later, unless it lies after the year 9999. A move within the month needs no day
number. -/
def addDays (d : Date) (days : Nat) : Option Date :=
  if h : d.day + days ≤ daysInMonth d.year d.month then
    some ⟨d.year, d.month, d.day + days, d.year_le, Nat.le_add_right_of_le d.day_pos, h⟩
  else ofOrdinal? (d.ordinal + days)

end Date

end Agenda
