import Agenda.Number.Decimal

/-!
# Calendar dates

Days of the Gregorian calendar, extended to all years. `Day` is any day; `Date` is a day of the years 0 to 9999,
which are the ones that eight digits can write. Dates are ordered by their eight-digit numbers.
-/

namespace Agenda

/-- Every fourth year is a leap year, but of the full centuries only every fourth. -/
def isLeap (year : Nat) : Bool :=
  year % 4 == 0 && (year % 100 != 0 || year % 400 == 0)

/-- The number of days of a month; a month that does not exist has none. -/
def daysInMonth (year : Nat) : Nat → Nat
  | 1 | 3 | 5 | 7 | 8 | 10 | 12 => 31
  | 4 | 6 | 9 | 11 => 30
  | 2 => if isLeap year then 29 else 28
  | _ => 0

theorem daysInMonth_le (year month : Nat) : daysInMonth year month ≤ 31 := by
  unfold daysInMonth
  split <;> (try split) <;> omega

theorem le_of_daysInMonth_pos {year month : Nat} (h : 0 < daysInMonth year month) : month ≤ 12 := by
  revert h
  unfold daysInMonth
  split <;> omega

/-! ### Any day -/

/-- A day of any year. The calendar repeats every 400 years, so the year's remainder tells the month's length. -/
structure Day where
  year : Int
  month : Nat
  day : Nat
  day_pos : 1 ≤ day
  day_le : day ≤ daysInMonth (year % 400).toNat month

namespace Day

/-- The last and the first year that a `Day` of this library is made for. -/
def lastYear : Int := 262142

@[inherit_doc lastYear] def firstYear : Int := -262143

/-- The day of that name, if it exists and its year is in range. -/
def of? (year : Int) (month day : Nat) : Option Day :=
  if h : 1 ≤ day ∧ day ≤ daysInMonth (year % 400).toNat month then
    if firstYear ≤ year && year ≤ lastYear then some ⟨year, month, day, h.1, h.2⟩ else none
  else none

/-- A year outside 0 to 9999 carries a sign; it has at least four digits. -/
def yearText (year : Int) : List Char :=
  if 0 ≤ year && year ≤ 9999 then Number.padded 4 year.natAbs
  else (if year < 0 then '-' else '+') :: Number.padded 4 year.natAbs

/-- Year, month and day with hyphens between them. -/
def text (d : Day) : String :=
  String.ofList (yearText d.year ++ '-' :: Number.padded 2 d.month ++ '-' :: Number.padded 2 d.day)

end Day

/-! ### Dates of four-digit years -/

/-- A day of the years 0 to 9999. -/
structure Date where
  year : Nat
  month : Nat
  day : Nat
  year_le : year ≤ 9999
  day_pos : 1 ≤ day
  day_le : day ≤ daysInMonth year month
deriving DecidableEq

namespace Date

/-- The date of that name, if it exists and its year has at most four digits. -/
def of? (year month day : Nat) : Option Date :=
  if h : year ≤ 9999 ∧ 1 ≤ day ∧ day ≤ daysInMonth year month then some ⟨year, month, day, h.1, h.2.1, h.2.2⟩
  else none

/-- The date's eight digits, read as one number. -/
def number (d : Date) : Nat :=
  d.year * 10000 + d.month * 100 + d.day

theorem number_le (d : Date) : d.number ≤ 99991231 := by
  have hm := le_of_daysInMonth_pos (Nat.lt_of_lt_of_le d.day_pos d.day_le)
  have hd := Nat.le_trans d.day_le (daysInMonth_le d.year d.month)
  have hy := d.year_le
  unfold Date.number
  omega

instance : LT Date := ⟨fun a b => a.number < b.number⟩
instance : LE Date := ⟨fun a b => a.number ≤ b.number⟩
instance (a b : Date) : Decidable (a < b) := inferInstanceAs (Decidable (a.number < b.number))
instance (a b : Date) : Decidable (a ≤ b) := inferInstanceAs (Decidable (a.number ≤ b.number))
instance : Ord Date := ⟨fun a b => compare a.number b.number⟩

/-- Eight digits: four of the year, two of the month, two of the day. -/
def text (d : Date) : String :=
  String.ofList (Number.padded 4 d.year ++ Number.padded 2 d.month ++ Number.padded 2 d.day)

/-- The date that eight digits name. -/
def ofText? (s : String) : Option Date :=
  match s.toList with
  | [y₁, y₂, y₃, y₄, m₁, m₂, d₁, d₂] =>
    match Number.readDigits [y₁, y₂, y₃, y₄], Number.readDigits [m₁, m₂], Number.readDigits [d₁, d₂] with
    | some y, some m, some d => of? y m d
    | _, _, _ => none
  | _ => none

/-- The date on the same day of the same month one year later; 29 February moves on to 1 March when the next
year has none. -/
def nextYear (d : Date) : Option Date :=
  of? (d.year + 1) d.month d.day <|> of? (d.year + 1) 3 1

end Date

/-- The date of a day whose year has four digits. -/
def Day.toDate? (d : Day) : Option Date :=
  if 0 ≤ d.year then Date.of? d.year.toNat d.month d.day else none

end Agenda
