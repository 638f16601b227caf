import Agenda.Proofs.Repeat.Later

/-!
# The next date of a daily rule by one division

The dates of a daily rule lie at equal distances, so the number of steps that lead past `now` is a quotient of day
numbers (`stepsPast`), and so is the number of steps that the calendar has room for. Stepping on one step at a time
ends where these divisions say (`nextDate_daily`).
-/

namespace Agenda

namespace Rule

variable {a d : Date} {n : Nat}

/-- Steps of a daily rule add their days up, as long as the calendar has room. -/
theorem stepped_daily (n : Nat) (d : Date) (k : Nat) : (daily n).stepped d k = d.addDays (k * n) := by
  induction k with
  | zero =>
    rw [Nat.zero_mul]
    exact (Date.addDays_eq_some_iff.mpr rfl).symm
  | succ k ih =>
    show ((daily n).stepped d k).bind (daily n).advance = _
    rw [ih, Nat.succ_mul]
    exact Date.addDays_bind d (k * n) n

theorem stepped_daily_eq_some_iff {k : Nat} : (daily n).stepped d k = some a ↔ a.ordinal = d.ordinal + k * n := by
  rw [stepped_daily, Date.addDays_eq_some_iff]

end Rule

namespace Schedule

variable {now anchor : Date} {n j : Nat}

/-- The number of steps of `n` days that lead past `now`. -/
def stepsPast (now anchor : Date) (n : Nat) : Nat :=
  if now.ordinal < anchor.ordinal + n then 1 else (now.ordinal - anchor.ordinal) / n + 1

theorem stepsPast_pos (now anchor : Date) (n : Nat) : 1 ≤ stepsPast now anchor n := by
  unfold stepsPast
  split
  · exact le_refl 1
  · exact Nat.le_add_left 1 _

/-- So many steps lead past `now`, and more, but not fewer. -/
theorem stepsPast_le_iff (hn : 1 ≤ n) (hj : 1 ≤ j) :
    stepsPast now anchor n ≤ j ↔ now.ordinal < anchor.ordinal + j * n := by
  unfold stepsPast
  split
  · rename_i hfirst
    have hle : n ≤ j * n := Nat.le_mul_of_pos_left n hj
    exact ⟨fun _ => by omega, fun _ => hj⟩
  · rename_i hnot
    rw [Nat.succ_le_iff, Nat.div_lt_iff_lt_mul hn]
    omega

/-- Steps of a daily rule that the calendar has room for end at the date that the division names. -/
theorem firstPast_daily (hn : 1 ≤ n) (hroom : anchor.ordinal + stepsPast now anchor n * n ≤ Date.lastDay.ordinal) :
    ∃ c, c.ordinal = anchor.ordinal + stepsPast now anchor n * n ∧
      FirstPast { now, anchor, rule := .daily n } (stepsPast now anchor n) c := by
  obtain ⟨c, -, hc⟩ := Date.exists_ofOrdinal? (Date.lt_daysOfCalendar_iff.mpr hroom)
  have hpos := stepsPast_pos now anchor n
  refine ⟨c, hc, hpos, Rule.stepped_daily_eq_some_iff.mpr hc, ?_, fun j d hj hlt hd => ?_⟩
  · show now < c
    rw [← Date.ordinal_lt_ordinal, hc]
    exact (stepsPast_le_iff hn hpos).mp (le_refl _)
  · show d ≤ now
    rw [← Date.ordinal_le_ordinal, Rule.stepped_daily_eq_some_iff.mp hd]
    exact Nat.le_of_not_lt fun hpast => absurd ((stepsPast_le_iff hn hj).mpr hpast) (Nat.not_le_of_lt hlt)

/-- Otherwise they end at the last date that the calendar has room for. -/
theorem neverPast_daily (hn : 1 ≤ n) (hfull : Date.lastDay.ordinal < anchor.ordinal + stepsPast now anchor n * n) :
    ∃ last : Date, last.ordinal = anchor.ordinal + (Date.lastDay.ordinal - anchor.ordinal) / n * n ∧
      NeverPast { now, anchor, rule := .daily n } last := by
  have hanchor := Date.lt_daysOfCalendar_iff.mp anchor.ordinal_lt_daysOfCalendar
  have hdiv := Nat.div_mul_le_self (Date.lastDay.ordinal - anchor.ordinal) n
  obtain ⟨last, -, hlast⟩ := Date.exists_ofOrdinal? (n := anchor.ordinal + (Date.lastDay.ordinal - anchor.ordinal) / n * n)
    (Date.lt_daysOfCalendar_iff.mpr (by omega))
  refine ⟨last, hlast, ⟨_, Rule.stepped_daily_eq_some_iff.mpr hlast⟩, ?_, fun j d hj hd => ?_⟩
  · have hnext := Nat.lt_div_mul_add hn (a := Date.lastDay.ordinal - anchor.ordinal)
    refine Date.addDays_eq_none_iff.mpr (Nat.le_of_not_lt fun hroom => ?_)
    have := Date.lt_daysOfCalendar_iff.mp hroom
    omega
  · -- A date past `now` takes so many steps that the calendar has no room for it.
    show d ≤ now
    have hd : d.ordinal = anchor.ordinal + j * n := Rule.stepped_daily_eq_some_iff.mp hd
    have hroom := Date.lt_daysOfCalendar_iff.mp d.ordinal_lt_daysOfCalendar
    rw [← Date.ordinal_le_ordinal, hd]
    refine Nat.le_of_not_lt fun hpast => ?_
    have hmul : stepsPast now anchor n * n ≤ j * n := Nat.mul_le_mul_right n ((stepsPast_le_iff hn hj).mpr hpast)
    omega

/-- The next date of a daily rule is a division away: its day number is that of the anchor and the least number of
steps, at least one, that lead past `now`. If the calendar has no such day, the error names the last date that steps
lead to, which is a division away from the end of the calendar. -/
theorem nextDate_daily (now anchor : Date) (hn : 1 ≤ n) (hle : n ≤ Rule.longestStep) :
    (anchor.ordinal + stepsPast now anchor n * n ≤ Date.lastDay.ordinal →
      ∃ c, c.ordinal = anchor.ordinal + stepsPast now anchor n * n ∧
        nextDate { now, anchor, rule := .daily n } = .ok c) ∧
    (Date.lastDay.ordinal < anchor.ordinal + stepsPast now anchor n * n →
      ∃ last : Date, last.ordinal = anchor.ordinal + (Date.lastDay.ordinal - anchor.ordinal) / n * n ∧
        nextDate { now, anchor, rule := .daily n } = .error (.dateOutOfRange last.text)) := by
  have hr : (Rule.daily n).Readable := ⟨hn, hle⟩
  refine ⟨fun hroom => ?_, fun hfull => ?_⟩
  · obtain ⟨c, hc, hfirst⟩ := firstPast_daily hn hroom
    exact ⟨c, hc, (nextDate_eq_ok_iff hr).mpr ⟨_, hfirst⟩⟩
  · obtain ⟨last, hlast, hnever⟩ := neverPast_daily hn hfull
    exact ⟨last, hlast, nextDate_of_neverPast hr hnever⟩

/-- The first Saturday of 2023. -/
def firstSaturday : Date :=
  { Date.newYear with day := 7, day_pos := by decide, day_le := by decide }

/-- The last Saturday of the calendar. -/
def lastSaturday : Date :=
  { Date.lastDay with day := 25, day_pos := by decide, day_le := by decide }

/-- Every week from the leap day of 2020, a Saturday: after New Year's Day of 2023 the 149th week is the next one, and
after the last day of the calendar there is none. -/
theorem nextDate_daily_saturdays :
    1 ≤ 7 ∧ 7 ≤ Rule.longestStep ∧ stepsPast Date.newYear ofLeapDay.anchor 7 = 149 ∧
      nextDate { now := Date.newYear, anchor := ofLeapDay.anchor, rule := .daily 7 } = .ok firstSaturday ∧
      nextDate { now := Date.lastDay, anchor := ofLeapDay.anchor, rule := .daily 7 } =
        .error (.dateOutOfRange lastSaturday.text) := by
  have hn : 1 ≤ 7 := by decide
  have hle : 7 ≤ Rule.longestStep := by decide
  refine ⟨hn, hle, by decide +kernel, ?_, ?_⟩
  · obtain ⟨c, hc, hnext⟩ := (nextDate_daily Date.newYear ofLeapDay.anchor hn hle).1 (by decide +kernel)
    have hday : c.ordinal = firstSaturday.ordinal := hc.trans (by decide +kernel)
    rw [hnext, Date.ordinal_inj.mp hday]
  · obtain ⟨last, hlast, hnext⟩ := (nextDate_daily Date.lastDay ofLeapDay.anchor hn hle).2 (by decide +kernel)
    have hday : last.ordinal = lastSaturday.ordinal := hlast.trans (by decide +kernel)
    rw [hnext, Date.ordinal_inj.mp hday]

end Schedule

end Agenda
