import Agenda.Proofs.Repeat.Later

/-!
# The next date of the yearly rule by comparing years

All steps of the yearly rule lead to anniversaries of the anchor, one in every year after it. The next date is the
first of them past `now`, and its year follows from those of the anchor and of `now` (`yearPast`).
-/

namespace Agenda

/-- Steps of the yearly rule lead to the anniversary in each year after the anchor. -/
theorem Rule.stepped_yearly_eq_some_iff {a d : Date} {k : Nat} (hk : 1 ≤ k) :
    yearly.stepped d k = some a ↔ a.year = d.year + k ∧ (a.month, a.day) = d.anniversary := by
  induction k, hk using Nat.le_induction generalizing a with
  | base => exact Date.nextYear_eq_some_iff
  | succ k hk ih =>
    show (yearly.stepped d k).bind Date.nextYear = some a ↔ _
    rw [Option.bind_eq_some_iff]
    constructor
    · rintro ⟨b, hb, hnext⟩
      obtain ⟨hyear, hday⟩ := ih.mp hb
      obtain ⟨hyear', hday'⟩ := Date.nextYear_eq_some_iff.mp hnext
      exact ⟨by omega, hday'.trans (Date.anniversary_eq hday)⟩
    · rintro ⟨hyear, hday⟩
      have hle := a.year_le
      obtain ⟨b, hyear', hday'⟩ := Date.exists_anniversary d (show d.year + k ≤ 9999 by omega)
      exact ⟨b, ih.mpr ⟨hyear', hday'⟩,
        Date.nextYear_eq_some_iff.mpr ⟨by omega, hday.trans (Date.anniversary_eq hday').symm⟩⟩

namespace Schedule

variable {now anchor a : Date} {j : Nat}

/-- The anniversary comes later in the year than the day and month of `now`. -/
def StillToCome (now anchor : Date) : Prop :=
  now.month < anchor.anniversary.1 ∨ now.month = anchor.anniversary.1 ∧ now.day < anchor.anniversary.2

instance (now anchor : Date) : Decidable (StillToCome now anchor) :=
  inferInstanceAs
    (Decidable (now.month < anchor.anniversary.1 ∨ now.month = anchor.anniversary.1 ∧ now.day < anchor.anniversary.2))

/-- The year of the first anniversary past `now`: the year of `now` itself if the anniversary is still to come in it,
and else the year after it, but not before the year that follows the anchor. -/
def yearPast (now anchor : Date) : Nat :=
  if StillToCome now anchor then max (anchor.year + 1) now.year else max (anchor.year + 1) (now.year + 1)

theorem lt_yearPast (now anchor : Date) : anchor.year < yearPast now anchor := by
  unfold yearPast
  split
  · exact Nat.le_max_left _ _
  · exact Nat.le_max_left _ _

/-- The anniversaries past `now` are those from that year on. -/
theorem yearPast_le_iff (hday : (a.month, a.day) = anchor.anniversary) (hyear : anchor.year < a.year) :
    yearPast now anchor ≤ a.year ↔ now < a := by
  have hlt : now < a ↔ now.year < a.year ∨ now.year = a.year ∧ StillToCome now anchor := by
    rw [Date.lt_iff, StillToCome, ← hday]
  rw [hlt]
  unfold yearPast
  split
  · rename_i hstill
    simp only [hstill, and_true]
    omega
  · rename_i hnot
    simp only [hnot, and_false, or_false]
    omega

theorem firstPast_yearly (hroom : yearPast now anchor ≤ 9999) :
    ∃ c : Date, c.year = yearPast now anchor ∧ (c.month, c.day) = anchor.anniversary ∧
      FirstPast { now, anchor, rule := .yearly } (yearPast now anchor - anchor.year) c := by
  have hafter := lt_yearPast now anchor
  obtain ⟨c, hyear, hday⟩ := Date.exists_anniversary anchor hroom
  have hpos : 1 ≤ yearPast now anchor - anchor.year := by omega
  refine ⟨c, hyear, hday, hpos, (Rule.stepped_yearly_eq_some_iff hpos).mpr ⟨?_, hday⟩, ?_, fun j d hj hlt hd => ?_⟩
  · show c.year = anchor.year + _
    omega
  · exact (yearPast_le_iff hday (hyear ▸ hafter)).mp (le_of_eq hyear.symm)
  · obtain ⟨hdyear, hdday⟩ : d.year = anchor.year + j ∧ (d.month, d.day) = anchor.anniversary :=
      (Rule.stepped_yearly_eq_some_iff hj).mp hd
    refine not_lt.mp fun hpast => ?_
    have hlate : yearPast now anchor ≤ d.year := (yearPast_le_iff hdday (by omega)).mpr hpast
    omega

theorem neverPast_yearly (hfull : 9999 < yearPast now anchor) :
    ∃ last : Date, last.year = 9999 ∧ (last.month, last.day) = anchor.anniversary ∧
      NeverPast { now, anchor, rule := .yearly } last := by
  obtain ⟨last, hyear, hday⟩ := Date.exists_anniversary anchor (le_refl 9999)
  refine ⟨last, hyear, hday, ⟨9999 - anchor.year, ?_⟩, Date.nextYear_eq_none_iff.mpr hyear, fun j d hj hd => ?_⟩
  · show Rule.yearly.stepped anchor (9999 - anchor.year) = some last
    have hle := anchor.year_le
    by_cases hend : anchor.year = 9999
    · -- An anchor of the last year is no leap day: it is the last anniversary itself, without a step.
      have hnot : ¬anchor.IsLeapDay := fun h => absurd (hend ▸ h.isLeap) (by decide)
      rw [Date.anniversary, if_neg hnot, Prod.mk.injEq] at hday
      rw [hend, Nat.sub_self]
      exact congrArg some (Date.eq_iff.mpr ⟨hend.trans hyear.symm, hday.1.symm, hday.2.symm⟩)
    · exact (Rule.stepped_yearly_eq_some_iff (by omega)).mpr ⟨by omega, hday⟩
  · obtain ⟨hdyear, hdday⟩ : d.year = anchor.year + j ∧ (d.month, d.day) = anchor.anniversary :=
      (Rule.stepped_yearly_eq_some_iff hj).mp hd
    refine not_lt.mp fun hpast => ?_
    have hlate : yearPast now anchor ≤ d.year := (yearPast_le_iff hdday (by omega)).mpr hpast
    have hle := d.year_le
    omega

/-- The next date of the yearly rule is the anniversary in the first year in which it is past `now` and past the
anchor; if that year has five digits, the error names the anniversary in the year 9999. So a leap day comes on the
first of March in every year, and any other day on its own day and month. -/
theorem nextDate_yearly (now anchor : Date) :
    (yearPast now anchor ≤ 9999 →
      ∃ c : Date, c.year = yearPast now anchor ∧ (c.month, c.day) = anchor.anniversary ∧
        nextDate { now, anchor, rule := .yearly } = .ok c) ∧
    (9999 < yearPast now anchor →
      ∃ last : Date, last.year = 9999 ∧ (last.month, last.day) = anchor.anniversary ∧
        nextDate { now, anchor, rule := .yearly } = .error (.dateOutOfRange last.text)) ∧
    ∀ c, nextDate { now, anchor, rule := .yearly } = .ok c →
      (anchor.IsLeapDay → c.month = 3 ∧ c.day = 1) ∧
      (¬anchor.IsLeapDay → c.month = anchor.month ∧ c.day = anchor.day) := by
  have hr : Rule.yearly.Readable := trivial
  refine ⟨fun hroom => ?_, fun hfull => ?_, fun c hc => ?_⟩
  · obtain ⟨c, hyear, hday, hfirst⟩ := firstPast_yearly hroom
    exact ⟨c, hyear, hday, (nextDate_eq_ok_iff hr).mpr ⟨_, hfirst⟩⟩
  · obtain ⟨last, hyear, hday, hnever⟩ := neverPast_yearly hfull
    exact ⟨last, hyear, hday, nextDate_of_neverPast hr hnever⟩
  · obtain ⟨k, hk⟩ := (nextDate_eq_ok_iff hr).mp hc
    have hday : (c.month, c.day) = anchor.anniversary := ((Rule.stepped_yearly_eq_some_iff hk.pos).mp hk.reached).2
    refine ⟨fun hleap => ?_, fun hnot => ?_⟩
    · rw [Date.anniversary, if_pos hleap] at hday
      exact Prod.mk.inj hday
    · rw [Date.anniversary, if_neg hnot] at hday
      exact Prod.mk.inj hday

/-- The leap day of 2024. -/
def nextLeapDay : Date :=
  { ofLeapDay.anchor with year := 2024, year_le := by decide, day_le := by decide }

/-- The leap day of 2020 comes on the first of March in the leap year 2024 too, also when it is asked for on the leap
day itself, and after the last day of the calendar it is the first of March of 9999 that is named. -/
theorem nextDate_yearly_leapDays :
    ofLeapDay.anchor.IsLeapDay ∧
      (∃ c : Date, c.year = 2024 ∧ (c.month, c.day) = (3, 1) ∧
        nextDate { now := nextLeapDay, anchor := ofLeapDay.anchor, rule := .yearly } = .ok c) ∧
      ∃ last : Date, last.year = 9999 ∧ (last.month, last.day) = (3, 1) ∧
        nextDate { now := Date.lastDay, anchor := ofLeapDay.anchor, rule := .yearly } =
          .error (.dateOutOfRange last.text) :=
  ⟨by decide, (nextDate_yearly nextLeapDay ofLeapDay.anchor).1 (by decide),
    (nextDate_yearly Date.lastDay ofLeapDay.anchor).2.1 (by decide)⟩

end Schedule

end Agenda
