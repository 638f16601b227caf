import Agenda.Repeat.NextDate
import Agenda.Proofs.Calendar.Text
import Agenda.Proofs.Except
import Agenda.Proofs.Repeat.Rule

/-!
# The next date is the earliest one

For a rule that a text can name, every step leads to a later date, so stepping on from the anchor ends: with the
first date of a step that lies after `now` (`FirstPast`), or at the last date of the calendar that a step leads to
(`NeverPast`). The search for the next date finds out which (`nextDate_cases`).
-/

namespace Agenda

namespace Schedule

variable {s : Schedule} {now a c d last : Date} {rule : Rule} {j k : Nat}

/-! ### The two ends of a chain of steps -/

/-- `k` steps lead to `c`, which lies after `now`, and no smaller number of steps, but at least one, does so. -/
structure FirstPast (s : Schedule) (k : Nat) (c : Date) : Prop where
  pos : 1 ≤ k
  reached : s.rule.stepped s.anchor k = some c
  past : s.now < c
  before : ∀ j d, 1 ≤ j → j < k → s.rule.stepped s.anchor j = some d → d ≤ s.now

/-- The steps end at `last`, and none of them leads past `now`. -/
structure NeverPast (s : Schedule) (last : Date) : Prop where
  reached : ∃ k, s.rule.stepped s.anchor k = some last
  final : s.rule.advance last = none
  before : ∀ j d, 1 ≤ j → s.rule.stepped s.anchor j = some d → d ≤ s.now

/-- The step counts, one or more, that lead past `now`. -/
def Passes (s : Schedule) (k : Nat) : Prop :=
  1 ≤ k ∧ ∃ c, s.rule.stepped s.anchor k = some c ∧ s.now < c

theorem FirstPast.isLeast (h : s.FirstPast k c) : IsLeast {k | s.Passes k} k := by
  refine ⟨⟨h.pos, c, h.reached, h.past⟩, ?_⟩
  rintro j ⟨hpos, d, hd, hpast⟩
  by_contra hlt
  exact absurd (h.before j d hpos (Nat.lt_of_not_le hlt) hd) (not_le.mpr hpast)

/-- Later steps lead to later dates, so the fewest steps that lead past `now` lead to the earliest date there. -/
theorem FirstPast.earliest (hr : s.rule.Readable) (h : s.FirstPast k c) :
    IsLeast {d | s.now < d ∧ ∃ j, 1 ≤ j ∧ s.rule.stepped s.anchor j = some d} c := by
  refine ⟨⟨h.past, k, h.pos, h.reached⟩, ?_⟩
  rintro d ⟨hpast, j, hpos, hd⟩
  have hkj : k ≤ j := h.isLeast.2 ⟨hpos, d, hd, hpast⟩
  exact Rule.stepped_le_stepped hr hkj h.reached hd

theorem FirstPast.passes (h : s.FirstPast k c) : s.Passes k :=
  ⟨h.pos, c, h.reached, h.past⟩

theorem NeverPast.not_passes (h : s.NeverPast last) (k : Nat) : ¬s.Passes k := by
  rintro ⟨hpos, c, hc, hpast⟩
  exact absurd (h.before k c hpos hc) (not_le.mpr hpast)

/-! ### The search -/

theorem overtake_cases (hr : rule.Readable) (now d : Date) :
    (∃ k c, overtake now rule d = .ok c ∧ rule.stepped d k = some c ∧ now < c ∧
      ∀ j a, j < k → rule.stepped d j = some a → a ≤ now) ∨
    ∃ k last, overtake now rule d = .error (.dateOutOfRange last.text) ∧ rule.stepped d k = some last ∧
      rule.advance last = none ∧ ∀ j a, rule.stepped d j = some a → a ≤ now := by
  fun_induction overtake now rule d with
  | case1 d hlt => exact Or.inl ⟨0, d, rfl, rfl, hlt, fun j _ hj => absurd hj (Nat.not_lt_zero j)⟩
  | case2 d hle hend =>
    refine Or.inr ⟨0, d, rfl, rfl, hend, fun j a ha => ?_⟩
    cases j with
    | zero =>
      cases ha
      exact not_lt.mp hle
    | succ j =>
      rw [Rule.stepped_succ_of_end hend] at ha
      cases ha
  | case3 d hle next hadv hlt ih =>
    -- What the search finds from the next date on is one step further from here.
    have hd : ∀ j a, rule.stepped d j = some a → j = 0 ∧ a ≤ now ∨ ∃ i, j = i + 1 ∧ rule.stepped next i = some a := by
      intro j a ha
      cases j with
      | zero =>
        cases ha
        exact Or.inl ⟨rfl, not_lt.mp hle⟩
      | succ j => exact Or.inr ⟨j, rfl, Rule.stepped_succ hadv j ▸ ha⟩
    rcases ih with ⟨k, c, hres, hk, hpast, hbefore⟩ | ⟨k, last, hres, hk, hend, hbefore⟩
    · refine Or.inl ⟨k + 1, c, hres, Rule.stepped_succ hadv k ▸ hk, hpast, fun j a hj ha => ?_⟩
      rcases hd j a ha with ⟨-, hle⟩ | ⟨i, rfl, hi⟩
      · exact hle
      · exact hbefore i a (Nat.lt_of_succ_lt_succ hj) hi
    · refine Or.inr ⟨k + 1, last, hres, Rule.stepped_succ hadv k ▸ hk, hend, fun j a ha => ?_⟩
      rcases hd j a ha with ⟨-, hle⟩ | ⟨i, -, hi⟩
      · exact hle
      · exact hbefore i a hi
  | case4 d hle next hadv hnlt => exact absurd (Rule.lt_of_advance hr hadv) hnlt

theorem nextDate_cases (hr : s.rule.Readable) :
    (∃ k c, s.nextDate = .ok c ∧ s.FirstPast k c) ∨
    ∃ last, s.nextDate = .error (.dateOutOfRange last.text) ∧ s.NeverPast last := by
  unfold nextDate
  split
  · rename_i hend
    refine Or.inr ⟨s.anchor, rfl, ⟨0, rfl⟩, hend, fun j d hpos hd => ?_⟩
    obtain ⟨j, rfl⟩ := Nat.exists_eq_add_of_le' hpos
    rw [Rule.stepped_succ_of_end hend] at hd
    cases hd
  · rename_i first hadv
    rcases overtake_cases hr s.now first with ⟨k, c, hres, hk, hpast, hbefore⟩ | ⟨k, last, hres, hk, hend, hbefore⟩
    · refine Or.inl ⟨k + 1, c, hres, Nat.le_add_left 1 k, Rule.stepped_succ hadv k ▸ hk, hpast, ?_⟩
      intro j d hpos hj hd
      obtain ⟨j, rfl⟩ := Nat.exists_eq_add_of_le' hpos
      exact hbefore j d (Nat.lt_of_succ_lt_succ hj) (Rule.stepped_succ hadv j ▸ hd)
    · refine Or.inr ⟨last, hres, ⟨k + 1, Rule.stepped_succ hadv k ▸ hk⟩, hend, fun j d hpos hd => ?_⟩
      obtain ⟨j, rfl⟩ := Nat.exists_eq_add_of_le' hpos
      exact hbefore j d (Rule.stepped_succ hadv j ▸ hd)

theorem nextDate_eq_ok_iff (hr : s.rule.Readable) : s.nextDate = .ok c ↔ ∃ k, s.FirstPast k c := by
  constructor
  · intro h
    rcases nextDate_cases hr with ⟨k, c', hc, hk⟩ | ⟨last, herr, -⟩
    · rw [h] at hc
      cases hc
      exact ⟨k, hk⟩
    · rw [h] at herr
      cases herr
  · rintro ⟨k, hk⟩
    rcases nextDate_cases hr with ⟨j, c', hc, hj⟩ | ⟨last, -, hlast⟩
    · obtain rfl := hk.isLeast.unique hj.isLeast
      rw [hc, Option.some.inj (hj.reached.symm.trans hk.reached)]
    · exact absurd hk.passes (hlast.not_passes k)

/-- The next date is the earliest of the dates past `now` that steps lead to. -/
theorem nextDate_eq_ok_iff_isLeast (hr : s.rule.Readable) :
    s.nextDate = .ok c ↔ IsLeast {d | s.now < d ∧ ∃ k, 1 ≤ k ∧ s.rule.stepped s.anchor k = some d} c := by
  constructor
  · intro h
    obtain ⟨k, hk⟩ := (nextDate_eq_ok_iff hr).mp h
    exact hk.earliest hr
  · intro hleast
    rcases nextDate_cases hr with ⟨k, c', hc, hk⟩ | ⟨last, -, hlast⟩
    · rw [hc, hleast.unique (hk.earliest hr)]
    · obtain ⟨hpast, k, hpos, hk⟩ := hleast.1
      exact absurd hpast (not_lt.mpr (hlast.before k c hpos hk))

theorem nextDate_eq_error (hr : s.rule.Readable) {e : RuleError} (h : s.nextDate = .error e) :
    ∃ last, s.NeverPast last ∧ e = .dateOutOfRange last.text := by
  rcases nextDate_cases hr with ⟨k, c, hc, -⟩ | ⟨last, herr, hlast⟩
  · rw [h] at hc
    cases hc
  · rw [h] at herr
    cases herr
    exact ⟨last, hlast, rfl⟩

/-! ### The answer -/

/-- The next date of a readable rule exists just if some number of steps leads past `now`; it is then where the
fewest such steps lead, the earliest date after `now` that steps lead to. Otherwise the error names the last date
of the chain of steps. -/
theorem nextDate_earliest (s : Schedule) (hr : s.rule.Readable) :
    ((∃ c, s.nextDate = .ok c) ↔ ∃ k, s.Passes k) ∧
    (∀ c, s.nextDate = .ok c →
      (∃ k, IsLeast {k | s.Passes k} k ∧ s.rule.stepped s.anchor k = some c) ∧
      IsLeast {d | s.now < d ∧ ∃ k, 1 ≤ k ∧ s.rule.stepped s.anchor k = some d} c ∧
      s.anchor < c) ∧
    ((¬∃ c, s.nextDate = .ok c) → ∃ k last, s.rule.stepped s.anchor k = some last ∧
      s.rule.advance last = none ∧ s.nextDate = .error (.dateOutOfRange last.text)) ∧
    ∀ now candidate, s.nextDate ≠ .error (.notAfterNow now candidate) := by
  rcases nextDate_cases hr with ⟨k, c, hc, hk⟩ | ⟨last, herr, hlast⟩
  · refine ⟨⟨fun _ => ⟨k, hk.passes⟩, fun _ => ⟨c, hc⟩⟩, ?_, fun hno => absurd ⟨c, hc⟩ hno, ?_⟩
    · intro c' hc'
      obtain rfl : c = c' := Except.ok.inj (hc.symm.trans hc')
      exact ⟨⟨k, hk.isLeast, hk.reached⟩, hk.earliest hr, Rule.lt_of_stepped hr hk.pos hk.reached⟩
    · intro now candidate herr
      rw [hc] at herr
      cases herr
  · obtain ⟨k, hk⟩ := hlast.reached
    have hno : ∀ c, s.nextDate ≠ .ok c := fun c hc => by
      rw [herr] at hc
      cases hc
    refine ⟨⟨fun ⟨c, hc⟩ => absurd hc (hno c), fun ⟨k, hk⟩ => absurd hk (hlast.not_passes k)⟩,
      fun c hc => absurd hc (hno c), fun _ => ⟨k, last, hk, hlast.final, herr⟩, ?_⟩
    intro now candidate hstuck
    rw [herr] at hstuck
    cases hstuck

/-- Every year from the leap day of 2020, asked on New Year's Day of 2023. -/
def ofLeapDay : Schedule where
  now := Date.newYear
  anchor := ⟨2020, 2, 29, by decide, by decide, by decide⟩
  rule := .yearly

/-- The first step moves the leap day to the first of March, where it stays. -/
theorem nextDate_ofLeapDay :
    ofLeapDay.rule.Readable ∧ ∃ c, Date.of? 2023 3 1 = some c ∧ ofLeapDay.nextDate = .ok c ∧
      (∃ k, IsLeast {k | ofLeapDay.Passes k} k ∧ ofLeapDay.rule.stepped ofLeapDay.anchor k = some c) ∧
      ofLeapDay.anchor < c := by
  have hc : ofLeapDay.nextDate = .ok ⟨2023, 3, 1, by decide, by decide, by decide⟩ := by decide +kernel
  obtain ⟨hsteps, -, hlt⟩ := (nextDate_earliest ofLeapDay trivial).2.1 _ hc
  exact ⟨trivial, _, rfl, hc, hsteps, hlt⟩

end Schedule

/-! ### Schedules given as texts -/

section Texts

variable {now d : Date} {rule : Rule} {anchor written text : String} {e : RuleError}

theorem nextDateText_of_parse (hd : Date.parse anchor = .ok d) (hr : Rule.parse written = .ok rule) :
    nextDateText now anchor written = (Schedule.nextDate { now, anchor := d, rule }).map Date.text := by
  unfold nextDateText Schedule.parse
  rw [hd, hr]
  show (Schedule.nextDate { now, anchor := d, rule }).bind _ = _
  cases Schedule.nextDate { now, anchor := d, rule } <;> rfl

theorem parse_of_nextDateText (h : nextDateText now anchor written = .ok text) :
    ∃ d rule, Date.parse anchor = .ok d ∧ Rule.parse written = .ok rule := by
  unfold nextDateText Schedule.parse at h
  obtain ⟨schedule, hschedule, -⟩ := Except.bind_eq_ok_iff.mp h
  obtain ⟨d, hd, hrest⟩ := Except.bind_eq_ok_iff.mp hschedule
  obtain ⟨rule, hr, -⟩ := Except.bind_eq_ok_iff.mp hrest
  exact ⟨d, rule, hd, hr⟩

theorem firstPast_of_nextDateText (hd : Date.parse anchor = .ok d) (hr : Rule.parse written = .ok rule)
    (h : nextDateText now anchor written = .ok text) :
    ∃ k c, Schedule.FirstPast { now, anchor := d, rule } k c ∧ text = c.text := by
  rw [nextDateText_of_parse hd hr] at h
  obtain ⟨c, hc, rfl⟩ := Except.map_eq_ok_iff.mp h
  obtain ⟨k, hk⟩ := (Schedule.nextDate_eq_ok_iff (Rule.readable_of_parse hr)).mp hc
  exact ⟨k, c, hk, rfl⟩

/-- The next date is written so that it can be read again, and lies after `now`. -/
theorem lt_of_nextDateText (h : nextDateText now anchor written = .ok text) :
    ∃ c, Date.parse text = .ok c ∧ now < c := by
  obtain ⟨d, rule, hd, hr⟩ := parse_of_nextDateText h
  obtain ⟨k, c, hk, rfl⟩ := firstPast_of_nextDateText hd hr h
  exact ⟨c, Date.parse_text c, hk.past⟩

/-- A readable date and rule have no other error than that the dates run out. -/
theorem nextDateText_eq_error (hd : Date.parse anchor = .ok d) (hr : Rule.parse written = .ok rule)
    (h : nextDateText now anchor written = .error e) : ∃ last, e = .dateOutOfRange last := by
  rw [nextDateText_of_parse hd hr, Except.map_eq_error_iff] at h
  obtain ⟨last, -, rfl⟩ := Schedule.nextDate_eq_error (Rule.readable_of_parse hr) h
  exact ⟨last.text, rfl⟩

end Texts

end Agenda
