import Agenda.Proofs.Repeat.NextDate

/-!
# Asking for the next date later

When the next date is asked for makes no difference to the dates that come: as long as steps do not lead past `now`,
one may as well start from where they lead (`nextDate_of_stepped`). So a date that was the answer once stays the
answer until it has passed, and is then as good an anchor as the one before.
-/

namespace Agenda

namespace Rule

variable {rule : Rule} {a b d : Date} {i j k : Nat}

/-- Where some steps lead is no later than where `k` steps lead, or can be reached from there. -/
theorem le_or_stepped_of_stepped (h : rule.Readable) (hk : rule.stepped d k = some a)
    (hi : rule.stepped d i = some b) : b ≤ a ∨ ∃ j, 1 ≤ j ∧ i = k + j ∧ rule.stepped a j = some b := by
  rcases Nat.lt_or_ge k i with hlt | hle
  · obtain ⟨j, rfl⟩ := Nat.exists_eq_add_of_le (Nat.le_of_lt hlt)
    rw [stepped_add, hk, Option.bind_some] at hi
    exact Or.inr ⟨j, by omega, rfl, hi⟩
  · exact Or.inl (stepped_le_stepped h hle hi hk)

/-- A chain of steps has one last date. -/
theorem eq_of_ends (hj : rule.stepped d j = some a) (ha : rule.advance a = none) (hk : rule.stepped d k = some b)
    (hb : rule.advance b = none) : a = b := by
  wlog hjk : j ≤ k generalizing a b j k
  · exact (this hk hb hj ha (by omega)).symm
  obtain ⟨i, rfl⟩ := Nat.exists_eq_add_of_le hjk
  rw [stepped_add, hj, Option.bind_some] at hk
  cases i with
  | zero => exact Option.some.inj hk
  | succ i =>
    rw [stepped_succ_of_end ha] at hk
    cases hk

end Rule

namespace Schedule

variable {now now₁ now₂ anchor a c last : Date} {rule : Rule} {written : String} {j k : Nat} {s : Schedule}

theorem nextDate_of_neverPast (hr : s.rule.Readable) (h : s.NeverPast last) :
    s.nextDate = .error (.dateOutOfRange last.text) := by
  rcases nextDate_cases hr with ⟨k, c, -, hk⟩ | ⟨last', herr, h'⟩
  · exact absurd hk.passes (h.not_passes k)
  · obtain ⟨j, hj⟩ := h.reached
    obtain ⟨k, hk⟩ := h'.reached
    rw [herr, Rule.eq_of_ends hj h.final hk h'.final]

/-! ### From another anchor -/

theorem FirstPast.of_stepped (hr : rule.Readable) (ha : rule.stepped anchor k = some a) (hle : a ≤ now)
    (h : FirstPast { now, anchor := a, rule } j c) : FirstPast { now, anchor, rule } (k + j) c where
  pos := Nat.le_add_left_of_le h.pos
  reached := by
    show rule.stepped anchor (k + j) = some c
    rw [Rule.stepped_add, ha]
    exact h.reached
  past := h.past
  before i d hpos hi hd := by
    rcases Rule.le_or_stepped_of_stepped hr ha hd with hda | ⟨i', hpos', rfl, hd'⟩
    · exact hda.trans hle
    · exact h.before i' d hpos' (Nat.lt_of_add_lt_add_left hi) hd'

theorem NeverPast.of_stepped (hr : rule.Readable) (ha : rule.stepped anchor k = some a) (hle : a ≤ now)
    (h : NeverPast { now, anchor := a, rule } last) : NeverPast { now, anchor, rule } last where
  reached := by
    obtain ⟨j, hj⟩ := h.reached
    refine ⟨k + j, ?_⟩
    show rule.stepped anchor (k + j) = some last
    rw [Rule.stepped_add, ha]
    exact hj
  final := h.final
  before i d hpos hd := by
    rcases Rule.le_or_stepped_of_stepped hr ha hd with hda | ⟨i', hpos', rfl, hd'⟩
    · exact hda.trans hle
    · exact h.before i' d hpos' hd'

/-- As long as they do not lead past `now`, steps may be taken off beforehand. -/
theorem nextDate_of_stepped (hr : rule.Readable) (ha : rule.stepped anchor k = some a) (hle : a ≤ now) :
    nextDate { now, anchor, rule } = nextDate { now, anchor := a, rule } := by
  rcases nextDate_cases (s := { now, anchor := a, rule }) hr with ⟨j, c, hc, hj⟩ | ⟨last, herr, hlast⟩
  · rw [hc]
    exact (nextDate_eq_ok_iff hr).mpr ⟨k + j, hj.of_stepped hr ha hle⟩
  · rw [herr]
    exact nextDate_of_neverPast hr (hlast.of_stepped hr ha hle)

/-! ### On a later day -/

theorem FirstPast.later (h : FirstPast { now := now₁, anchor, rule } k c) (hle : now₁ ≤ now₂) (hlt : now₂ < c) :
    FirstPast { now := now₂, anchor, rule } k c where
  pos := h.pos
  reached := h.reached
  past := hlt
  before j d hpos hj hd := (h.before j d hpos hj hd).trans hle

theorem NeverPast.later (h : NeverPast { now := now₁, anchor, rule } last) (hle : now₁ ≤ now₂) :
    NeverPast { now := now₂, anchor, rule } last where
  reached := h.reached
  final := h.final
  before j d hpos hd := (h.before j d hpos hd).trans hle

/-- An answer that has passed is as good an anchor as the one it was found from. -/
theorem nextDate_of_passed (hr : rule.Readable) (h : nextDate { now := now₁, anchor, rule } = .ok c)
    (hpassed : c ≤ now₂) : nextDate { now := now₂, anchor, rule } = nextDate { now := now₂, anchor := c, rule } := by
  obtain ⟨k, hk⟩ := (nextDate_eq_ok_iff hr).mp h
  exact nextDate_of_stepped hr hk.reached hpassed

/-- An answer stays the answer until it has passed. -/
theorem nextDate_of_ahead (hr : rule.Readable) (hle : now₁ ≤ now₂) (h : nextDate { now := now₁, anchor, rule } = .ok c)
    (hahead : now₂ < c) : nextDate { now := now₂, anchor, rule } = .ok c := by
  obtain ⟨k, hk⟩ := (nextDate_eq_ok_iff hr).mp h
  exact (nextDate_eq_ok_iff hr).mpr ⟨k, hk.later hle hahead⟩

theorem nextDate_of_error (hr : rule.Readable) (hle : now₁ ≤ now₂) {e : RuleError}
    (h : nextDate { now := now₁, anchor, rule } = .error e) : nextDate { now := now₂, anchor, rule } = .error e := by
  obtain ⟨last, hlast, rfl⟩ := nextDate_eq_error hr h
  exact nextDate_of_neverPast hr (hlast.later hle)

/-- A later day has no earlier answer, counting an error as later than every date. -/
theorem exists_nextDate_le (hr : rule.Readable) (hle : now₁ ≤ now₂)
    (h : nextDate { now := now₂, anchor, rule } = .ok c) :
    ∃ b, nextDate { now := now₁, anchor, rule } = .ok b ∧ b ≤ c := by
  cases h₁ : nextDate { now := now₁, anchor, rule } with
  | error e =>
    rw [nextDate_of_error hr hle h₁] at h
    cases h
  | ok b =>
    refine ⟨b, rfl, ?_⟩
    rcases le_or_gt b now₂ with hpassed | hahead
    · obtain ⟨k, hk⟩ := (nextDate_eq_ok_iff hr).mp h
      exact hpassed.trans (le_of_lt hk.past)
    · rw [nextDate_of_ahead hr hle h₁ hahead] at h
      exact le_of_eq (Except.ok.inj h)

/-- The dates that come do not depend on the day on which they are asked for. What the answer was on an earlier day
is still the answer if it has not passed, and serves as the anchor if it has; an error stays the same error. So the
answer is monotone in the day. -/
theorem nextDate_later (hwritten : Rule.parse written = .ok rule) (hle : now₁ ≤ now₂) (anchor : Date) :
    (∀ r, nextDate { now := now₁, anchor, rule } = .ok r → r ≤ now₂ →
      nextDate { now := now₂, anchor, rule } = nextDate { now := now₂, anchor := r, rule }) ∧
    (∀ r, nextDate { now := now₁, anchor, rule } = .ok r → now₂ < r →
      nextDate { now := now₂, anchor, rule } = .ok r) ∧
    (∀ e, nextDate { now := now₁, anchor, rule } = .error e → nextDate { now := now₂, anchor, rule } = .error e) ∧
    ∀ r₂, nextDate { now := now₂, anchor, rule } = .ok r₂ →
      ∃ r₁, nextDate { now := now₁, anchor, rule } = .ok r₁ ∧ r₁ ≤ r₂ := by
  have hr : rule.Readable := Rule.readable_of_parse hwritten
  refine ⟨fun r h hpassed => ?_, fun r h hahead => ?_, fun e h => ?_, fun r₂ h => ?_⟩
  · exact nextDate_of_passed hr h hpassed
  · exact nextDate_of_ahead hr hle h hahead
  · exact nextDate_of_error hr hle h
  · exact exists_nextDate_le hr hle h

/-- The first of March of 2023. -/
def firstOfMarch : Date :=
  { Date.newYear with month := 3, day_le := by decide }

/-- Asked on New Year's Day of 2023, the leap day comes on the first of March; on that day and after it the first of
March does for the leap day as the anchor, although its steps never lead back to a leap day. -/
theorem nextDate_leapDay_later :
    Rule.parse "y" = .ok .yearly ∧ Date.newYear ≤ firstOfMarch ∧
      nextDate { now := Date.newYear, anchor := ofLeapDay.anchor, rule := .yearly } = .ok firstOfMarch ∧
      nextDate { now := firstOfMarch, anchor := ofLeapDay.anchor, rule := .yearly } =
        nextDate { now := firstOfMarch, anchor := firstOfMarch, rule := .yearly } := by
  have hwritten : Rule.parse "y" = .ok .yearly := by decide
  have hle : Date.newYear ≤ firstOfMarch := by decide
  have hfirst : nextDate { now := Date.newYear, anchor := ofLeapDay.anchor, rule := .yearly } = .ok firstOfMarch := by
    decide +kernel
  exact ⟨hwritten, hle, hfirst, (nextDate_later hwritten hle ofLeapDay.anchor).1 _ hfirst (le_refl _)⟩

end Schedule

end Agenda
