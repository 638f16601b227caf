import Agenda.Proofs.Repeat.Rule

/-!
# Steps and the order of dates

A step leads on, and from a later date it leads to a later one, where leaving the calendar counts as later than every
date (`Rule.landing`). Only the first of March can be met twice: it comes one year after a leap day and one year after
the day that follows it (`Rule.advance_order`).
-/

namespace Agenda

namespace Date

variable {a b d x y : Date} {n : Nat}

/-! ### Days -/

theorem addDays_lt_addDays (h : a < b) (hx : a.addDays n = some x) (hy : b.addDays n = some y) : x < y := by
  rw [← ordinal_lt_ordinal] at h ⊢
  rw [addDays_eq_some_iff.mp hx, addDays_eq_some_iff.mp hy]
  exact Nat.add_lt_add_right h n

theorem addDays_eq_none_of_lt (h : a < b) (hnone : a.addDays n = none) : b.addDays n = none := by
  rw [← ordinal_lt_ordinal] at h
  rw [addDays_eq_none_iff] at hnone ⊢
  omega

/-! ### Years -/

/-- The first date is a leap day, and the second one the first of March that follows it. -/
def Follows (a b : Date) : Prop :=
  a.IsLeapDay ∧ b.year = a.year ∧ b.month = 3 ∧ b.day = 1

theorem day_le_of_february (h : d.month = 2) : d.day ≤ 29 := by
  have hle := d.day_le
  rw [h] at hle
  simp only [daysInMonth] at hle
  split at hle <;> omega

/-- The later date comes back later in the next year, unless both come back on the first of March. -/
theorem lt_or_follows_of_nextYear (h : a < b) (hx : a.nextYear = some x) (hy : b.nextYear = some y) :
    x < y ∨ x = y ∧ Follows a b := by
  obtain ⟨hxyear, hxday⟩ := nextYear_eq_some_iff.mp hx
  obtain ⟨hyyear, hyday⟩ := nextYear_eq_some_iff.mp hy
  rcases lt_iff.mp h with hyear | ⟨hyear, hday⟩
  · exact Or.inl (lt_iff.mpr (Or.inl (by omega)))
  · have hsame : x.year = y.year := by omega
    rw [lt_iff, eq_iff]
    unfold anniversary at hxday hyday
    -- In one year, a leap day is the last day before the first of March that it moves on to.
    split at hxday
    · rename_i hleap
      have hleapDay : a.month = 2 ∧ a.day = 29 := hleap
      have hpos := b.day_pos
      have hfebruary := day_le_of_february (d := b)
      have hnotLeap : ¬b.IsLeapDay := by
        rintro ⟨hbmonth, hbday⟩
        omega
      rw [if_neg hnotLeap, Prod.mk.injEq] at hyday
      rw [Prod.mk.injEq] at hxday
      by_cases hmarch : b.month = 3 ∧ b.day = 1
      · exact Or.inr ⟨⟨hsame, by omega, by omega⟩, hleap, hyear.symm, hmarch⟩
      · exact Or.inl (Or.inr ⟨hsame, by omega⟩)
    · rw [Prod.mk.injEq] at hxday
      split at hyday
      · rename_i hleap
        have hleapDay : b.month = 2 ∧ b.day = 29 := hleap
        rw [Prod.mk.injEq] at hyday
        exact Or.inl (Or.inr ⟨hsame, by omega⟩)
      · rw [Prod.mk.injEq] at hyday
        exact Or.inl (Or.inr ⟨hsame, by omega⟩)

theorem nextYear_eq_none_of_lt (h : a < b) (hnone : a.nextYear = none) : b.nextYear = none := by
  rw [lt_iff] at h
  rw [nextYear_eq_none_iff] at hnone ⊢
  have := b.year_le
  omega

theorem exists_nextYear_of_follows (h : Follows a b) : ∃ x, a.nextYear = some x ∧ b.nextYear = some x := by
  obtain ⟨hleap, hyear, hmonth, hday⟩ := h
  have hnotLast : a.year ≠ 9999 := by
    intro hlast
    have hisLeap := hleap.isLeap
    rw [hlast] at hisLeap
    exact absurd hisLeap (by decide)
  obtain ⟨x, hx⟩ := Option.ne_none_iff_exists'.mp (mt nextYear_eq_none_iff.mp hnotLast)
  obtain ⟨hxyear, hxday⟩ := nextYear_eq_some_iff.mp hx
  have hsame : (b.month, b.day) = a.anniversary := by
    rw [anniversary, if_pos hleap, hmonth, hday]
  refine ⟨x, hx, nextYear_eq_some_iff.mpr ⟨by rw [hxyear, hyear], ?_⟩⟩
  rw [anniversary_eq hsame, hxday]

end Date

namespace Rule

variable {rule : Rule} {a b x y : Date} {text : String}

/-! ### Steps -/

/-- Where a step leads from a date, with the way out of the calendar above all dates. -/
def landing (rule : Rule) (date : Date) : WithTop Date :=
  match rule.advance date with
  | some a => a
  | none => ⊤

theorem landing_of_advance (h : rule.advance a = some x) : rule.landing a = x := by
  unfold landing
  rw [h]

theorem landing_of_end (h : rule.advance a = none) : rule.landing a = ⊤ := by
  unfold landing
  rw [h]

theorem advance_eq_none_of_lt (h : a < b) (hnone : rule.advance a = none) : rule.advance b = none := by
  cases rule with
  | daily step => exact Date.addDays_eq_none_of_lt h hnone
  | yearly => exact Date.nextYear_eq_none_of_lt h hnone

theorem lt_or_follows_of_advance (h : a < b) (hx : rule.advance a = some x) (hy : rule.advance b = some y) :
    x < y ∨ x = y ∧ rule = .yearly ∧ Date.Follows a b := by
  cases rule with
  | daily step => exact Or.inl (Date.addDays_lt_addDays h hx hy)
  | yearly => exact (Date.lt_or_follows_of_nextYear h hx hy).imp_right fun hfollows => ⟨hfollows.1, rfl, hfollows.2⟩

theorem landing_le_landing (h : a < b) : rule.landing a ≤ rule.landing b := by
  cases hb : rule.advance b with
  | none =>
    rw [landing_of_end hb]
    exact le_top
  | some y =>
    cases ha : rule.advance a with
    | none => exact absurd ((advance_eq_none_of_lt h ha).symm.trans hb) (Option.some_ne_none y).symm
    | some x =>
      rw [landing_of_advance ha, landing_of_advance hb, WithTop.coe_le_coe]
      exact (lt_or_follows_of_advance h ha hb).elim le_of_lt fun heq => le_of_eq heq.1

/-- Two dates meet after one step of the yearly rule, and of no other, just if they are a leap day and the first of
March that follows it. -/
theorem exists_meeting_iff (h : a < b) : (∃ x, rule.advance a = some x ∧ rule.advance b = some x) ↔
    rule = .yearly ∧ Date.Follows a b := by
  constructor
  · rintro ⟨x, ha, hb⟩
    exact ((lt_or_follows_of_advance h ha hb).resolve_left (lt_irrefl x)).2
  · rintro ⟨rfl, hfollows⟩
    exact Date.exists_nextYear_of_follows hfollows

/-- A step of a rule that a text names leads to a later date, and from a later date not to an earlier one; two dates
meet after one step only if the rule is the yearly one and they are a leap day and the first of March that follows it.
The yearly rule leads out of the calendar from its last year, and only from there. -/
theorem advance_order (hrule : parse text = .ok rule) :
    (∀ d a, rule.advance d = some a → d < a) ∧
    (∀ d₁ d₂, d₁ < d₂ → rule.landing d₁ ≤ rule.landing d₂ ∧
      ((∃ a, rule.advance d₁ = some a ∧ rule.advance d₂ = some a) ↔
        rule = .yearly ∧ (d₁.month = 2 ∧ d₁.day = 29) ∧ d₂.year = d₁.year ∧ d₂.month = 3 ∧ d₂.day = 1)) ∧
    ∀ d, yearly.advance d = none ↔ d.year = 9999 :=
  ⟨fun _ _ => lt_of_advance (readable_of_parse hrule), fun _ _ h => ⟨landing_le_landing h, exists_meeting_iff h⟩,
    fun _ => Date.nextYear_eq_none_iff⟩

/-- The leap day of 2020 and the first of March after it meet on the first of March of 2021, where each of them steps
ahead; 400 days lead from them to dates in their order. -/
theorem advance_order_leapDay : parse "y" = .ok .yearly ∧ parse "d 400" = .ok (.daily 400) ∧
    ∃ d₁ d₂ a, Date.of? 2020 2 29 = some d₁ ∧ Date.of? 2020 3 1 = some d₂ ∧ d₁ < d₂ ∧
      yearly.advance d₁ = some a ∧ yearly.advance d₂ = some a ∧ d₂ < a ∧
      (daily 400).landing d₁ ≤ (daily 400).landing d₂ := by
  have hyearly : parse "y" = .ok .yearly := by decide
  have hdaily : parse "d 400" = .ok (.daily 400) := by decide +kernel
  obtain ⟨hlt, hmeet, -⟩ := advance_order hyearly
  refine ⟨hyearly, hdaily, ?_⟩
  obtain ⟨d₁, hd₁⟩ : ∃ d, Date.of? 2020 2 29 = some d := ⟨_, rfl⟩
  obtain ⟨d₂, hd₂⟩ : ∃ d, Date.of? 2020 3 1 = some d := ⟨_, rfl⟩
  obtain ⟨hyear₁, hmonth₁, hday₁⟩ := Date.of?_eq_some_iff.mp hd₁
  obtain ⟨hyear₂, hmonth₂, hday₂⟩ := Date.of?_eq_some_iff.mp hd₂
  have hbefore : d₁ < d₂ := by
    rw [Date.lt_iff]
    omega
  obtain ⟨a, ha₁, ha₂⟩ :=
    (hmeet d₁ d₂ hbefore).2.mpr ⟨rfl, ⟨hmonth₁, hday₁⟩, hyear₂.trans hyear₁.symm, hmonth₂, hday₂⟩
  exact ⟨d₁, d₂, a, hd₁, hd₂, hbefore, ha₁, ha₂, hlt d₂ a ha₂, ((advance_order hdaily).2.1 d₁ d₂ hbefore).1⟩

end Rule

end Agenda
