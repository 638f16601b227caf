import Agenda.Proofs.Repeat.Later
import Agenda.Proofs.Task.Draft

/-!
# What becomes of a draft

A draft goes through checks in a fixed order: title, date, rule, and whether the rule still leads past today. The
first one that fails is what the draft is refused for; a draft that passes them all becomes an entry with its title,
comment and rule, due on a date that has not passed. `Draft.Settled` lists these outcomes, and there are no others.
-/

namespace Agenda

namespace Draft

variable {draft : Draft} {today d due : Date} {rule : Rule} {r : Except RuleError Date}

/-! ### The due date -/

/-- There is no date, or it is the text of a day. -/
def Dated (draft : Draft) : Prop :=
  draft.date = "" ∨ ∃ d : Date, d.text = draft.date

/-- There is no rule, or it can be read. -/
def Ruled (draft : Draft) : Prop :=
  draft.repeats = "" ∨ ∃ rule, Rule.parse draft.repeats = .ok rule

/-- The due dates that drafts get today, and what they are refused for instead. -/
inductive Due (draft : Draft) (today : Date) : Except RuleError Date → Prop
  /-- There is a date, and it is the text of no day. -/
  | misdated (hgiven : draft.date ≠ "") (hno : ∀ d : Date, d.text ≠ draft.date) :
      Due draft today (.error (.invalidDate draft.date))
  /-- There is a rule, and it cannot be read. The date does not matter, as long as it is none or can be read. -/
  | misruled {e : RuleError} (hdated : draft.Dated) (hgiven : draft.repeats ≠ "")
      (hno : Rule.parse draft.repeats = .error e) : Due draft today (.error e)
  /-- Without a date, today it is. -/
  | undated (hnone : draft.date = "") (hruled : draft.Ruled) : Due draft today (.ok today)
  /-- A date that has not passed stays. -/
  | ahead {d : Date} (hdate : d.text = draft.date) (hruled : draft.Ruled) (hahead : today ≤ d) : Due draft today (.ok d)
  /-- A date that has passed becomes today if nothing repeats. -/
  | lapsed {d : Date} (hdate : d.text = draft.date) (hnone : draft.repeats = "") (hpast : d < today) :
      Due draft today (.ok today)
  /-- Else it becomes the earliest date past today that steps of the rule lead to. -/
  | moved {d due : Date} {rule : Rule} (hdate : d.text = draft.date) (hgiven : draft.repeats ≠ "")
      (hrule : Rule.parse draft.repeats = .ok rule) (hpast : d < today)
      (hleast : IsLeast {a | today < a ∧ ∃ k, 1 ≤ k ∧ rule.stepped d k = some a} due) : Due draft today (.ok due)
  /-- If none of them is past today, the draft is refused for the last of them. -/
  | exhausted {d last : Date} {rule : Rule} (hdate : d.text = draft.date) (hgiven : draft.repeats ≠ "")
      (hrule : Rule.parse draft.repeats = .ok rule) (hpast : d < today)
      (hnever : Schedule.NeverPast { now := today, anchor := d, rule } last) :
      Due draft today (.error (.dateOutOfRange last.text))

theorem givenDate_of_text (h : d.text = draft.date) : draft.givenDate today = .ok d :=
  givenDate_of_parse (Date.parse_eq_ok_iff_text.mpr h)

theorem givenDate_of_empty (h : draft.date = "") : draft.givenDate today = .ok today :=
  if_pos h

theorem givenDate_of_misdated (hgiven : draft.date ≠ "") (hno : ∀ d : Date, d.text ≠ draft.date) :
    draft.givenDate today = .error (.invalidDate draft.date) := by
  rw [givenDate_of_given hgiven, Date.parse_of_forall_ne hno]

theorem Dated.exists_givenDate (h : draft.Dated) (today : Date) : ∃ d, draft.givenDate today = .ok d := by
  rcases h with hnone | ⟨d, hd⟩
  · exact ⟨today, givenDate_of_empty hnone⟩
  · exact ⟨d, givenDate_of_text hd⟩

theorem givenRule_of_empty (h : draft.repeats = "") : draft.givenRule = .ok none :=
  if_pos h

theorem givenRule_of_parse (hgiven : draft.repeats ≠ "") (h : Rule.parse draft.repeats = .ok rule) :
    draft.givenRule = .ok (some rule) := by
  unfold givenRule
  rw [if_neg hgiven, h]

theorem givenRule_of_misruled {e : RuleError} (hgiven : draft.repeats ≠ "") (h : Rule.parse draft.repeats = .error e) :
    draft.givenRule = .error e := by
  unfold givenRule
  rw [if_neg hgiven, h]

theorem Ruled.exists_givenRule (h : draft.Ruled) : ∃ rule, draft.givenRule = .ok rule := by
  by_cases hgiven : draft.repeats = ""
  · exact ⟨none, givenRule_of_empty hgiven⟩
  · obtain ⟨rule, hrule⟩ := h.resolve_left hgiven
    exact ⟨some rule, givenRule_of_parse hgiven hrule⟩

theorem dueDate_of_given {rule : Option Rule} (hdate : draft.givenDate today = .ok d) (hrule : draft.givenRule = .ok rule) :
    draft.dueDate today = firstDue today d rule := by
  unfold dueDate
  rw [hdate, hrule]
  rfl

/-- Of a date that has passed and a rule it is the schedule that decides. -/
theorem dueDate_of_past (hdate : d.text = draft.date) (hgiven : draft.repeats ≠ "")
    (hrule : Rule.parse draft.repeats = .ok rule) (hpast : d < today) :
    draft.dueDate today = Schedule.nextDate { now := today, anchor := d, rule } := by
  rw [dueDate_of_given (givenDate_of_text hdate) (givenRule_of_parse hgiven hrule)]
  exact if_neg (not_le.mpr hpast)

theorem Due.dueDate_eq (h : draft.Due today r) : draft.dueDate today = r := by
  cases h with
  | misdated hgiven hno =>
    unfold dueDate
    rw [givenDate_of_misdated hgiven hno]
    rfl
  | misruled hdated hgiven hno =>
    obtain ⟨d, hd⟩ := hdated.exists_givenDate today
    unfold dueDate
    rw [hd, givenRule_of_misruled hgiven hno]
    rfl
  | undated hnone hruled =>
    obtain ⟨rule, hrule⟩ := hruled.exists_givenRule
    rw [dueDate_of_given (givenDate_of_empty hnone) hrule]
    exact if_pos (le_refl today)
  | ahead hdate hruled hahead =>
    obtain ⟨rule, hrule⟩ := hruled.exists_givenRule
    rw [dueDate_of_given (givenDate_of_text hdate) hrule]
    exact if_pos hahead
  | lapsed hdate hnone hpast =>
    rw [dueDate_of_given (givenDate_of_text hdate) (givenRule_of_empty hnone)]
    exact if_neg (not_le.mpr hpast)
  | moved hdate hgiven hrule hpast hleast =>
    rw [dueDate_of_past hdate hgiven hrule hpast]
    exact (Schedule.nextDate_eq_ok_iff_isLeast (Rule.readable_of_parse hrule)).mpr hleast
  | exhausted hdate hgiven hrule hpast hnever =>
    rw [dueDate_of_past hdate hgiven hrule hpast]
    exact Schedule.nextDate_of_neverPast (Rule.readable_of_parse hrule) hnever

/-- A date that is none or can be read, with a rule that is none or can be read. -/
theorem due_of_dated (hdated : draft.Dated) (hruled : draft.Ruled) : ∃ r, draft.Due today r := by
  rcases hdated with hnone | ⟨d, hdate⟩
  · exact ⟨_, .undated hnone hruled⟩
  · rcases le_or_gt today d with hahead | hpast
    · exact ⟨_, .ahead hdate hruled hahead⟩
    · by_cases hgiven : draft.repeats = ""
      · exact ⟨_, .lapsed hdate hgiven hpast⟩
      · obtain ⟨rule, hrule⟩ := hruled.resolve_left hgiven
        have hr : rule.Readable := Rule.readable_of_parse hrule
        rcases Schedule.nextDate_cases (s := { now := today, anchor := d, rule }) hr with ⟨k, c, -, hk⟩ | ⟨last, -, hlast⟩
        · have hleast := hk.earliest hr
          exact ⟨_, .moved hdate hgiven hrule hpast hleast⟩
        · exact ⟨_, .exhausted hdate hgiven hrule hpast hlast⟩

theorem exists_due (draft : Draft) (today : Date) : ∃ r, draft.Due today r := by
  by_cases hdated : draft.Dated
  · cases hrule : Rule.parse draft.repeats with
    | ok rule => exact due_of_dated hdated (Or.inr ⟨rule, hrule⟩)
    | error e =>
      by_cases hgiven : draft.repeats = ""
      · exact due_of_dated hdated (Or.inl hgiven)
      · exact ⟨_, .misruled hdated hgiven hrule⟩
  · obtain ⟨hgiven, hno⟩ := not_or.mp hdated
    exact ⟨_, .misdated hgiven (not_exists.mp hno)⟩

/-- These are the due dates that drafts get. -/
theorem dueDate_eq_iff : draft.dueDate today = r ↔ draft.Due today r := by
  constructor
  · rintro rfl
    obtain ⟨r, hr⟩ := exists_due draft today
    rw [hr.dueDate_eq]
    exact hr
  · exact Due.dueDate_eq

/-! ### The entry -/

/-- What becomes of drafts today. -/
inductive Settled (draft : Draft) (today : Date) : Except TaskError Entry → Prop
  /-- The title is blank. -/
  | untitled (hblank : Text.trim draft.title = "") : Settled draft today (.error (.invalid "task title is required"))
  /-- The title shows something, and there is no due date. -/
  | refused {e : RuleError} (htitle : Text.trim draft.title ≠ "") (hdue : draft.Due today (.error e)) :
      Settled draft today (.error (.rule e))
  /-- The draft becomes an entry, with all but its date unchanged. -/
  | stored {due : Date} (htitle : Text.trim draft.title ≠ "") (hdue : draft.Due today (.ok due)) :
      Settled draft today
        (.ok { date := due.text, title := draft.title, comment := draft.comment, repeats := draft.repeats })

theorem settle_of_titled (htitle : Text.trim draft.title ≠ "") :
    draft.settle today =
      match draft.dueDate today with
      | .error e => .error (.rule e)
      | .ok due => .ok { date := due.text, title := draft.title, comment := draft.comment, repeats := draft.repeats } :=
  if_neg (mt Text.trim_eq_empty_iff.mpr htitle)

/-- A draft is refused for the first of its checks that fails, and otherwise settles on the date that it is due on;
that date can be read and has not passed. -/
theorem settle_eq_iff (draft : Draft) (today : Date) :
    (∀ r, draft.settle today = r ↔ draft.Settled today r) ∧
      ∀ e, draft.settle today = .ok e → ∃ due, Date.parse e.date = .ok due ∧ today ≤ due := by
  refine ⟨fun r => ⟨?_, fun h => ?_⟩, fun e he => le_of_settle he⟩
  · rintro rfl
    by_cases hblank : Text.trim draft.title = ""
    · have huntitled : draft.settle today = .error (.invalid "task title is required") :=
        if_pos (Text.trim_eq_empty_iff.mp hblank)
      rw [huntitled]
      exact .untitled hblank
    · rw [settle_of_titled hblank]
      cases hdue : draft.dueDate today with
      | error e => exact .refused hblank (dueDate_eq_iff.mp hdue)
      | ok due => exact .stored hblank (dueDate_eq_iff.mp hdue)
  · cases h with
    | untitled hblank => exact if_pos (Text.trim_eq_empty_iff.mp hblank)
    | refused htitle hdue => rw [settle_of_titled htitle, hdue.dueDate_eq]
    | stored htitle hdue => rw [settle_of_titled htitle, hdue.dueDate_eq]

/-- What was to do on the leap day of 2020, and every year. -/
def everyLeapDay : Draft where
  date := "20200229"
  title := " pay "
  repeats := "y every"

/-- On New Year's Day of 2023 it is due on the first of March; without a rule it would be due at once, and with one
that cannot be read it is refused for that, although the date alone would do. -/
theorem settle_eq_iff_everyLeapDay :
    everyLeapDay.Settled Date.newYear
        (.ok { date := "20230301", title := " pay ", comment := "", repeats := "y every" }) ∧
      { everyLeapDay with repeats := "" }.Settled Date.newYear
        (.ok { date := "20230101", title := " pay ", comment := "", repeats := "" }) ∧
      { everyLeapDay with repeats := "m 1" }.Settled Date.newYear (.error (.rule (.unsupportedRule "m 1"))) :=
  ⟨((settle_eq_iff _ _).1 _).mp (by decide +kernel), ((settle_eq_iff _ _).1 _).mp (by decide +kernel),
    ((settle_eq_iff _ _).1 _).mp (by decide +kernel)⟩

end Draft

end Agenda
