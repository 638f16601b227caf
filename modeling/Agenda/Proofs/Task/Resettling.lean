import Agenda.Proofs.Task.Settling

/-!
# Settling again

The entry that a draft settles on can be handed in as a draft again. Before its date has passed it settles on itself,
and after that on what the first draft would settle on (`Draft.settle_again`): the date in between leaves no trace,
because a rule leads on from it to the same dates as from the date before.
-/

namespace Agenda

namespace Draft

variable {draft draft' : Draft} {today today₁ today₂ d due : Date} {rule : Option Rule} {e : Entry}

/-! ### The due date on a later day -/

/-- A date that has been due serves as well as the date that it was found from. -/
theorem firstDue_of_passed (hr : ∀ r, rule = some r → r.Readable) (hle : today₁ ≤ today₂)
    (h : firstDue today₁ d rule = .ok due) (hpast : due < today₂) :
    firstDue today₂ due rule = firstDue today₂ d rule := by
  unfold firstDue at h
  split at h
  · cases h
    rfl
  · rename_i hlapsed
    have hd : ¬today₂ ≤ d := not_le.mpr (lt_of_lt_of_le (not_le.mp hlapsed) hle)
    unfold firstDue
    rw [if_neg hd, if_neg (not_le.mpr hpast)]
    cases rule with
    | none => rfl
    | some r => exact (Schedule.nextDate_of_passed (hr r rfl) h (le_of_lt hpast)).symm

/-- The date that a draft was due on takes the place of the date it gives, once it has passed. -/
theorem dueDate_of_passed (hgiven : draft.date ≠ "") (hle : today₁ ≤ today₂) (h : draft.dueDate today₁ = .ok due)
    (hpast : due < today₂) (hdate : draft'.date = due.text) (hrepeats : draft'.repeats = draft.repeats) :
    draft'.dueDate today₂ = draft.dueDate today₂ := by
  obtain ⟨d, rule, hd, hrule, hfirst⟩ := dueDate_eq_ok h
  rw [givenDate_of_given hgiven] at hd
  have hd₂ : draft.givenDate today₂ = .ok d := (givenDate_of_given hgiven today₂).trans hd
  have hrule' : draft'.givenRule = .ok rule := by
    unfold givenRule
    rw [hrepeats]
    exact hrule
  rw [dueDate_of_given (givenDate_of_text hdate.symm) hrule', dueDate_of_given hd₂ hrule]
  exact firstDue_of_passed (readable_of_givenRule hrule) hle hfirst hpast

/-! ### The entry as a draft -/

theorem settle_congr (htitle : draft'.title = draft.title) (hcomment : draft'.comment = draft.comment)
    (hrepeats : draft'.repeats = draft.repeats) (hdue : draft'.dueDate today = draft.dueDate today) :
    draft'.settle today = draft.settle today := by
  unfold settle
  rw [htitle, hcomment, hrepeats, hdue]

/-- What a draft with a date settles on settles on itself again, and once its date has passed it settles on what the
draft itself would, with the same refusals. As long as its date has not passed, it stays as it is. -/
theorem settle_again (hgiven : draft.date ≠ "") (hle : today₁ ≤ today₂) (h : draft.settle today₁ = .ok e) :
    e.draft.settle today₁ = .ok e ∧
      ∃ due, Date.parse e.date = .ok due ∧ (due < today₂ → e.draft.settle today₂ = draft.settle today₂) ∧
        (today₂ ≤ due → e.draft.settle today₂ = .ok e) := by
  have hsound : e.Sound := sound_of_settle h
  obtain ⟨due, hdate, hahead⟩ := le_of_settle h
  refine ⟨hsound.settle_draft hdate hahead, due, hdate, fun hpast => ?_, fun hstill => hsound.settle_draft hdate hstill⟩
  obtain ⟨-, due', hdue, rfl⟩ := settle_eq_ok h
  obtain rfl : due' = due := Except.ok.inj ((Date.parse_text due').symm.trans hdate)
  exact settle_congr rfl rfl rfl (dueDate_of_passed hgiven hle hdue hpast rfl rfl)

/-- The day after the first of March of 2023. -/
def secondOfMarch : Date :=
  { Schedule.firstOfMarch with day := 2, day_pos := by decide, day_le := by decide }

/-- What `everyLeapDay` settles on on New Year's Day of 2023. -/
def inMarch : Entry where
  date := "20230301"
  title := " pay "
  comment := ""
  repeats := "y every"

/-- After the first of March both the draft and its entry settle on the next year; on that day itself only the draft
does. -/
theorem settle_again_inMarch :
    everyLeapDay.date ≠ "" ∧ Date.newYear ≤ secondOfMarch ∧ everyLeapDay.settle Date.newYear = .ok inMarch ∧
      inMarch.draft.settle Date.newYear = .ok inMarch ∧
      everyLeapDay.settle secondOfMarch = .ok { inMarch with date := "20240301" } ∧
      inMarch.draft.settle secondOfMarch = everyLeapDay.settle secondOfMarch ∧
      everyLeapDay.settle Schedule.firstOfMarch = .ok { inMarch with date := "20240301" } ∧
      inMarch.draft.settle Schedule.firstOfMarch = .ok inMarch := by
  have hgiven : everyLeapDay.date ≠ "" := by decide
  have hle : Date.newYear ≤ secondOfMarch := by decide
  have hsettle : everyLeapDay.settle Date.newYear = .ok inMarch := by decide +kernel
  have hdate : Date.parse inMarch.date = .ok Schedule.firstOfMarch := by decide +kernel
  obtain ⟨hself, due, hdue, hpast, -⟩ := settle_again hgiven hle hsettle
  have hmarch : Date.newYear ≤ Schedule.firstOfMarch := by decide
  obtain ⟨-, due', hdue', -, hstill⟩ := settle_again hgiven hmarch hsettle
  obtain rfl : due = Schedule.firstOfMarch := Except.ok.inj (hdue.symm.trans hdate)
  obtain rfl : due' = Schedule.firstOfMarch := Except.ok.inj (hdue'.symm.trans hdate)
  exact ⟨hgiven, hle, hsettle, hself, by decide +kernel, hpast (by decide), by decide +kernel, hstill (le_refl _)⟩

end Draft

end Agenda
