import Agenda.Repeat.NextDate
import Agenda.Task.Error
import Agenda.Task.Task
import Agenda.Text.Blank

/-!
# From a draft to an entry

A draft needs a title, a date that is none or eight digits, and a rule that is none or readable. A date that has
passed moves to today, or to the rule's next date after today.
-/

namespace Agenda

namespace Draft

/-- The date a draft gives; today if it gives none. -/
def givenDate (draft : Draft) (today : Date) : Except RuleError Date :=
  if draft.date = "" then .ok today else Date.parse draft.date

/-- The rule a draft gives, if it gives one. -/
def givenRule (draft : Draft) : Except RuleError (Option Rule) :=
  if draft.repeats = "" then .ok none
  else
    match Rule.parse draft.repeats with
    | .ok rule => .ok (some rule)
    | .error e => .error e

/-- The first due date: a date that has not passed stays. -/
def firstDue (today date : Date) (rule : Option Rule) : Except RuleError Date :=
  if today ≤ date then .ok date
  else
    match rule with
    | none => .ok today
    | some rule => Schedule.nextDate { now := today, anchor := date, rule }

/-- The due date of a draft. A rule is read even where the date needs none. -/
def dueDate (draft : Draft) (today : Date) : Except RuleError Date := do
  let date ← draft.givenDate today
  let rule ← draft.givenRule
  firstDue today date rule

/-- The entry that a draft makes today. -/
def settle (draft : Draft) (today : Date) : Except TaskError Entry :=
  if Text.isBlankText draft.title then .error (.invalid "task title is required")
  else
    match draft.dueDate today with
    | .error e => .error (.rule e)
    | .ok date =>
      .ok { date := date.text, title := draft.title, comment := draft.comment, repeats := draft.repeats }

end Draft

end Agenda
