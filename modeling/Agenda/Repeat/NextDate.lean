import Agenda.Repeat.Rule

/-!
# The next date of a repeat rule

The dates of a rule are the anchor moved by one step, two steps and so on. The next date after `now` is the first
of them that lies after `now`; the anchor itself never counts.
-/

namespace Agenda

/-- A question for the next date: the date it must come after, the date the steps start from, and the rule. -/
structure Schedule where
  now : Date
  anchor : Date
  rule : Rule
deriving DecidableEq

namespace Schedule

/-- Steps on from a date until one lies after `now`. A rule whose step leads nowhere never gets there. -/
def overtake (now : Date) (rule : Rule) (date : Date) : Except RuleError Date :=
  if now < date then .ok date
  else
    match rule.advance date with
    | none => .error (.dateOutOfRange date.text)
    | some next =>
      if date < next then overtake now rule next else .error (.notAfterNow now.text next.text)
termination_by 99991231 - date.number
decreasing_by
  rename_i h
  have hn : date.number < next.number := h
  have := next.number_le
  omega

/-- The first date after `now` that one or more steps from the anchor lead to. -/
def nextDate (s : Schedule) : Except RuleError Date :=
  match s.rule.advance s.anchor with
  | none => .error (.dateOutOfRange s.anchor.text)
  | some first => overtake s.now s.rule first

/-- The schedule that two texts name; the anchor is read first. -/
def parse (now : Date) (anchor rule : String) : Except RuleError Schedule := do
  let anchor ← Date.parse anchor
  let rule ← Rule.parse rule
  return { now, anchor, rule }

end Schedule

/-- The text of the next date after `now` of a rule, with anchor and rule given as texts. -/
def nextDateText (now : Date) (anchor rule : String) : Except RuleError String := do
  let schedule ← Schedule.parse now anchor rule
  return (← schedule.nextDate).text

end Agenda
