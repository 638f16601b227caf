import Agenda.Calendar.DayNumber
import Agenda.Repeat.Error
import Agenda.Text.Split

/-!
# Repeat rules

A rule is `d n`, every `n` days with `n` from 1 to 400, or `y`, every year; a word after `y` is ignored. Words are
separated by single spaces, so a doubled space makes an empty word.
-/

namespace Agenda

/-- How a task repeats. -/
inductive Rule where
  /-- Every so many days. -/
  | daily (step : Nat)
  /-- On the same day of every year. -/
  | yearly
deriving DecidableEq

namespace Rule

/-- The longest step of a daily rule that a text may name. -/
def longestStep : Nat := 400

/-- The rule as a text. -/
def text : Rule → String
  | daily step => String.ofList (['d', ' '] ++ Number.natText step)
  | yearly => "y"

/-- The daily rule with the step that a word names. -/
def parseStep (text : String) (word : List Char) : Except RuleError Rule :=
  match Number.readWord word with
  | none => .error (.malformedRule text)
  | some step => if 1 ≤ step && step ≤ longestStep then .ok (daily step.toNat) else .error (.stepOutOfRange step)

/-- The rule that a text names. -/
def parse (text : String) : Except RuleError Rule :=
  if text = "" then .error .missingRule
  else
    match Text.pieces ' ' text.toList with
    | [['d']] => .error (.malformedRule text)
    | [['d'], word] => parseStep text word
    | [['y']] | [['y'], _] => .ok yearly
    | [_] | [_, _] => .error (.unsupportedRule text)
    | _ => .error (.malformedRule text)

/-- One step of the rule from a date, unless it leads past the year 9999. -/
def advance (rule : Rule) (date : Date) : Option Date :=
  match rule with
  | daily step => date.addDays step
  | yearly => date.nextYear

end Rule

end Agenda
