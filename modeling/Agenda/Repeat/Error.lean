import Agenda.Calendar.Date
import Agenda.Text.Quoted

/-!
# What can be wrong with a date or a repeat rule

Each error names its cause and carries the text it complains about.
-/

namespace Agenda

/-- Why a date, a repeat rule or a schedule is refused. -/
inductive RuleError where
  /-- No rule was given. -/
  | missingRule
  /-- The rule has a wrong number of words, or its step is no number. -/
  | malformedRule (text : String)
  /-- The step of a daily rule is outside 1 to 400. -/
  | stepOutOfRange (step : Int)
  /-- The first word of the rule is unknown. -/
  | unsupportedRule (text : String)
  /-- The text is not eight digits that name a day. -/
  | invalidDate (text : String)
  /-- The steps of a rule passed the date they had to overtake only in theory. -/
  | notAfterNow (now candidate : String)
  /-- The next date after this one has a year above 9999. -/
  | dateOutOfRange (last : String)
deriving DecidableEq

/-- The wording of each cause. -/
def RuleError.message : RuleError → String
  | .missingRule => "repeat rule is not specified"
  | .malformedRule text => "malformed repeat rule: " ++ Text.quoted text
  | .stepOutOfRange step => "day step must be between 1 and 400, got " ++ String.ofList (Number.intText step)
  | .unsupportedRule text => "unsupported repeat rule: " ++ Text.quoted text
  | .invalidDate text => "invalid date " ++ Text.quoted text ++ ", expected YYYYMMDD"
  | .notAfterNow now candidate => "next date " ++ candidate ++ " is not after " ++ now
  | .dateOutOfRange last => "next date after " ++ last ++ " is beyond year 9999"

/-- The date that a text names; the error carries the text. -/
def Date.parse (text : String) : Except RuleError Date :=
  match Date.ofText? text with
  | some date => .ok date
  | none => .error (.invalidDate text)

/-- The date of a day; the error carries the day if its year has not four digits. -/
def Date.ofDay (day : Day) : Except RuleError Date :=
  match day.toDate? with
  | some date => .ok date
  | none => .error (.dateOutOfRange day.text)

end Agenda
