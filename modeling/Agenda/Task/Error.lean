import Agenda.Repeat.Error
import Agenda.Store.Error

/-!
# Why a request about tasks is refused
-/

namespace Agenda

/-- Why an operation on tasks fails. -/
inductive TaskError where
  /-- The store gives no answer. -/
  | store (cause : StoreError)
  /-- A date, a rule or a schedule is refused. -/
  | rule (cause : RuleError)
  /-- What was asked for does not exist. -/
  | notFound (what : String)
  /-- The fields of a draft do not make a task. -/
  | invalid (why : String)
  /-- A transaction could not be begun or ended. -/
  | transaction (cause : QueryError)
deriving DecidableEq

/-- The wording of each cause. -/
def TaskError.message : TaskError → String
  | store cause => cause.message
  | rule cause => cause.message
  | notFound what => "Not found: " ++ what
  | invalid why => "Validation error: " ++ why
  | transaction cause => "Diesel error: " ++ cause.message

/-- There is no task of that number. -/
def TaskError.noTask (id : Int) : TaskError :=
  .notFound ("task " ++ String.ofList (Number.intText id))

end Agenda
