import Agenda.Http.Message
import Agenda.Settings.Error
import Agenda.Task.Error

/-!
# Errors as responses

Every cause has a status. A client learns what it did wrong, but of a failure of the server only that there was one.
-/

namespace Agenda.Api

/-- Why a request fails. -/
inductive Failure where
  | task (cause : TaskError)
  | store (cause : StoreError)
  | rule (cause : RuleError)
  | setup (cause : SetupError)
  | badRequest (why : String)
deriving DecidableEq

namespace Failure

/-- The wording of each cause. -/
def message : Failure → String
  | task cause => cause.message
  | store cause => cause.message
  | rule cause => cause.message
  | setup cause => cause.message
  | badRequest why => why

/-- The status of each cause. -/
def status : Failure → Nat
  | badRequest _ | rule _ | task (.rule _) | task (.invalid _) => 400
  | task (.notFound _) => 404
  | store .noConnection | task (.store .noConnection) => 503
  | task (.store (.query _)) | task (.transaction _) | store (.query _) | setup _ => 500

/-- What the client is told. -/
def clientMessage (f : Failure) : String :=
  if f.status < 500 then f.message else if f.status = 503 then "Database unavailable" else "Internal server error"

/-- The response that tells of the failure. -/
def response (f : Failure) : Http.Response :=
  Http.Response.json f.status (.ofMembers [("error", .ofString f.clientMessage)])

end Failure

end Agenda.Api
