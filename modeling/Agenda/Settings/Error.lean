/-!
# Why a server cannot be set up
-/

namespace Agenda

/-- What is wrong with the settings, or with how the server was put together. -/
inductive SetupError where
  /-- A setting would leave the server unable to work. -/
  | unusable (why : String)
  /-- A part of the server was never put in. -/
  | missingPart (what : String)
deriving DecidableEq

/-- The wording of each cause. -/
def SetupError.message : SetupError → String
  | unusable why => "Configuration error: " ++ why
  | missingPart what => "Invariant violation: " ++ what

end Agenda
