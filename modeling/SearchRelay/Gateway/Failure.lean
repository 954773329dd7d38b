import SearchRelay.Error

/-!
# SearchRelay.Gateway.Failure

Why the gateway has no answer, or does not start.
-/

namespace SearchRelay.Gateway

/-- A failure of the gateway. -/
inductive Failure where
  /-- A search failed. -/
  | search (cause : Error)
  /-- The settings of the gateway are not valid. -/
  | config (reason : String)
  /-- A file could not be read or written. -/
  | file (reason : String)
  /-- The gateway is shutting down. -/
  | canceled
  deriving DecidableEq

/-- The wording of a failure. -/
def Failure.message : Failure → String
  | .search cause => cause.message
  | .config reason => "config error: " ++ reason
  | .file reason => "I/O error: " ++ reason
  | .canceled => "request canceled"

end SearchRelay.Gateway
