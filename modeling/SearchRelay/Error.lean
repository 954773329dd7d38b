/-!
# SearchRelay.Error

Why a search fails.  Each stage has causes of its own; an `Error` is what a
client is told: the kind of failure, a status or a body of the backend where
there is one, and a text.

A sum that does not fit its type is an error of another sort: it breaks down
what runs the search, so that nobody is told.
-/

namespace SearchRelay

/-- A failed search. -/
inductive Error where
  /-- The request is not valid; the backend was not asked. -/
  | validation (reason : String)
  /-- The backend could not be reached, or went on failing, until no attempt
  was left.  The status is that of the last answer, if there was one. -/
  | upstreamUnavailable (status : Option Nat) (reason : String)
  /-- The backend refused the batch.  Its body goes to the client as it is. -/
  | backendRejected (status : Nat) (body : String)
  /-- The backend answered, but not with a JSON object. -/
  | backendProtocol (reason : String)
  /-- The answer of the backend does not line up with the batch. -/
  | partialResponse (reason : String)
  /-- A rule found a result of another shape. -/
  | structuralMismatch (reason : String)
  /-- The time for the whole batch ran out. -/
  | timeout (reason : String)
  /-- The settings are not valid. -/
  | config (reason : String)
  /-- A sum did not fit its type, and the search broke down. -/
  | overflow
  deriving DecidableEq

/-- The wording of a failed search. -/
def Error.message : Error → String
  | .validation reason => "validation error: " ++ reason
  | .upstreamUnavailable _ reason => "upstream unavailable: " ++ reason
  | .backendRejected status _ => "backend rejected request with status " ++ toString status
  | .backendProtocol reason => "backend protocol error: " ++ reason
  | .partialResponse reason => "partial response: " ++ reason
  | .structuralMismatch reason => "structural mismatch: " ++ reason
  | .timeout reason => "backend timed out: " ++ reason
  | .config reason => "config error: " ++ reason
  | .overflow => "attempt to add with overflow"

end SearchRelay
