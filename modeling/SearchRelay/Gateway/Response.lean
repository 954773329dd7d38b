import SearchRelay.Gateway.Failure
import SearchRelay.Http.Status
import SearchRelay.Json.Printer

/-!
# SearchRelay.Gateway.Response

What the gateway answers.

1. A failure is answered with a status and a JSON text that names the status
   and the wording of the failure.
2. A refusal of the backend is passed on with its status and its body as they
   are.  A request that was given up has an empty answer.
3. A search that broke down is not answered.
-/

namespace SearchRelay.Gateway

open Json

/-- An answer of the gateway. -/
structure Response where
  status : Nat
  contentType : Option String := none
  contentTypeOptions : Option String := none
  body : List UInt8 := []
  deriving DecidableEq

def jsonType : String := "application/json"

/-- An answer with a JSON text. -/
def Response.ofText (status : Nat) (text : String) : Response where
  status
  contentType := some jsonType
  body := text.toUTF8.toList

namespace Failure

/-- The status that was passed on, if it may be sent. -/
def passedOn (status default : Nat) : Nat := if Http.isStatus status then status else default

/-- The status that a failed search is answered with, if it is answered. -/
def searchStatus? : Error → Option Nat
  | .validation _ => some 400
  | .upstreamUnavailable status _ => some (status.elim 502 (passedOn · 502))
  | .backendRejected status _ => some (passedOn status 400)
  | .timeout _ => some 504
  | .backendProtocol _ | .partialResponse _ | .structuralMismatch _ | .config _ => some 500
  | .overflow => none

/-- The status that a failure is answered with, if it is answered. -/
def status? : Failure → Option Nat
  | .search cause => searchStatus? cause
  | .config _ | .file _ => some 500
  | .canceled => some 503

/-- The text that tells a client of a failure. -/
def text (failure : Failure) (status : Nat) : String :=
  (Json.object [("error", .object [
    ("code", .ofNat status),
    ("message", .string failure.message),
    ("status", .string ((Http.reason? status).getD "Unknown"))])]).compact

/-- The answer that tells a client of a failure under a status. -/
def responseUnder (failure : Failure) (status : Nat) : Response :=
  match failure with
  | .canceled => { status }
  | .search (.backendRejected _ body) => .ofText status body
  | _ => .ofText status (failure.text status)

/-- The answer to a request that failed, if there is one. -/
def response? (failure : Failure) : Option Response := failure.status?.map failure.responseUnder

end Failure

end SearchRelay.Gateway
