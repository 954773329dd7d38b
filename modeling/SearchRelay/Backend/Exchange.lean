import SearchRelay.Backend.Settings
import SearchRelay.Batch
import SearchRelay.Http.Status
import SearchRelay.Text.Utf8

/-!
# SearchRelay.Backend.Exchange

A batch and what the backend makes of it.

1. An attempt ends with a `Reply`.  A reply is transient if another attempt may
   help: there was no answer, or the backend failed, or an answer that is no
   refusal could not be read to its end.  Any other reply is final.
2. The first final reply ends the exchange.  If there is none, the exchange
   ends when no retry is left, with the status of the last reply.
3. An attempt without an answer takes the time of an attempt, a pause takes its
   own time, and everything else takes none.  An exchange that would go on
   beyond the time for all of it ends there.
4. An exchange ends before its first attempt if its attempts cannot be counted, or
   if its address cannot be sent.
-/

namespace SearchRelay

namespace Backend

open Json Http

/-- What is sent to the backend, except for the header that a name and a password in
the address go into. -/
structure Request where
  method : String
  target : List Char
  contentType : String
  userAgent : String
  body : String
  deriving DecidableEq

/-- The request for a batch at an address. -/
def Request.ofBatch (address : Url) (batch : Batch) : Request where
  method := "POST"
  target := address.target
  contentType := "application/x-ndjson"
  userAgent := "searchgate/0.1.0"
  body := batch.payload

/-! ## Replies -/

/-- How an attempt ends.  The body of an answer is what it holds when its content
encoding is undone; an answer whose encoding cannot be undone counts as one that breaks
off.  The status is that of the answer itself; interim ones before it are passed over. -/
inductive Reply where
  /-- A complete answer. -/
  | complete (status : Nat) (body : List UInt8)
  /-- An answer that breaks off before the end of its body. -/
  | brokenOff (status : Nat)
  /-- The connection is closed without an answer. -/
  | dropped
  /-- Nothing comes until the time of the attempt is over. -/
  | silent
  /-- Nothing listens. -/
  | refused
  deriving DecidableEq

/-- What the backend does to one attempt after another. -/
abbrev Script := Nat → Reply

/-- The script of a list of replies, the last of which repeats for ever; if
there are none, nothing listens. -/
def Script.ofReplies (replies : List Reply) : Script := fun n =>
  (replies[n]?).getD (replies.getLast?.getD .refused)

/-- Whether a reply shows that the request has arrived. -/
def Reply.arrived : Reply → Bool
  | .refused => false
  | _ => true

/-- The time that an attempt takes, in milliseconds. -/
def Reply.duration (s : Settings) : Reply → Nat
  | .silent => s.timeout * 1000
  | _ => 0

/-- What a reply means. -/
inductive Verdict where
  /-- The exchange is over. -/
  | final (result : Except Error Fields)
  /-- Another attempt may help. -/
  | transient (status : Option Nat) (reason : String)

/-- The object that the body of a success holds. -/
def envelopeOf (body : List UInt8) : Except Error Fields :=
  match parseBytes? body with
  | some (.object fields) => .ok fields
  | some _ => .error (.backendProtocol "backend response is not a JSON object")
  | none => .error (.backendProtocol "backend response is not valid JSON: malformed text")

/-- What an answer other than a failure of the backend means. -/
def verdictOf (status : Nat) (body : List UInt8) : Except Error Fields :=
  if isClientError status then .error (.backendRejected status (Text.Utf8.textOf body))
  else if isSuccess status then envelopeOf (if hasNoBody status then [] else body)
  else .error (.backendProtocol ("unexpected backend status " ++ statusText status))

/-- What a reply means.  An answer under a status that allows no body is over with its
header, so it does not break off. -/
def Reply.verdict : Reply → Verdict
  | .complete status body =>
    if isServerError status then .transient status ("backend returned " ++ statusText status)
    else .final (verdictOf status body)
  | .brokenOff status =>
    if isServerError status then .transient status ("backend returned " ++ statusText status)
    else if isClientError status then .final (.error (.backendRejected status ""))
    else if hasNoBody status then .final (verdictOf status [])
    else .transient status "backend response read failed: answer broken off"
  | .dropped => .transient none "backend request failed: connection closed"
  | .silent => .transient none "backend request failed: no answer in time"
  | .refused => .transient none "backend request failed: connection refused"

/-! ## Exchanges -/

/-- How an exchange went. -/
structure Exchange where
  result : Except Error Fields
  /-- The replies, one for each attempt. -/
  replies : List Reply
  /-- The time it took, in milliseconds. -/
  elapsed : Nat

namespace Exchange

/-- How many attempts an exchange has at most: one, and all retries. -/
def budget (s : Settings) : Nat := s.maxRetries.toNat + 1

/-- The attempts can be counted: 32 bits are enough for their number. -/
def Countable (s : Settings) : Prop := budget s < UInt32.size

instance (s : Settings) : Decidable (Countable s) :=
  inferInstanceAs (Decidable (budget s < UInt32.size))

/-- The exchange that ends before its first attempt. -/
def withoutAttempt (error : Error) : Exchange := ⟨.error error, [], 0⟩

/-- The exchange whose time ran out. -/
def expired (s : Settings) (replies : List Reply) : Exchange where
  result := .error (.timeout ("no backend reply within " ++ toString s.totalTimeout ++ "s"))
  replies
  elapsed := s.totalTimeout * 1000

/-- The error of an exchange in which no attempt is left. -/
def exhausted (status : Option Nat) (reason : String) (attempts : Nat) : Error :=
  .upstreamUnavailable status (reason ++ " after " ++ toString attempts ++ " attempts")

/-- Goes on with an exchange in which `done` attempts were made, the last reply
first, and `left` retries are left. -/
def continueFrom (s : Settings) (pauses : Nat → Nat) (script : Script) :
    (left : Nat) → (done : List Reply) → (elapsed : Nat) → Exchange
  | left, done, elapsed =>
    let reply := script done.length
    let replies := reply :: done
    let now := elapsed + reply.duration s
    if s.totalTimeout * 1000 < now then expired s replies.reverse
    else match reply.verdict with
      | .final result => ⟨result, replies.reverse, now⟩
      | .transient status reason => match left with
        | 0 => ⟨.error (exhausted status reason replies.length), replies.reverse, now⟩
        | left + 1 =>
          let later := now + pauses done.length
          if s.totalTimeout * 1000 < later then expired s replies.reverse
          else continueFrom s pauses script left replies later

/-- The exchange under given settings.  `pauses` are the pauses between the
attempts. -/
def run (s : Settings) (pauses : Nat → Nat) (script : Script) : Exchange :=
  continueFrom s pauses script s.maxRetries.toNat [] 0

end Exchange

end Backend

/-! ## Backends -/

/-- A backend: settings that were checked, and the base address in them. -/
structure Backend where
  settings : Backend.Settings
  base : Url

namespace Backend

def ofSettings (s : Settings) : Except Settings.Fault Backend :=
  s.check.map fun base => ⟨s, base⟩

/-- The address for a batch that asks the given indices. -/
def address (b : Backend) (indices : List String) : String :=
  String.ofList (Settings.address b.base indices)

/-- The request for a batch, if its address can be sent. -/
def request? (b : Backend) (batch : Batch) : Option Request :=
  match Url.parse (b.address batch.indices) with
  | .ok (some url) => if url.isSendable then some (Request.ofBatch url batch) else none
  | _ => none

/-- The error of an exchange whose address cannot be sent. -/
def unsendable : Error := .upstreamUnavailable none "backend request failed: invalid address"

/-- The exchange for a batch.  The number of attempts is a sum of 32 bits, and an
exchange for which it does not fit breaks down.  (A build that does not check its sums
would go on with the number zero, and so with one attempt.) -/
def exchange (b : Backend) (pauses : Nat → Nat) (script : Script) (batch : Batch) : Exchange :=
  if Exchange.Countable b.settings then
    match b.request? batch with
    | some _ => Exchange.run b.settings pauses script
    | none => .withoutAttempt unsendable
  else .withoutAttempt .overflow

def received (b : Backend) (batch : Batch) (e : Exchange) : List Request :=
  (e.replies.filter Reply.arrived).filterMap fun _ => b.request? batch

end Backend

end SearchRelay
