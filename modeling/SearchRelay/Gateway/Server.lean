import SearchRelay.Gateway.Response
import SearchRelay.Gateway.RuleBook
import SearchRelay.Query.Wire
import SearchRelay.Search

/-!
# SearchRelay.Gateway.Server

The gateway at work: requests of clients and the answers to them.

1. There are three paths: `POST /search` runs a search, `POST /validate` sends
   its body back, and `GET /health` tells that the gateway is alive.
2. The header `X-Search-Query` holds the term that rules are looked up for.
   Only the first one counts, and only if it is text.
3. After a shutdown a search that would ask the backend is given up; everything
   else goes on.
4. The backend's script goes on from request to request.
-/

namespace SearchRelay

/-- What the gateway works with. -/
structure Gateway where
  service : Search.Service
  rules : Gateway.RuleBook

namespace Gateway

/-- The gateway of valid settings. -/
def ofSettings (s : Settings) : Except Failure Gateway := do
  s.check.mapError Settings.Fault.failure
  let backend ← (Backend.ofSettings s.backend).mapError fun fault => .search fault.error
  let aliases ← s.aliasTable.mapError fun fault => .search fault.error
  return ⟨⟨backend, aliases, s.commonStopwords⟩, ⟨s.rules⟩⟩

/-! ## Requests -/

/-- A request of a client. -/
structure Request where
  method : String := "POST"
  target : String := "/search"
  headers : List (String × List UInt8) := []
  body : List UInt8 := []
  deriving DecidableEq

namespace Request

def path (r : Request) : String :=
  String.ofList (r.target.toList.takeWhile fun c => c ≠ '?' ∧ c ≠ '#')

/-- Whether a byte of a header is text. -/
def isTextByte (b : UInt8) : Bool := (32 ≤ b && b < 127) || b = 9

/-- The header that holds the term of a search, in lower case. -/
def termHeader : String := "x-search-query"

/-- The first header of a name, which is given in lower case. -/
def header? (r : Request) (name : String) : Option (List UInt8) :=
  (r.headers.find? fun header => header.1.toLower = name).map Prod.snd

/-- The term of a search, if there is one. -/
def term? (r : Request) : Option String := do
  let bytes ← r.header? termHeader
  let term := Text.trim (String.ofList (bytes.map fun b => Char.ofNat b.toNat))
  if bytes.all isTextByte ∧ ¬ term.isEmpty then some term else none

end Request

/-! ## Answers -/

/-- The gateway between two requests. -/
structure State where
  gateway : Gateway
  /-- Whether the gateway is shutting down. -/
  canceled : Bool := false
  /-- How many attempts the backend has seen. -/
  attempts : Nat := 0

/-- How a request went. -/
structure Handled where
  result : Except Failure Response
  /-- The requests that have arrived at the backend. -/
  requests : List Backend.Request := []
  /-- How many attempts were made. -/
  attempts : Nat := 0

/-- The answer to a request; without one the connection is closed. -/
def Handled.response? (h : Handled) : Option Response :=
  match h.result with
  | .ok response => some response
  | .error failure => failure.response?

/-- The rules for a search: none without an index or a term. -/
def rulesOf (g : Gateway) (term : Option String) (index : Option String) : List Rule :=
  match index, term with
  | some index, some term => g.rules.rulesFor index term
  | _, _ => []

/-- Runs a search, unless the gateway is shutting down. -/
def search (pauses : Nat → Nat) (script : Backend.Script) (s : State) (term : Option String)
    (queries : List Query) : Handled :=
  match s.canceled, Batch.ofQueries queries with
  | true, .ok _ => { result := .error .canceled }
  | _, _ =>
    let outcome := Search.run s.gateway.service pauses (fun n => script (s.attempts + n))
      (fun index => .ok (s.gateway.rulesOf term index)) queries
    { result := match outcome.result with
        | .ok text => .ok (.ofText 200 text)
        | .error error => .error (.search error)
      requests := outcome.requests
      attempts := outcome.attempts }

/-- Handles a search. -/
def handleSearch (pauses : Nat → Nat) (script : Backend.Script) (s : State) (r : Request) :
    Handled :=
  match Json.decodeBytes Query.decodeRequest r.body with
  | .error e => { result := .error (.search (.validation ("invalid request body: " ++ e.message))) }
  | .ok queries => search pauses script s r.term? queries

/-- The answer that sends a body back. -/
def echo (body : List UInt8) : Response where
  status := 200
  contentType := some "application/x-ndjson"
  contentTypeOptions := some "nosniff"
  body

def alive : Response := .ofText 200 (Json.object [("status", .string "ok")]).compact

def emptyAnswer (status : Nat) : Handled := { result := .ok { status } }

/-- Handles a request that has been read to its end.  A body of more than two mebibytes
does not come so far: it is answered with 413 where bodies are read. -/
def handle (pauses : Nat → Nat) (script : Backend.Script) (s : State) (r : Request) : Handled :=
  match r.path, r.method with
  | "/search", "POST" => handleSearch pauses script s r
  | "/validate", "POST" => { result := .ok (echo r.body) }
  | "/health", "GET" => { result := .ok alive }
  | "/health", "HEAD" => { result := .ok { alive with body := [] } }
  | "/search", _ | "/validate", _ | "/health", _ => emptyAnswer 405
  | _, _ => emptyAnswer 404

/-- The gateway after a request. -/
def State.after (s : State) (h : Handled) : State := { s with attempts := s.attempts + h.attempts }

/-- The gateway after the order to shut down. -/
def State.shutDown (s : State) : State := { s with canceled := true }

end Gateway

end SearchRelay
