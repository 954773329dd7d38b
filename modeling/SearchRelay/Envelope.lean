import SearchRelay.Batch
import SearchRelay.Suggestion.Gather

/-!
# SearchRelay.Envelope

The envelope of a search: the answers of the backend to a batch, each under
the id of its query.

1. The backend answers in the order of the batch, so answers and queries are
   paired by their place.
2. The answer to a suggestion query has its hits replaced by suggestions,
   unless the backend failed at this query only; all other answers stay as
   they are.
3. An answer that does not line up with the batch is a fault, that of the
   first query it concerns.
-/

namespace SearchRelay.Envelope

open Json

/-- Why an answer of the backend does not line up with the batch. -/
inductive Fault where
  | replyNotObject
  | noResponses
  | responsesNotArray
  | responseCount (expected found : Nat)
  | responseNotObject (id : String)
  | noHits (id : String)
  | noHitList (id : String)
  | undecodableHit (id : String) (cause : DecodeError)
  deriving DecidableEq

/-- The wording of a fault. -/
def Fault.reason : Fault → String
  | .replyNotObject => "backend reply is not an object"
  | .noResponses => "missing `responses`"
  | .responsesNotArray => "`responses` is not an array"
  | .responseCount expected found =>
    "expected " ++ toString expected ++ " responses, got " ++ toString found
  | .responseNotObject id => "response for `" ++ id ++ "` is not an object"
  | .noHits id => "response for `" ++ id ++ "` has no `hits`"
  | .noHitList id => "response for `" ++ id ++ "` has no `hits.hits` array"
  | .undecodableHit id cause => "undecodable hit for `" ++ id ++ "`: " ++ cause.message

def Fault.error (fault : Fault) : Error := .partialResponse fault.reason

def fail {α : Type} (fault : Fault) : Except Error α := .error fault.error

/-! ## One response -/

/-- The suggestions of a query. -/
def suggestionsFor (common : Stopwords) (q : Query) (raw : List Json) :
    Except Error (List Suggestion) :=
  match q.suggestionOptions with
  | .error fault => .error fault.error
  | .ok none => .ok []
  | .ok (some options) => match raw.mapM (decodeAs Hit.decode) with
    | .error cause => fail (.undecodableHit q.id cause)
    | .ok hits => .ok (Suggestion.suggest options common hits)

/-- Whether the backend failed at one query only. -/
def isFailure (response : Fields) : Bool := response.has "error" && !response.has "hits"

/-- The response to a suggestion query with its hits replaced. -/
def suggestionResult (common : Stopwords) (q : Query) (response : Fields) :
    Except Error Fields :=
  if isFailure response then .ok response
  else match response.find? "hits" with
    | some (.object hits) => match Fields.find? hits "hits" with
      | some (.array raw) => do
        let suggestions ← suggestionsFor common q raw
        let list := Json.array (suggestions.map Suggestion.toJson)
        return response.insert "hits" (.object (Fields.insert "hits" list hits))
      | _ => fail (.noHitList q.id)
    | _ => fail (.noHits q.id)

/-- The entry of a query in the envelope. -/
def entry (common : Stopwords) (q : Query) : Json → Except Error Json
  | .object response =>
    if q.kind = .suggestion then (suggestionResult common q response).map .object
    else .ok (.object response)
  | _ => fail (.responseNotObject q.id)

/-! ## The envelope -/

/-- Puts the entries of queries into an envelope. -/
def addEntries (common : Stopwords) (out : Fields) :
    List (Query × Json) → Except Error Fields
  | [] => .ok out
  | (q, response) :: rest => do
    addEntries common (out.insert q.id (← entry common q response)) rest

/-- What an envelope holds besides the entries of queries. -/
def frame (reply : Fields) : Fields :=
  let settings : Fields := [("took", (reply.find? "took").getD .null)]
  let out : Fields := [("settings", .object settings)]
  match reply.find? "error" with
  | some error => out.insert "error" error
  | none => out

/-- The responses of a reply. -/
def responses (reply : Fields) : Except Error (List Json) :=
  match reply.find? "responses" with
  | some (.array items) => .ok items
  | some _ => fail .responsesNotArray
  | none => fail .noResponses

/-- The envelope of a reply of the backend to a batch. -/
def ofReply (common : Stopwords) (batch : Batch) : Json → Except Error Fields
  | .object reply => do
    let items ← responses reply
    if items.length ≠ batch.queries.length then
      fail (.responseCount batch.queries.length items.length)
    addEntries common (frame reply) (batch.queries.zip items)
  | _ => fail .replyNotObject

end SearchRelay.Envelope
