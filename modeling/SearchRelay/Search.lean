import SearchRelay.Alias
import SearchRelay.Backend.Exchange
import SearchRelay.Envelope
import SearchRelay.Rule

/-!
# SearchRelay.Search

One search from its queries to the text that the client is sent.

1. The queries are checked first; a faulty list is refused before the backend
   or the rules are asked.
2. The rules are those for the first index of the batch.  If there are none to
   be had, the exchange with the backend is given up.  An exchange that ends before
   its first attempt does not wait for them.
3. The reply becomes an envelope (`Envelope.ofReply`).  In its entries, not in
   its keys, the names of indices are replaced (`Alias.translate`); then the
   rules are applied to the entries of plain searches in the order of the
   queries.
-/

namespace SearchRelay.Search

open Json

/-! ## From the reply to the envelope -/

/-- An entry of an envelope with the names of indices replaced. -/
def translateEntry (subs : List (Alias.Substitution UInt8)) (entry : String × Json) :
    Except Error (String × Json) :=
  match parseBytes? (Alias.translate subs (Alias.utf8 entry.2.compact)) with
  | some value => .ok (entry.1, value)
  | none =>
    .error (.structuralMismatch ("translated `" ++ entry.1 ++ "` is not JSON: malformed text"))

/-- An envelope with the names of indices replaced in its entries. -/
def translateEntries (subs : List (Alias.Substitution UInt8)) (envelope : Fields) :
    Except Error Fields :=
  if subs.isEmpty then .ok envelope else envelope.mapM (translateEntry subs)

/-- Applies rules to the entry of a query, if it is a plain search. -/
def applyTo (rules : List Rule) (envelope : Fields) (q : Query) : Except Error Fields :=
  match q.kind, envelope.find? q.id with
  | .search, some result => match Rule.applyAll rules result with
    | (changed, none) => .ok (envelope.insert q.id changed)
    | (_, some fault) => .error fault.error
  | _, _ => .ok envelope

def applyRules (rules : List Rule) (queries : List Query) (envelope : Fields) :
    Except Error Fields :=
  if rules.isEmpty then .ok envelope else queries.foldlM (applyTo rules) envelope

/-- The envelope of a reply, as the client is sent it. -/
def envelopeOf (common : Stopwords) (aliases : Alias.Table) (rules : List Rule) (batch : Batch)
    (reply : Fields) : Except Error Fields := do
  let envelope ← Envelope.ofReply common batch (.object reply)
  let translated ← translateEntries (Alias.plan batch.indices aliases) envelope
  applyRules rules batch.queries translated

/-! ## The whole search -/

/-- What all searches have in common. -/
structure Service where
  backend : Backend
  aliases : Alias.Table
  /-- The stopwords of queries that bring none. -/
  common : Stopwords

/-- How a search went. -/
structure Outcome where
  /-- The text for the client, or why there is none. -/
  result : Except Error String
  /-- The requests that have arrived at the backend. -/
  requests : List Backend.Request := []
  /-- How many attempts were made. -/
  attempts : Nat := 0
  /-- The index that rules were asked for; nothing if they were not asked
  for. -/
  rulesFor : Option (Option String) := none

/-- Runs a search.  `rules` are the rules for an index. -/
def run (service : Service) (pauses : Nat → Nat) (script : Backend.Script)
    (rules : Option String → Except Error (List Rule)) (queries : List Query) : Outcome :=
  match Batch.ofQueries queries with
  | .error fault => { result := .error fault.error }
  | .ok batch =>
    let index := batch.indices.head?
    let exchange := service.backend.exchange pauses script batch
    match if exchange.replies.isEmpty then .ok [] else rules index with
    | .error error => { result := .error error, rulesFor := some index }
    | .ok rules =>
      { result := do
          let reply ← exchange.result
          let envelope ← envelopeOf service.common service.aliases rules batch reply
          return (Json.object envelope).compact
        requests := service.backend.received batch exchange
        attempts := exchange.replies.length
        rulesFor := some index }

end SearchRelay.Search
