import SearchRelay.Json.Printer
import SearchRelay.Query

/-!
# SearchRelay.Batch

A batch: the queries of one search as one payload for the backend.

Each query becomes two lines, a header that names its index and its body.
The backend answers in the same order, so the place of a query in the batch is
what ties an answer to it.

`Batch.ofQueries` checks the queries in their order and reports the first
fault; of the faults of one query it reports the first in the order blank id,
reserved id, repeated id, suggestion options, body.
-/

namespace SearchRelay

/-- The keys of an envelope that no query may use as its id. -/
def reservedIds : List String := ["settings", "error"]

/-- The queries of one search, and their payload. -/
structure Batch where
  queries : List Query
  payload : String

namespace Batch

/-! ## Lines -/

/-- The header of a query. -/
def header (q : Query) : Json := .object (Json.optional "index" (q.index.map .string))

def lines (q : Query) (body : Json) : String :=
  (header q).compact ++ "\n" ++ body.compact ++ "\n"

/-! ## Checks -/

/-- The first fault of the id of a query, given the ids before it. -/
def idFault? (seen : List String) (id : String) : Option RequestFault :=
  if Text.allBlank id then some .blankId
  else if reservedIds.contains id then some (.reservedId id)
  else if seen.contains id then some (.duplicateId id)
  else none

/-- The body of a query, which has to be an object. -/
def body (q : Query) : Except RequestFault Json :=
  match q.body with
  | some (.object fields) => .ok (.object fields)
  | some _ => .error (.bodyNotObject q.id)
  | none => .error (.noBody q.id)

/-- The lines of a query that has no fault, given the ids before it. -/
def checked (seen : List String) (q : Query) : Except RequestFault String := do
  if let some fault := idFault? seen q.id then throw fault
  if q.kind = .suggestion then
    let _ ← q.suggestionOptions
  return lines q (← body q)

/-- The lines of a list of queries, given the ids before them. -/
def payloadFrom (seen : List String) : List Query → Except RequestFault String
  | [] => .ok ""
  | q :: qs => do
    let first ← checked seen q
    return first ++ (← payloadFrom (q.id :: seen) qs)

/-- The batch of a list of queries, or its first fault. -/
def ofQueries (queries : List Query) : Except RequestFault Batch :=
  if queries.isEmpty then .error .noQueries
  else (payloadFrom [] queries).map fun payload => ⟨queries, payload⟩

/-! ## Views -/

def ids (b : Batch) : List String := b.queries.map Query.id

/-- The names that occur, each once, in the order of their first
occurrence. -/
def firstOccurrences {α : Type} [DecidableEq α] : List α → List α
  | [] => []
  | a :: as => a :: (firstOccurrences as).filter (· ≠ a)

/-- The indices of the queries, each once. -/
def indices (b : Batch) : List String := firstOccurrences (b.queries.filterMap Query.index)

end Batch

end SearchRelay
