import SearchRelay.Proofs.Envelope
import SearchRelay.Proofs.Hit

/-!
# SearchRelay.Proofs.Envelope.Fault

Which replies of the backend make no envelope.

`fault?` looks a reply through, query by query and hit by hit, for the first thing
that keeps it from making an envelope.  `failure?_ofReply` states that a reply to a
batch fails with this fault, and makes an envelope if there is none.
-/

namespace SearchRelay.Envelope

open Json

/-! ## faults -/

/-- The fault of the hits of a query, which are read only if the query has a
text. -/
def hitFault? (q : Query) (raw : List Json) : Option Fault :=
  match q.value with
  | some (.string _) => (raw.findSome? Hit.refusal?).map (.undecodableHit q.id)
  | _ => none

/-- The fault of the response to a query. -/
def responseFault? (q : Query) : Json → Option Fault
  | .object response =>
    if q.kind = .suggestion ∧ ¬ isFailure response then
      match Fields.find? response "hits" with
      | some (.object hits) => match Fields.find? hits "hits" with
        | some (.array raw) => hitFault? q raw
        | _ => some (.noHitList q.id)
      | _ => some (.noHits q.id)
    else none
  | _ => some (.responseNotObject q.id)

/-- The fault of a reply to a batch. -/
def fault? (batch : Batch) : Json → Option Fault
  | .object reply => match Fields.find? reply "responses" with
    | some (.array items) =>
      if items.length ≠ batch.queries.length then
        some (.responseCount batch.queries.length items.length)
      else (batch.queries.zip items).findSome? fun pair => responseFault? pair.1 pair.2
    | some _ => some .responsesNotArray
    | none => some .noResponses
  | _ => some .replyNotObject

/-! ## one response -/

section

variable (common : Stopwords) {q : Query}

/-- Finding suggestions fails at the first hit that cannot be read, and in no other way.
-/
theorem failure?_suggestionsFor (hoptions : ∀ fault, q.suggestionOptions ≠ .error fault)
    {raw : List Json} (hraw : (Json.array raw).Ordered) :
    Except.failure? (suggestionsFor common q raw) = (hitFault? q raw).map Fault.error := by
  cases hgiven : q.suggestionOptions with
  | error fault => exact absurd hgiven (hoptions fault)
  | ok given =>
      rw [suggestionsFor, hgiven, hitFault?]
      cases given with
      | none =>
          rcases value_of_suggestionOptions hgiven with hvalue | hvalue
          · rw [hvalue]
            rfl
          · rw [hvalue]
            rfl
      | some options =>
          obtain ⟨text, hvalue⟩ := text_of_suggestionOptions hgiven
          have hdecode : Except.failure? (raw.mapM (decodeAs Hit.decode)) =
              raw.findSome? Hit.refusal? :=
            Except.failure?_mapM fun v hv => Hit.failure?_decode (hraw.item hv)
          rw [hvalue, ← hdecode]
          cases raw.mapM (decodeAs Hit.decode) <;> rfl

/-- A suggestion response fails for its shape or for one of its hits. -/
theorem failure?_suggestionResult (hoptions : ∀ fault, q.suggestionOptions ≠ .error fault)
    {response : Fields} (hresponse : (Json.object response).Ordered)
    (hkind : q.kind = .suggestion) :
    Except.failure? (suggestionResult common q response) =
      (responseFault? q (.object response)).map Fault.error := by
  rw [suggestionResult, responseFault?]
  by_cases hfailure : isFailure response = true
  · rw [if_pos hfailure, if_neg fun h => h.2 hfailure]
    rfl
  · rw [if_neg hfailure, if_pos ⟨hkind, hfailure⟩]
    cases hhits : Fields.find? response "hits" with
    | none => rfl
    | some found =>
        cases found with
        | null | bool b | number n | string s | array items => rfl
        | object hits =>
            dsimp only
            cases hlist : Fields.find? hits "hits" with
            | none => rfl
            | some list =>
                cases list with
                | null | bool b | number n | string s | object fields => rfl
                | array raw =>
                    have hraw : (Json.array raw).Ordered := (hresponse.field hhits).field hlist
                    dsimp only
                    rw [← failure?_suggestionsFor common hoptions hraw]
                    exact Except.failure?_bind_pure _ _

/-- A single entry fails as its response is at fault. -/
theorem failure?_entry
    (hoptions : q.kind = .suggestion → ∀ fault, q.suggestionOptions ≠ .error fault)
    {response : Json} (hresponse : response.Ordered) :
    Except.failure? (entry common q response) = (responseFault? q response).map Fault.error := by
  cases response with
  | null | bool b | number n | string s | array items => rfl
  | object fields =>
      rw [entry]
      by_cases hkind : q.kind = .suggestion
      · rw [if_pos hkind, Except.failure?_map]
        exact failure?_suggestionResult common (hoptions hkind) hresponse hkind
      · rw [if_neg hkind, responseFault?, if_neg fun h => hkind h.1]
        rfl

end

/-! ## all responses -/

/-- Entries are added in order, so the first response at fault is reported. -/
theorem failure?_addEntries (common : Stopwords) {pairs : List (Query × Json)} (out : Fields)
    (hpairs : ∀ pair ∈ pairs, pair.2.Ordered ∧ (pair.1.kind = .suggestion →
      ∀ fault, pair.1.suggestionOptions ≠ .error fault)) :
    Except.failure? (addEntries common out pairs) =
      (pairs.findSome? fun pair => responseFault? pair.1 pair.2).map Fault.error := by
  induction pairs generalizing out with
  | nil => rfl
  | cons pair pairs ih =>
      obtain ⟨⟨hordered, hoptions⟩, hpairs⟩ := List.forall_mem_cons.mp hpairs
      rw [addEntries, List.findSome?_cons,
        Except.failure?_bind_of_forall fun e => ih (out.insert pair.1.id e) hpairs,
        failure?_entry common hoptions hordered]
      cases responseFault? pair.1 pair.2 <;> rfl

/-- **Why a reply makes no envelope**, if it makes none. -/
theorem failure?_ofReply (common : Stopwords) {queries : List Query} {batch : Batch}
    (hbatch : Batch.ofQueries queries = .ok batch) {reply : Json} (hreply : reply.Ordered) :
    Except.failure? (ofReply common batch reply) = (fault? batch reply).map Fault.error := by
  cases reply with
  | null | bool b | number n | string s | array items => rfl
  | object top =>
      rw [ofReply, fault?, responses]
      cases hfound : Fields.find? top "responses" with
      | none => rfl
      | some found =>
          cases found with
          | null | bool b | number n | string s | object fields => rfl
          | array items =>
              dsimp only
              by_cases hlength : items.length = batch.queries.length
              · have hpairs : ∀ pair ∈ batch.queries.zip items, pair.2.Ordered ∧
                    (pair.1.kind = .suggestion →
                      ∀ fault, pair.1.suggestionOptions ≠ .error fault) := by
                  intro pair hpair
                  obtain ⟨hq, hitem⟩ := List.of_mem_zip hpair
                  exact ⟨(hreply.field hfound).item hitem,
                    Batch.suggestionOptions_ne_error hbatch hq⟩
                rw [if_neg (not_not_intro hlength),
                  ← failure?_addEntries common (frame top) hpairs]
                change Except.failure? (if items.length ≠ batch.queries.length then _ else _) = _
                rw [if_neg (not_not_intro hlength)]
              · rw [if_pos hlength]
                change Except.failure? (if items.length ≠ batch.queries.length then _ else _) = _
                rw [if_pos hlength]
                rfl

/-- The error of an envelope is that of the first fault of the reply. -/
theorem ofReply_eq_error_iff {common : Stopwords} {queries : List Query} {batch : Batch}
    (hbatch : Batch.ofQueries queries = .ok batch) {reply : Json} (hreply : reply.Ordered)
    {e : Error} :
    ofReply common batch reply = .error e ↔
      ∃ fault, fault? batch reply = some fault ∧ fault.error = e := by
  rw [← Except.failure?_eq_some, failure?_ofReply common hbatch hreply, Option.map_eq_some_iff]

end SearchRelay.Envelope
