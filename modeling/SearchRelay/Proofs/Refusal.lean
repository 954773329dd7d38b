import SearchRelay.Proofs.Batch
import SearchRelay.Proofs.Exchange
import SearchRelay.Proofs.Hiding
import SearchRelay.Proofs.Search

/-!
# SearchRelay.Proofs.Refusal

Which searches are refused, and what is done for them.

A search is refused if the client is told that its request is not valid.

1. `not_refuses_of_ofReply` — no answer of the backend makes the envelope of a
   batch fail that way, though the options of its queries are checked again;
2. `not_refuses_of_exchange` — no exchange with the backend does;
3. `run_refused_iff` — so a search is refused if and only if its queries make no
   batch, and then neither the backend nor the rules were asked.
-/

namespace SearchRelay

/-- An error that tells the client that the request is not valid. -/
def Error.Refuses : Error → Prop
  | .validation _ => True
  | _ => False

/-! ## the exchange -/

namespace Backend

/-- What a status says about a reply never blames the request. -/
theorem not_refuses_of_verdictOf {status : Nat} {body : List UInt8} {e : Error}
    (h : verdictOf status body = .error e) : ¬ e.Refuses := by
  unfold verdictOf at h
  split at h
  · cases h
    exact id
  · split at h
    · unfold envelopeOf at h
      split at h
      · contradiction
      · cases h
        exact id
      · cases h
        exact id
    · cases h
      exact id

/-- A final verdict never blames the request. -/
theorem not_refuses_of_final {reply : Reply} {e : Error}
    (h : reply.verdict = .final (.error e)) : ¬ e.Refuses := by
  obtain ⟨status, body, hverdict⟩ := exists_verdictOf_of_final h
  exact not_refuses_of_verdictOf hverdict

/-- No ending of an exchange blames the request. -/
theorem Exchange.Ending.not_refuses {s : Settings} {most attempts : Nat} {last : Reply} {e : Error}
    (h : Ending s most attempts last (.error e)) : ¬ e.Refuses := by
  cases h with
  | expired => exact id
  | final hfinal => exact not_refuses_of_final hfinal
  | exhausted => exact id

/-- The backend cannot make a request invalid. -/
theorem not_refuses_of_exchange {b : Backend} {pauses : Nat → Nat} {script : Script}
    {batch : Batch} {e : Error} (h : (b.exchange pauses script batch).result = .error e) :
    ¬ e.Refuses := by
  rcases exchange_cases b pauses script batch with ⟨_, -, -, hrun⟩ | ⟨_, herror, hexchange⟩
  · obtain ⟨n, _, _, _, hends⟩ := Exchange.run_ends b.settings pauses script
    rw [← hrun, h] at hends
    exact hends.not_refuses
  · rw [hexchange] at h
    cases h
    rcases herror with rfl | rfl <;> exact id

end Backend

/-! ## the envelope -/

/-- The options of the queries were checked when the batch was made, so
checking them again for an answer cannot fail. -/
theorem Envelope.not_refuses_of_ofReply {queries : List Query} {batch : Batch}
    (hbatch : Batch.ofQueries queries = .ok batch) {common : Stopwords} {reply : Json} {e : Error}
    (h : ofReply common batch reply = .error e) : ¬ e.Refuses :=
  error_of_ofReply (P := fun e => ¬ e.Refuses) (fun _ => id)
    (fun _ hq hkind fault hfault =>
      absurd hfault (Batch.suggestionOptions_ne_error hbatch hq hkind fault)) h

namespace Search

/-- Once the batch is accepted, nothing in a reply blames the request. -/
theorem not_refuses_of_envelopeOf {queries : List Query} {batch : Batch}
    (hbatch : Batch.ofQueries queries = .ok batch) {common : Stopwords} {aliases : Alias.Table}
    {rules : List Rule} {reply : Json.Fields} {e : Error}
    (h : envelopeOf common aliases rules batch reply = .error e) : ¬ e.Refuses :=
  error_of_envelopeOf (P := fun e => ¬ e.Refuses) (fun _ => id) (fun _ => id)
    (fun _ hq hkind fault hfault =>
      absurd hfault (Batch.suggestionOptions_ne_error hbatch hq hkind fault)) h

/-! ## the whole search -/

/-- **Refused searches**: where the rules do not answer that a request is not
valid, a search is refused if and only if its queries make no batch; then no
attempt is made, nothing arrives at the backend, and the rules are not asked
for.  No reply to a batch is refused. -/
theorem run_refused_iff (service : Service) (pauses : Nat → Nat) (script : Backend.Script)
    {rules : Option String → Except Error (List Rule)}
    (hrules : ∀ index reason, rules index ≠ .error (.validation reason)) (queries : List Query) :
    ((∃ reason, (run service pauses script rules queries).result = .error (.validation reason)) ↔
        ∃ fault, Batch.ofQueries queries = .error fault) ∧
      (∀ fault, Batch.ofQueries queries = .error fault →
        (run service pauses script rules queries).result = .error (.validation fault.reason) ∧
        (run service pauses script rules queries).requests = [] ∧
        (run service pauses script rules queries).attempts = 0 ∧
        (run service pauses script rules queries).rulesFor = none) ∧
      ∀ batch, Batch.ofQueries queries = .ok batch → ∀ common reply reason,
        Envelope.ofReply common batch reply ≠ .error (.validation reason) := by
  have hrefused : ∀ fault, Batch.ofQueries queries = .error fault →
      run service pauses script rules queries = { result := .error fault.error } := by
    intro fault hfault
    simp [run, hfault]
  refine ⟨⟨?_, ?_⟩, ?_, ?_⟩
  · rintro ⟨reason, hresult⟩
    cases hbatch : Batch.ofQueries queries with
    | error fault => exact ⟨fault, rfl⟩
    | ok batch =>
        exfalso
        cases hfound : rules batch.indices.head? with
        | error e =>
            rcases result_of_rules_error hbatch hfound with hrun | ⟨_, herror, hrun⟩
            · obtain rfl := Except.error.inj (hrun.symm.trans hresult)
              exact hrules _ reason hfound
            · obtain rfl := Except.error.inj (hrun.symm.trans hresult)
              rcases herror with herror | herror <;> cases herror
        | ok found =>
            rcases error_of_run hbatch hfound hresult with h | ⟨_, _, h⟩
            · exact Backend.not_refuses_of_exchange h trivial
            · exact not_refuses_of_envelopeOf hbatch h trivial
  · rintro ⟨fault, hfault⟩
    exact ⟨fault.reason, by rw [hrefused fault hfault]; rfl⟩
  · intro fault hfault
    rw [hrefused fault hfault]
    exact ⟨rfl, rfl, rfl, rfl⟩
  · intro batch hbatch common reply reason hresult
    exact Envelope.not_refuses_of_ofReply hbatch hresult trivial

/-! ### twins -/

/-- Rules that are not to be had. -/
def noRuleBook : Option String → Except Error (List Rule) := fun _ => .error (.config "no rules")

/-- Two queries that ask for suggestions under one id. -/
def twinQueries : List Query := [
  { id := "titles", kind := .suggestion, value := some (.string "iph"), body := some (.object []) },
  { id := "titles", kind := .suggestion, body := some (.object []) }]

/-- Two queries under one id are refused before anything is sent. -/
theorem run_refused_iff_twins :
    (∀ index reason, noRuleBook index ≠ .error (.validation reason)) ∧
      (run catalogService (fun _ => 0) (fun _ => .silent) noRuleBook twinQueries).result =
        .error (.validation "duplicate query id `titles`") ∧
      (run catalogService (fun _ => 0) (fun _ => .silent) noRuleBook twinQueries).requests = [] ∧
      (run catalogService (fun _ => 0) (fun _ => .silent) noRuleBook twinQueries).rulesFor = none ∧
      ∀ reason, (run catalogService (fun _ => 0) (fun _ => .silent) noRuleBook
        (twinQueries.take 1)).result ≠ .error (.validation reason) := by
  have hrules : ∀ index reason, noRuleBook index ≠ .error (.validation reason) :=
    fun _ _ h => nomatch h
  have hsilent := run_refused_iff catalogService (fun _ => 0) (fun _ => .silent) hrules
  obtain ⟨hresult, hrequests, _, hrulesFor⟩ := (hsilent twinQueries).2.1 (.duplicateId "titles") rfl
  refine ⟨hrules, hresult, hrequests, hrulesFor, fun reason hreason => ?_⟩
  obtain ⟨fault, hfault⟩ := (hsilent (twinQueries.take 1)).1.mp ⟨reason, hreason⟩
  cases hfault

end Search

end SearchRelay
