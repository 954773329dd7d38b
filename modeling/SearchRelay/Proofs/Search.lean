import SearchRelay.Proofs.Except
import SearchRelay.Proofs.Exchange
import SearchRelay.Search

/-!
# SearchRelay.Proofs.Search

A whole search, taken apart.

1. `run_eq_ok` — a search gives a text if and only if its queries make a batch,
   the rules are to be had, the backend answers and the answer makes an
   envelope; the text is then that of the envelope.  `error_of_run` — where a
   search fails that gets as far as the backend.
2. `error_of_envelopeOf` — what can go wrong behind the answer of the backend;
   `statusless_of_envelopeOf` — so nothing there carries a status of the
   backend.
-/

namespace SearchRelay

/-- An error that carries no status of the backend. -/
def Error.Statusless : Error → Prop
  | .upstreamUnavailable _ _ | .backendRejected _ _ => False
  | _ => True

open Json

/-! ## errors of the stages -/

/- Every stage is taken apart once, for any property `P` of the errors that it
may end with. -/

section

variable {P : Error → Prop} {common : Stopwords} {e : Error}

namespace Envelope

variable (hfault : ∀ fault : Fault, P fault.error)

include hfault

theorem error_of_fail {α : Type} {fault : Fault} (h : (fail fault : Except Error α) = .error e) :
    P e := by
  injection h with h
  exact h ▸ hfault fault

/-- Suggestions fail at the options or at the hits. -/
theorem error_of_suggestionsFor {q : Query} {raw : List Json}
    (hoptions : ∀ fault, q.suggestionOptions = .error fault → P fault.error)
    (h : suggestionsFor common q raw = .error e) : P e := by
  unfold suggestionsFor at h
  split at h
  · next fault hfaulty =>
    injection h with h
    exact h ▸ hoptions fault hfaulty
  · contradiction
  · split at h
    · exact error_of_fail hfault h
    · contradiction

/-- A result with suggestions fails at the options or at the hits. -/
theorem error_of_suggestionResult {q : Query} {response : Fields}
    (hoptions : ∀ fault, q.suggestionOptions = .error fault → P fault.error)
    (h : suggestionResult common q response = .error e) : P e := by
  unfold suggestionResult at h
  split at h
  · contradiction
  · split at h
    · split at h
      · rcases Except.bind_eq_error.mp h with h | ⟨_, _, h⟩
        · exact error_of_suggestionsFor hfault hoptions h
        · contradiction
      · exact error_of_fail hfault h
    · exact error_of_fail hfault h

/-- The options of a query matter only if it asks for suggestions. -/
theorem error_of_entry {q : Query} {response : Json}
    (hoptions : q.kind = .suggestion →
      ∀ fault, q.suggestionOptions = .error fault → P fault.error)
    (h : entry common q response = .error e) : P e := by
  unfold entry at h
  split at h
  · split at h
    · next hkind =>
      exact error_of_suggestionResult hfault (hoptions hkind) (Except.map_eq_error.mp h)
    · contradiction
  · exact error_of_fail hfault h

/-- Adding entries fails at a result with suggestions. -/
theorem error_of_addEntries {out : Fields} {pairs : List (Query × Json)}
    (hoptions : ∀ pair ∈ pairs, pair.1.kind = .suggestion →
      ∀ fault, pair.1.suggestionOptions = .error fault → P fault.error)
    (h : addEntries common out pairs = .error e) : P e := by
  induction pairs generalizing out with
  | nil => contradiction
  | cons pair pairs ih =>
      obtain ⟨hpair, hpairs⟩ := List.forall_mem_cons.mp hoptions
      rcases Except.bind_eq_error.mp h with h | ⟨_, _, h⟩
      · exact error_of_entry hfault hpair h
      · exact ih hpairs h

/-- A reply makes no envelope because of a fault of its own, or of the options
of a query. -/
theorem error_of_ofReply {batch : Batch} {reply : Json}
    (hoptions : ∀ q ∈ batch.queries, q.kind = .suggestion →
      ∀ fault, q.suggestionOptions = .error fault → P fault.error)
    (h : ofReply common batch reply = .error e) : P e := by
  unfold ofReply at h
  split at h
  · rcases Except.bind_eq_error.mp h with h | ⟨_, _, h⟩
    · unfold responses at h
      split at h
      · contradiction
      · exact error_of_fail hfault h
      · exact error_of_fail hfault h
    · split at h
      · rcases Except.bind_eq_error.mp h with h | ⟨_, hfail, _⟩
        · exact error_of_fail hfault h
        · contradiction
      · exact error_of_addEntries hfault
          (fun pair hpair => hoptions pair.1 (List.of_mem_zip hpair).1) h
  · exact error_of_fail hfault h

end Envelope

namespace Search

variable (hmismatch : ∀ reason, P (.structuralMismatch reason))

include hmismatch

/-- Renaming fails only where an entry cannot be read afterwards. -/
theorem error_of_translateEntries {subs : List (Alias.Substitution UInt8)} {envelope : Fields}
    (h : translateEntries subs envelope = .error e) : P e := by
  unfold translateEntries at h
  split at h
  · contradiction
  · refine Except.error_of_mapM (fun entry e he => ?_) h
    unfold translateEntry at he
    split at he
    · contradiction
    · injection he with he
      exact he ▸ hmismatch _

/-- Rules fail only at entries out of shape. -/
theorem error_of_applyRules {rules : List Rule} {queries : List Query} {envelope : Fields}
    (h : applyRules rules queries envelope = .error e) : P e := by
  unfold applyRules at h
  split at h
  · contradiction
  · refine Except.error_of_foldlM (fun out q e he => ?_) h
    unfold applyTo at he
    split at he
    · split at he
      · contradiction
      · injection he with he
        exact he ▸ hmismatch _
    · contradiction

/-- What can go wrong behind the answer of the backend: the answer does not
line up with the batch, a query has faulty options, or the entries have another
shape than the names or the rules need. -/
theorem error_of_envelopeOf {aliases : Alias.Table} {rules : List Rule} {batch : Batch}
    {reply : Fields} (hfault : ∀ fault : Envelope.Fault, P fault.error)
    (hoptions : ∀ q ∈ batch.queries, q.kind = .suggestion →
      ∀ fault, q.suggestionOptions = .error fault → P fault.error)
    (h : envelopeOf common aliases rules batch reply = .error e) : P e := by
  unfold envelopeOf at h
  rcases Except.bind_eq_error.mp h with h | ⟨_, _, h⟩
  · exact Envelope.error_of_ofReply hfault hoptions h
  · rcases Except.bind_eq_error.mp h with h | ⟨_, _, h⟩
    · exact error_of_translateEntries hmismatch h
    · exact error_of_applyRules hmismatch h

end Search

end

namespace Search

/-- No stage behind the answer of the backend fails with a status. -/
theorem statusless_of_envelopeOf {common : Stopwords} {aliases : Alias.Table}
    {rules : List Rule} {batch : Batch} {reply : Fields} {e : Error}
    (h : envelopeOf common aliases rules batch reply = .error e) : e.Statusless :=
  error_of_envelopeOf (fun _ => trivial) (fun _ => trivial) (fun _ _ _ _ _ => trivial) h

/-- An envelope for the client is made in three stages. -/
theorem envelopeOf_eq_ok {common : Stopwords} {aliases : Alias.Table} {rules : List Rule}
    {batch : Batch} {reply envelope : Fields} :
    envelopeOf common aliases rules batch reply = .ok envelope ↔
      ∃ entries renamed, Envelope.ofReply common batch (.object reply) = .ok entries ∧
        translateEntries (Alias.plan batch.indices aliases) entries = .ok renamed ∧
        applyRules rules batch.queries renamed = .ok envelope := by
  simp only [envelopeOf, Except.bind_eq_ok, exists_and_left]

/-! ## the whole search -/

variable {service : Service} {pauses : Nat → Nat} {script : Backend.Script}
  {rules : Option String → Except Error (List Rule)} {queries : List Query}

/-- An exchange that ends before its first attempt fails the search, whatever the rules
are. -/
theorem run_of_isEmpty {batch : Batch} (hbatch : Batch.ofQueries queries = .ok batch)
    (hempty : (service.backend.exchange pauses script batch).replies.isEmpty = true) {e : Error}
    (hresult : (service.backend.exchange pauses script batch).result = .error e) :
    (run service pauses script rules queries).attempts = 0 ∧
      (run service pauses script rules queries).result = .error e := by
  simp only [run, hbatch, hempty, hresult, if_true]
  exact ⟨List.isEmpty_iff_length_eq_zero.mp hempty, rfl⟩

/-- Rules that are not to be had fail the search, unless the exchange has failed it. -/
theorem result_of_rules_error {batch : Batch} (hbatch : Batch.ofQueries queries = .ok batch)
    {e : Error} (hrules : rules batch.indices.head? = .error e) :
    (run service pauses script rules queries).result = .error e ∨
      ∃ error, (error = Backend.unsendable ∨ error = .overflow) ∧
        (run service pauses script rules queries).result = .error error := by
  by_cases hempty : (service.backend.exchange pauses script batch).replies.isEmpty = true
  · obtain ⟨error, herror, hresult⟩ := Backend.result_of_isEmpty hempty
    exact .inr ⟨error, herror, (run_of_isEmpty hbatch hempty hresult).2⟩
  · simp only [run, hbatch, hempty, hrules]
    exact .inl rfl

/-- A search whose queries make a batch, and whose rules are to be had. -/
theorem run_of_batch {batch : Batch} {found : List Rule}
    (hbatch : Batch.ofQueries queries = .ok batch)
    (hrules : rules batch.indices.head? = .ok found) :
    (run service pauses script rules queries).attempts =
        (service.backend.exchange pauses script batch).replies.length ∧
      (run service pauses script rules queries).result = (do
        let reply ← (service.backend.exchange pauses script batch).result
        let envelope ← envelopeOf service.common service.aliases found batch reply
        return (Json.object envelope).compact) := by
  by_cases hempty : (service.backend.exchange pauses script batch).replies.isEmpty = true
  · obtain ⟨error, -, hresult⟩ := Backend.result_of_isEmpty hempty
    obtain ⟨hattempts, hrun⟩ :=
      @run_of_isEmpty service pauses script rules queries batch hbatch hempty error hresult
    rw [hattempts, hrun, List.isEmpty_iff_length_eq_zero.mp hempty, hresult]
    exact ⟨rfl, rfl⟩
  · simp only [run, hbatch, hempty, hrules]
    exact ⟨rfl, rfl⟩

/-- When a search gives a text, and which one. -/
theorem run_eq_ok {text : String} :
    (run service pauses script rules queries).result = .ok text ↔
      ∃ batch found reply envelope, Batch.ofQueries queries = .ok batch ∧
        rules batch.indices.head? = .ok found ∧
        (service.backend.exchange pauses script batch).result = .ok reply ∧
        envelopeOf service.common service.aliases found batch reply = .ok envelope ∧
        (Json.object envelope).compact = text := by
  constructor
  · intro h
    cases hbatch : Batch.ofQueries queries with
    | error fault => simp [run, hbatch] at h
    | ok batch =>
        cases hrules : rules batch.indices.head? with
        | error error =>
            rcases result_of_rules_error hbatch hrules with hrun | ⟨_, -, hrun⟩
            all_goals
              rw [hrun] at h
              cases h
        | ok found =>
            rw [(run_of_batch hbatch hrules).2] at h
            obtain ⟨reply, hreply, h⟩ := Except.bind_eq_ok.mp h
            obtain ⟨envelope, henvelope, h⟩ := Except.bind_eq_ok.mp h
            exact ⟨batch, found, reply, envelope, rfl, hrules, hreply, henvelope,
              Except.pure_eq_ok.mp h⟩
  · rintro ⟨batch, found, reply, envelope, hbatch, hrules, hreply, henvelope, rfl⟩
    rw [(run_of_batch hbatch hrules).2]
    exact Except.bind_eq_ok.mpr ⟨reply, hreply, Except.bind_eq_ok.mpr ⟨envelope, henvelope, rfl⟩⟩

/-- A search that the backend answers gives the text of an envelope. -/
theorem run_eq_ok_of_reply {batch : Batch} {found : List Rule} {reply : Fields} {text : String}
    (hbatch : Batch.ofQueries queries = .ok batch)
    (hrules : rules batch.indices.head? = .ok found)
    (hreply : (service.backend.exchange pauses script batch).result = .ok reply) :
    (run service pauses script rules queries).result = .ok text ↔
      ∃ envelope, envelopeOf service.common service.aliases found batch reply = .ok envelope ∧
        (Json.object envelope).compact = text := by
  rw [run_eq_ok]
  constructor
  · rintro ⟨_, _, _, envelope, hbatch', hrules', hreply', henvelope, htext⟩
    cases hbatch.symm.trans hbatch'
    cases hrules.symm.trans hrules'
    cases hreply.symm.trans hreply'
    exact ⟨envelope, henvelope, htext⟩
  · rintro ⟨envelope, henvelope, htext⟩
    exact ⟨batch, found, reply, envelope, hbatch, hrules, hreply, henvelope, htext⟩

/-- A search that gets as far as the backend fails there, or makes no envelope of
the answer. -/
theorem error_of_run {batch : Batch} {found : List Rule} {e : Error}
    (hbatch : Batch.ofQueries queries = .ok batch)
    (hrules : rules batch.indices.head? = .ok found)
    (h : (run service pauses script rules queries).result = .error e) :
    (service.backend.exchange pauses script batch).result = .error e ∨
      ∃ reply, (service.backend.exchange pauses script batch).result = .ok reply ∧
        envelopeOf service.common service.aliases found batch reply = .error e := by
  rw [(run_of_batch hbatch hrules).2] at h
  rcases Except.bind_eq_error.mp h with h | ⟨reply, hreply, h⟩
  · exact .inl h
  · rcases Except.bind_eq_error.mp h with h | ⟨_, _, h⟩
    · exact .inr ⟨reply, hreply, h⟩
    · exact absurd h Except.pure_ne_error

/-- A search that gets as far as the backend fails there, or without a status. -/
theorem exchange_or_statusless {batch : Batch} {found : List Rule} {e : Error}
    (hbatch : Batch.ofQueries queries = .ok batch)
    (hrules : rules batch.indices.head? = .ok found)
    (h : (run service pauses script rules queries).result = .error e) :
    (service.backend.exchange pauses script batch).result = .error e ∨
      (∃ reply, (service.backend.exchange pauses script batch).result = .ok reply) ∧
        e.Statusless := by
  rcases error_of_run hbatch hrules h with h | ⟨reply, hreply, h⟩
  · exact .inl h
  · exact .inr ⟨⟨reply, hreply⟩, statusless_of_envelopeOf h⟩

end Search

end SearchRelay
