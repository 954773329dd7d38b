import SearchRelay.Gateway.Server
import SearchRelay.Proofs.Exchange
import SearchRelay.Proofs.Search

/-!
# SearchRelay.Proofs.Gateway.Status

The status that a failed search is answered with.

A failed search should be answered with a status of 400 or more.  All failures
are, but one: an answer of the backend that breaks off is tried again, and when
no attempt is left the status of the last answer is passed on, even if it
reports a success.  `LostAnswer` is that case, and
`status_lt_400_iff_lostAnswer` states that it is the only one.

1. `reportsSuccess_iff_of_transient` — of a transient reply only an answer that broke
   off hands down a status below 400;
2. `exchange_lost_iff` — an exchange fails with such a status if and only if its
   last allowed attempt is of that kind;
3. everything behind the exchange fails without a status
   (`Search.statusless_of_envelopeOf`).

A search that breaks down is not answered, so it has no status.
-/

namespace SearchRelay.Gateway

open Json Http Failure Backend

/-! ## single failures -/

/- Whether a failure has a status below 400 is a matter of its kind, and of the status
it carries. A failure of the backend may carry one of its own, and of these only what is
left of a broken-off reply is below 400. -/

theorem status_responseUnder (failure : Failure) (status : Nat) :
    (failure.responseUnder status).status = status := by
  cases failure with
  | search cause => cases cause <;> rfl
  | config reason => rfl
  | file reason => rfl
  | canceled => rfl

/-- A failure is answered with its status. -/
theorem response?_iff (failure : Failure) (P : Nat → Prop) :
    (∃ response, failure.response? = some response ∧ P response.status) ↔
      ∃ status, failure.status? = some status ∧ P status := by
  constructor
  · rintro ⟨_, hresponse, hP⟩
    obtain ⟨status, hstatus, rfl⟩ := Option.map_eq_some_iff.mp hresponse
    exact ⟨status, hstatus, status_responseUnder failure status ▸ hP⟩
  · rintro ⟨status, hstatus, hP⟩
    exact ⟨failure.responseUnder status, Option.map_eq_some_iff.mpr ⟨status, hstatus, rfl⟩,
      (status_responseUnder failure status).symm ▸ hP⟩

/-- A failed search is answered with a status that does not report a failure. -/
def ReportsSuccess (e : Error) : Prop := ∃ status, searchStatus? e = some status ∧ status < 400

/-- An error that has a status reports no success just if the status is one of a failure.
-/
theorem not_reportsSuccess_iff {e : Error} {status : Nat} (h : searchStatus? e = some status) :
    ¬ ReportsSuccess e ↔ 400 ≤ status := by
  rw [ReportsSuccess, h]
  simp

/-- Errors without a status of the backend report a failure. -/
theorem not_reportsSuccess_of_statusless {e : Error} (h : e.Statusless) : ¬ ReportsSuccess e := by
  cases e with
  | upstreamUnavailable status reason => exact h.elim
  | backendRejected status body => exact h.elim
  | validation reason => exact (not_reportsSuccess_iff rfl).mpr (Nat.le_refl _)
  | timeout reason => exact (not_reportsSuccess_iff rfl).mpr (by decide)
  | backendProtocol reason => exact (not_reportsSuccess_iff rfl).mpr (by decide)
  | partialResponse reason => exact (not_reportsSuccess_iff rfl).mpr (by decide)
  | structuralMismatch reason => exact (not_reportsSuccess_iff rfl).mpr (by decide)
  | config reason => exact (not_reportsSuccess_iff rfl).mpr (by decide)
  | overflow => exact fun ⟨_, hstatus, _⟩ => nomatch hstatus

/-- An answer that broke off in its body, under a status that reports no failure. -/
def BrokeOff (reply : Reply) : Prop :=
  ∃ status, reply = .brokenOff status ∧ (100 ≤ status ∧ status < 400) ∧ hasNoBody status = false

/-- A reply that broke off after a status of success is tried again under that status. -/
theorem verdict_of_brokeOff {reply : Reply} (h : BrokeOff reply) :
    ∃ status, reply.verdict =
      .transient (some status) "backend response read failed: answer broken off" ∧
      100 ≤ status ∧ status < 400 := by
  obtain ⟨status, rfl, ⟨hlow, hhigh⟩, hbody⟩ := h
  refine ⟨status, ?_, hlow, hhigh⟩
  have hserver : isServerError status = false := by simp [isServerError]; omega
  have hclient : isClientError status = false := by simp [isClientError]; omega
  simp [Reply.verdict, hserver, hclient, hbody]

/-- A status is handed down as it is if it may be sent. -/
theorem searchStatus?_upstream (status : Nat) (reason : String) :
    searchStatus? (.upstreamUnavailable (some status) reason) =
      some (if 100 ≤ status ∧ status < 1000 then status else 502) := by
  simp [searchStatus?, passedOn, isStatus]

/-- The status of the backend is passed on, whatever it reports. -/
theorem reportsSuccess_upstream_iff (status : Nat) (reason : String) :
    ReportsSuccess (.upstreamUnavailable (some status) reason) ↔ 100 ≤ status ∧ status < 400 := by
  rw [ReportsSuccess, searchStatus?_upstream]
  simp only [Option.some.injEq, exists_eq_left']
  split <;> omega

theorem not_reportsSuccess_upstream_none (reason : String) :
    ¬ ReportsSuccess (.upstreamUnavailable none reason) :=
  (not_reportsSuccess_iff rfl).mpr (by decide : 400 ≤ 502)

/-- Of the transient replies only an answer that broke off hands down a status
below 400. -/
theorem reportsSuccess_iff_of_transient {reply : Reply} {status : Option Nat}
    {reason : String} (h : reply.verdict = .transient status reason) (text : String) :
    ReportsSuccess (.upstreamUnavailable status text) ↔ BrokeOff reply := by
  cases reply with
  | complete code body =>
      simp only [Reply.verdict] at h
      split at h
      · next hserver =>
        injection h with hstatus
        subst hstatus
        have hcode : 500 ≤ code ∧ code < 600 := by simpa [isServerError] using hserver
        rw [reportsSuccess_upstream_iff]
        constructor
        · omega
        · rintro ⟨_, hne, _⟩
          contradiction
      · contradiction
  | brokenOff code =>
      simp only [Reply.verdict] at h
      split at h
      · next hserver =>
        injection h with hstatus
        subst hstatus
        have hcode : 500 ≤ code ∧ code < 600 := by simpa [isServerError] using hserver
        rw [reportsSuccess_upstream_iff]
        refine iff_of_false (by omega) ?_
        rintro ⟨_, heq, hlow, -⟩
        injection heq with heq
        omega
      · split at h
        · contradiction
        · split at h
          · contradiction
          · next hbody =>
            injection h with hstatus
            subst hstatus
            rw [reportsSuccess_upstream_iff]
            constructor
            · exact fun hcode => ⟨code, rfl, hcode, Bool.eq_false_iff.mpr hbody⟩
            · rintro ⟨_, heq, hcode, -⟩
              injection heq with heq
              exact heq ▸ hcode
  | dropped | silent | refused =>
      injection h with hstatus
      subst hstatus
      refine iff_of_false (not_reportsSuccess_upstream_none text) ?_
      rintro ⟨_, hne, _⟩
      contradiction

/-- A refusal is passed on with its own status, which is that of a client error. -/
theorem not_reportsSuccess_of_rejected {status : Nat} (body : String)
    (h : isClientError status = true) : ¬ ReportsSuccess (.backendRejected status body) := by
  have hclient : 400 ≤ status ∧ status < 500 := by simpa [isClientError] using h
  have hsent : isStatus status = true := by simp [isStatus]; omega
  refine (not_reportsSuccess_iff rfl).mpr ?_
  rw [passedOn, if_pos hsent]
  exact hclient.1

/-- A failure that a status and a body stand for is answered with a status of 400 or
more. -/
theorem not_reportsSuccess_of_verdictOf {status : Nat} {body : List UInt8} {e : Error}
    (h : verdictOf status body = .error e) : ¬ ReportsSuccess e := by
  unfold verdictOf at h
  split at h
  · next hclient =>
    cases h
    exact not_reportsSuccess_of_rejected _ hclient
  · split at h
    · unfold envelopeOf at h
      split at h
      · contradiction
      · cases h
        exact not_reportsSuccess_of_statusless trivial
      · cases h
        exact not_reportsSuccess_of_statusless trivial
    · cases h
      exact not_reportsSuccess_of_statusless trivial

/-- A final reply that is a failure is answered with a status of 400 or more. -/
theorem not_reportsSuccess_of_final {reply : Reply} {e : Error}
    (h : reply.verdict = .final (.error e)) : ¬ ReportsSuccess e := by
  obtain ⟨status, body, hverdict⟩ := exists_verdictOf_of_final h
  exact not_reportsSuccess_of_verdictOf hverdict

/-! ## exchanges -/

/- The induction is on the budget. A reply that is retried passes the question on to the
next attempt, and the last attempt decides it. -/

/-- All attempts were made, and the last one lost an answer that reports no
failure. -/
def LostAnswer (settings : Backend.Settings) (script : Script) (attempts : Nat) : Prop :=
  attempts = Exchange.budget settings ∧ BrokeOff (script (attempts - 1))

/-- Without an attempt no answer is lost. -/
theorem not_lostAnswer_zero (settings : Backend.Settings) (script : Script) :
    ¬ LostAnswer settings script 0 := fun h => nomatch h.1

/-- A run fails with a status below 400 if and only if the last attempt that is allowed
loses its answer. -/
theorem run_lost_iff (settings : Backend.Settings) (pauses : Nat → Nat) (script : Script) :
    (∃ e, (Exchange.run settings pauses script).result = .error e ∧ ReportsSuccess e) ↔
      LostAnswer settings script (Exchange.run settings pauses script).replies.length := by
  obtain ⟨n, _, hreplies, _, hends⟩ := Exchange.run_ends settings pauses script
  have hlength : (Exchange.run settings pauses script).replies.length = n + 1 := by
    rw [hreplies, List.length_map, List.length_range]
  rw [hlength, LostAnswer, Nat.add_sub_cancel]
  generalize hresult : (Exchange.run settings pauses script).result = result at hends
  cases hends with
  | expired hearly =>
      constructor
      · rintro ⟨e, he, hlow⟩
        injection he with he
        subst he
        exact absurd hlow (not_reportsSuccess_of_statusless trivial)
      · rintro ⟨hall, status, hlast, _⟩
        rcases hearly with hmore | hsilent
        · omega
        · rw [hsilent] at hlast
          cases hlast
  | final hfinal =>
      constructor
      · rintro ⟨e, rfl, hlow⟩
        exact absurd hlow (not_reportsSuccess_of_final hfinal)
      · rintro ⟨_, hbroke⟩
        obtain ⟨status, htransient, _⟩ := verdict_of_brokeOff hbroke
        rw [htransient] at hfinal
        cases hfinal
  | exhausted hall htransient =>
      rw [← reportsSuccess_iff_of_transient htransient]
      constructor
      · rintro ⟨e, he, hlow⟩
        injection he with he
        subst he
        exact ⟨hall, hlow⟩
      · rintro ⟨_, hlow⟩
        exact ⟨_, rfl, hlow⟩

/-- An exchange fails with a status below 400 if and only if the last attempt
that is allowed loses its answer. -/
theorem exchange_lost_iff (b : Backend) (pauses : Nat → Nat) (script : Script) (batch : Batch) :
    (∃ e, (b.exchange pauses script batch).result = .error e ∧ ReportsSuccess e) ↔
      LostAnswer b.settings script (b.exchange pauses script batch).replies.length := by
  rcases exchange_cases b pauses script batch with ⟨_, -, -, hrun⟩ | ⟨error, herror, hexchange⟩
  · rw [hrun]
    exact run_lost_iff b.settings pauses script
  · rw [hexchange]
    refine iff_of_false ?_ (not_lostAnswer_zero _ _)
    rintro ⟨e, he, hlow⟩
    obtain rfl := Except.error.inj he
    have hoverflow : Error.overflow.Statusless := trivial
    rcases herror with rfl | rfl
    · exact not_reportsSuccess_upstream_none _ hlow
    · exact not_reportsSuccess_of_statusless hoverflow hlow

/-! ## searches -/

/-- The replies that the backend has left for the next search. -/
def upcoming (script : Script) (s : State) : Script := fun n => script (s.attempts + n)

/-- The envelope that the request of a client asks for, as the gateway sends
it. -/
def AnswersSearch (pauses : Nat → Nat) (script : Script) (s : State) (r : Request)
    (response : Response) : Prop :=
  ∃ queries batch reply envelope, decodeBytes Query.decodeRequest r.body = .ok queries ∧
    Batch.ofQueries queries = .ok batch ∧
    (s.gateway.service.backend.exchange pauses (upcoming script s) batch).result = .ok reply ∧
    Search.envelopeOf s.gateway.service.common s.gateway.service.aliases
      (s.gateway.rulesOf r.term? batch.indices.head?) batch reply = .ok envelope ∧
    response = .ofText 200 (Json.object envelope).compact

section

variable (pauses : Nat → Nat) (script : Script) (s : State)

/-- What a request for a search does, if its body can be read. -/
theorem handle_search {s : State} {r : Request} {queries : List Query}
    (hpath : r.path = "/search") (hmethod : r.method = "POST")
    (hqueries : decodeBytes Query.decodeRequest r.body = .ok queries) :
    handle pauses script s r = search pauses script s r.term? queries := by
  have hhandle : handle pauses script s r = handleSearch pauses script s r := by
    simp only [handle, hpath, hmethod]
  rw [hhandle, handleSearch, hqueries]

/-- What `handle` makes of a search that is not given up. -/
def outcomeOf (term : Option String) (queries : List Query) : Search.Outcome :=
  Search.run s.gateway.service pauses (upcoming script s)
    (fun index => .ok (s.gateway.rulesOf term index)) queries

/-- A search is given up if the gateway is shutting down, unless its queries
make no batch. -/
theorem search_of_open (term : Option String) (queries : List Query)
    (h : s.canceled = false ∨ ∃ fault, Batch.ofQueries queries = .error fault) :
    (search pauses script s term queries).attempts =
        (outcomeOf pauses script s term queries).attempts ∧
      (search pauses script s term queries).result =
        match (outcomeOf pauses script s term queries).result with
        | .ok envelope => .ok (.ofText 200 envelope)
        | .error e => .error (.search e) := by
  unfold search
  split
  · next hcanceled hok =>
    rcases h with hopen | ⟨fault, hfault⟩
    · rw [hopen] at hcanceled
      contradiction
    · rw [hfault] at hok
      contradiction
  · exact ⟨rfl, rfl⟩

/-- A search that gets as far as the backend fails with a status below 400 if
and only if its exchange loses the last answer. -/
theorem outcome_lost_iff {term : Option String} {queries : List Query} {batch : Batch} {e : Error}
    (hbatch : Batch.ofQueries queries = .ok batch)
    (h : (outcomeOf pauses script s term queries).result = .error e) :
    ReportsSuccess e ↔
      LostAnswer s.gateway.service.backend.settings (upcoming script s)
        (outcomeOf pauses script s term queries).attempts := by
  rw [outcomeOf, (Search.run_of_batch hbatch rfl).1, ← exchange_lost_iff _ pauses]
  rcases Search.exchange_or_statusless hbatch rfl h with hexchange | ⟨⟨reply, hreply⟩, hstatusless⟩
  · constructor
    · exact fun hlow => ⟨e, hexchange, hlow⟩
    · rintro ⟨_, he, hlow⟩
      rw [hexchange] at he
      injection he with he
      rw [he]
      exact hlow
  · constructor
    · exact fun hlow => absurd hlow (not_reportsSuccess_of_statusless hstatusless)
    · rintro ⟨_, he, _⟩
      rw [hreply] at he
      cases he

/-- Without an attempt there is no answer to lose, so the status has to be 400
or more. -/
theorem status_iff_of_no_attempt {failure : Failure} {status : Nat}
    (hstatus : failure.status? = some status) (h : 400 ≤ status) :
    (∃ response, failure.response? = some response ∧ response.status < 400) ↔
      LostAnswer s.gateway.service.backend.settings (upcoming script s) 0 := by
  refine iff_of_false ?_ (not_lostAnswer_zero _ _)
  rw [response?_iff failure (· < 400), hstatus]
  rintro ⟨_, heq, hlt⟩
  injection heq with heq
  omega

/-- **The status of a failed search**: `POST /search` is answered with the
envelope of a search or fails, and a failure is answered with a status below
400 if and only if all attempts were made and the last one lost an answer that
reports no failure. -/
theorem status_lt_400_iff_lostAnswer (r : Request) (hpath : r.path = "/search")
    (hmethod : r.method = "POST") :
    (∃ response, (handle pauses script s r).result = .ok response ∧
        AnswersSearch pauses script s r response) ∨
      (∃ failure, (handle pauses script s r).result = .error failure) ∧
        ((∃ response, (handle pauses script s r).response? = some response ∧
            response.status < 400) ↔
          LostAnswer s.gateway.service.backend.settings (upcoming script s)
            (handle pauses script s r).attempts) := by
  have hhandle : handle pauses script s r = handleSearch pauses script s r := by
    simp only [handle, hpath, hmethod]
  rw [hhandle]
  unfold handleSearch
  split
  · exact .inr ⟨⟨_, rfl⟩, status_iff_of_no_attempt script s rfl (Nat.le_refl 400)⟩
  · next queries hdecode =>
    cases hbatch : Batch.ofQueries queries with
    | error fault =>
        obtain ⟨hattempts, hresult⟩ :=
          search_of_open pauses script s r.term? queries (.inr ⟨fault, hbatch⟩)
        have hrun : outcomeOf pauses script s r.term? queries =
            { result := .error fault.error } := by
          simp [outcomeOf, Search.run, hbatch]
        rw [hrun] at hattempts hresult
        refine .inr ⟨⟨_, hresult⟩, ?_⟩
        rw [hattempts, Handled.response?, hresult]
        exact status_iff_of_no_attempt script s rfl (Nat.le_refl 400)
    | ok batch =>
        cases hcanceled : s.canceled with
        | true =>
            have hgiven : search pauses script s r.term? queries =
                { result := .error .canceled } := by
              simp [search, hcanceled, hbatch]
            rw [hgiven]
            exact .inr ⟨⟨_, rfl⟩, status_iff_of_no_attempt script s rfl (by decide : 400 ≤ 503)⟩
        | false =>
            obtain ⟨hattempts, hresult⟩ :=
              search_of_open pauses script s r.term? queries (.inl hcanceled)
            cases houtcome : (outcomeOf pauses script s r.term? queries).result with
            | ok envelope =>
                rw [houtcome] at hresult
                obtain ⟨_, _, reply, fields, hb, hf, hreply, henvelope, rfl⟩ :=
                  Search.run_eq_ok.mp houtcome
                injection hf with hf
                subst hf
                exact .inl ⟨_, hresult, queries, _, reply, fields, hdecode, hb, hreply,
                  henvelope, rfl⟩
            | error e =>
                rw [houtcome] at hresult
                refine .inr ⟨⟨_, hresult⟩, ?_⟩
                rw [hattempts, Handled.response?, hresult]
                rw [response?_iff _ (· < 400)]
                exact outcome_lost_iff pauses script s hbatch houtcome

end

/-! ## a lost answer -/

/-- A gateway whose backend runs on the same machine. -/
def localGateway : Gateway where
  service := {
    backend := {
      settings := { url := "http://[::1]:9200" }
      base := {
        scheme := "http", user := [], host := .ipv6 [0, 0, 0, 0, 0, 0, 0, 1], port := some 9200
        path := [[]], query := none, fragment := none } }
    aliases := .empty
    common := Stopwords.ofList [] }
  rules := ⟨[]⟩

/-- The search of a single query. -/
def loneSearch : Request where
  body := Alias.utf8 "\x7b\"query\":[\x7b\"id\":\"phones\",\"body\":\x7b\x7d\x7d]\x7d"

theorem status_lt_400_iff_lostAnswer_loneSearch :
    (loneSearch.path = "/search" ∧ loneSearch.method = "POST") ∧
      (∃ failure, (handle (fun _ => 0) (fun _ => .brokenOff 206) ⟨localGateway, false, 0⟩
        loneSearch).result = .error failure) ∧
      ((∃ response, (handle (fun _ => 0) (fun _ => .brokenOff 206) ⟨localGateway, false, 0⟩
          loneSearch).response? = some response ∧ response.status < 400) ↔
        LostAnswer localGateway.service.backend.settings
          (upcoming (fun _ => .brokenOff 206) ⟨localGateway, false, 0⟩)
          (handle (fun _ => 0) (fun _ => .brokenOff 206) ⟨localGateway, false, 0⟩
            loneSearch).attempts) := by
  refine ⟨by decide +kernel, ?_⟩
  rcases status_lt_400_iff_lostAnswer (fun _ => 0) (fun _ => .brokenOff 206)
    ⟨localGateway, false, 0⟩ loneSearch (by decide +kernel) (by decide +kernel) with
    ⟨response, hok, _⟩ | hfailed
  · have hfailed : (handle (fun _ => 0) (fun _ => .brokenOff 206) ⟨localGateway, false, 0⟩
        loneSearch).result.isOk = false := by decide +kernel
    rw [hok] at hfailed
    cases hfailed
  · exact hfailed

/-- With the settings of a local backend, a backend whose answers break off
under the status 200 makes the gateway answer a failed search with 200. -/
theorem failed_search_answered_200 :
    Gateway.ofSettings { backend := { url := "http://[::1]:9200" }, stopwords := some [] } =
        .ok localGateway ∧
      loneSearch.path = "/search" ∧ loneSearch.method = "POST" ∧
      (handle (fun _ => 0) (fun _ => .brokenOff 200) ⟨localGateway, false, 0⟩
        loneSearch).result.isOk = false ∧
      (handle (fun _ => 0) (fun _ => .brokenOff 200) ⟨localGateway, false, 0⟩
        loneSearch).response?.map Response.status = some 200 :=
  ⟨rfl, by decide +kernel⟩

end SearchRelay.Gateway
