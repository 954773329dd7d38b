import SearchRelay.Proofs.Backend.Deadline
import SearchRelay.Proofs.Gateway.Status
import SearchRelay.Proofs.Text.Lossy

/-!
# SearchRelay.Proofs.Gateway.Rejection

What a client is told when the backend rejects a search.

A rejection goes to the client with the status that the backend gave it.  Its
body becomes a text on the way, so the client gets the very bytes of the backend
if and only if they are UTF-8 (`Text.Utf8.utf8_textOf_eq_iff`).

1. `exchange_of_received` — the rejection is the result of the exchange if the
   gateway waits for it (`Received`);
2. `exchange_of_not_received` — otherwise the exchange fails with a status that
   is no client error;
3. `rejection_passed_on_iff` — so a client is answered with status and body of a
   rejection if and only if the gateway waits for it and its body is UTF-8.
-/

namespace SearchRelay.Gateway

open Json Http Failure Backend

/-! ## the exchange -/

/- A rejection is final, so the attempt that receives it is the last one. `Received`
says that an attempt with this number is made if those before it were retried. -/

/-- An exchange gets to an attempt: the attempts can be counted, the batch is sent, the
attempt is allowed, and it begins within the time for all of them. -/
structure Received (b : Backend) (pauses : Nat → Nat) (script : Script) (batch : Batch)
    (attempt : Nat) : Prop where
  counted : Exchange.Countable b.settings
  sent : (b.request? batch).isSome
  allowed : attempt < Exchange.budget b.settings
  inTime : Exchange.begins b.settings pauses script attempt ≤ b.settings.totalTimeout * 1000

section

variable {b : Backend} {pauses : Nat → Nat} {script : Script} {batch : Batch} {attempt : Nat}

/-- A request that can be sent is sent, as the script has it. -/
theorem exchange_of_sent (hcount : Exchange.Countable b.settings)
    (h : (b.request? batch).isSome) :
    b.exchange pauses script batch = Exchange.run b.settings pauses script := by
  obtain ⟨request, hrequest⟩ := Option.isSome_iff_exists.mp h
  exact exchange_of_request hcount hrequest pauses script

/-- The result of an exchange is the first rejection that it gets to. -/
theorem exchange_of_received {status : Nat} {body : List UInt8}
    (hreceived : Received b pauses script batch attempt)
    (hbefore : ∀ i, i < attempt → (script i).Retried)
    (hrejection : script attempt = .complete status body) (hstatus : 400 ≤ status ∧ status < 500) :
    (b.exchange pauses script batch).result =
      .error (.backendRejected status (Text.Utf8.textOf body)) := by
  have hserver : ¬ isServerError status = true := by
    rw [isServerError_iff]
    omega
  have hverdict : (script attempt).verdict =
      .final (.error (.backendRejected status (Text.Utf8.textOf body))) := by
    rw [hrejection, Reply.verdict, if_neg hserver, verdictOf,
      if_pos ((isClientError_iff status).mpr hstatus)]
  rw [exchange_of_sent hreceived.counted hreceived.sent]
  exact Exchange.result_of_final (Nat.le_of_lt_succ hreceived.allowed)
    (fun i hi => (hbefore i hi).transient) hreceived.inTime hverdict

/-- A failed search is answered with the status of a client error. -/
def ReportsClientError (e : Error) : Prop :=
  ∃ status, searchStatus? e = some status ∧ 400 ≤ status ∧ status < 500

/-- Any other status reports something else than a fault of the client. -/
theorem not_reportsClientError {e : Error} {status : Nat} (h : searchStatus? e = some status)
    (hother : ¬ (400 ≤ status ∧ status < 500)) : ¬ ReportsClientError e := by
  rintro ⟨_, heq, hclient⟩
  rw [h] at heq
  injection heq with heq
  exact hother (heq ▸ hclient)

/-- No attempt that is tried again hands down the status of a client error. -/
theorem not_clientError_of_retried {reply : Reply} (h : reply.Retried) (reason : String) :
    ¬ ReportsClientError (.upstreamUnavailable reply.status? reason) := by
  cases reply with
  | complete status body =>
      have hserver : 500 ≤ status ∧ status < 600 := h
      refine not_reportsClientError (searchStatus?_upstream status reason) ?_
      split <;> omega
  | brokenOff status =>
      have hclient : ¬ (400 ≤ status ∧ status < 500) := h.1
      refine not_reportsClientError (searchStatus?_upstream status reason) ?_
      split <;> omega
  | dropped | silent | refused =>
      exact not_reportsClientError rfl (by decide : ¬ (400 ≤ 502 ∧ 502 < 500))

/-- An exchange that does not get to an attempt, and tries all replies before it
again, fails, but not with the status of a client error. -/
theorem exchange_of_not_received (hreceived : ¬ Received b pauses script batch attempt)
    (hbefore : ∀ i, i < attempt → (script i).Retried) :
    ∃ e, (b.exchange pauses script batch).result = .error e ∧ ¬ ReportsClientError e := by
  rcases exchange_cases b pauses script batch with
    ⟨request, hrequest, hcount, hrun⟩ | ⟨error, herror, hexchange⟩
  · have hsent : (b.request? batch).isSome := by rw [hrequest]; rfl
    have htimedOut : ¬ ReportsClientError (Exchange.timedOut b.settings) :=
      not_reportsClientError rfl (by decide : ¬ (400 ≤ 504 ∧ 504 < 500))
    rw [hrun]
    by_cases hallowed : attempt < Exchange.budget b.settings
    · -- the attempt would begin too late
      have hlate : b.settings.totalTimeout * 1000 <
          Exchange.begins b.settings pauses script attempt :=
        Nat.lt_of_not_le fun hintime => hreceived ⟨hcount, hsent, hallowed, hintime⟩
      exact ⟨_, Exchange.run_of_late (Nat.le_of_lt_succ hallowed)
        (fun i hi => (hbefore i hi).transient) hlate, htimedOut⟩
    · -- all attempts that are allowed come before it
      obtain ⟨n, hn, _, _, hends⟩ := Exchange.run_ends b.settings pauses script
      have hretried := hbefore n (by omega)
      obtain ⟨_, hverdict⟩ := verdict_of_retried hretried
      generalize hresult : (Exchange.run b.settings pauses script).result = result at hends
      cases hends with
      | expired _ => exact ⟨_, rfl, htimedOut⟩
      | final hfinal =>
          rw [hverdict] at hfinal
          cases hfinal
      | exhausted _ htransient =>
          rw [hverdict] at htransient
          injection htransient with hstatus
          rw [← hstatus]
          exact ⟨_, rfl, not_clientError_of_retried hretried _⟩
  · rw [hexchange]
    refine ⟨error, rfl, ?_⟩
    rcases herror with rfl | rfl
    · exact not_reportsClientError rfl (by decide : ¬ (400 ≤ 502 ∧ 502 < 500))
    · exact fun ⟨_, hstatus, _⟩ => nomatch hstatus

end

/-! ## the answer -/

section

variable (pauses : Nat → Nat) (script : Script) {s : State} {r : Request} {queries : List Query}
  {batch : Batch}

/-- A failed exchange fails the search. -/
theorem response?_of_exchange {term : Option String} {e : Error} (hopen : s.canceled = false)
    (hbatch : Batch.ofQueries queries = .ok batch)
    (h : (s.gateway.service.backend.exchange pauses (upcoming script s) batch).result = .error e) :
    (search pauses script s term queries).response? = (Failure.search e).response? := by
  have hresult := (search_of_open pauses script s term queries (.inl hopen)).2
  rw [outcomeOf, (Search.run_of_batch hbatch rfl).2, h] at hresult
  rw [Handled.response?, hresult]
  rfl

/-- **What becomes of a rejection**: let all replies before an attempt be tried
again, and let the reply to it be a complete rejection.  If the gateway waits for
it, the client gets its status, and the bytes of its body read as a text.  So the
client gets status and body as they are if and only if the gateway waits for them
and the body is UTF-8. -/
theorem rejection_passed_on_iff (hpath : r.path = "/search") (hmethod : r.method = "POST")
    (hqueries : decodeBytes Query.decodeRequest r.body = .ok queries)
    (hbatch : Batch.ofQueries queries = .ok batch) {attempt status : Nat} {body : List UInt8}
    (hbefore : ∀ i, i < attempt → (upcoming script s i).Retried)
    (hrejection : upcoming script s attempt = .complete status body)
    (hstatus : 400 ≤ status ∧ status < 500) :
    (s.canceled = false →
        Received s.gateway.service.backend pauses (upcoming script s) batch attempt →
        ∃ response, (handle pauses script s r).response? = some response ∧
          response.status = status ∧ response.body = Alias.utf8 (Text.Utf8.textOf body)) ∧
      ((∃ response, (handle pauses script s r).response? = some response ∧
          response.status = status ∧ response.body = body) ↔
        s.canceled = false ∧
          Received s.gateway.service.backend pauses (upcoming script s) batch attempt ∧
          ∃ text, body = Alias.utf8 text) := by
  rw [handle_search pauses script hpath hmethod hqueries]
  have hpassedOn : passedOn status 400 = status := by
    rw [passedOn, if_pos]
    simp [isStatus]
    omega
  have hreceivedBody : s.canceled = false →
      Received s.gateway.service.backend pauses (upcoming script s) batch attempt →
      (search pauses script s r.term? queries).response? =
        some (.ofText status (Text.Utf8.textOf body)) := by
    intro hopen hreceived
    rw [response?_of_exchange pauses script hopen hbatch
      (exchange_of_received hreceived hbefore hrejection hstatus)]
    have hstatus? : (Failure.search (.backendRejected status (Text.Utf8.textOf body))).status? =
        some status := congrArg some hpassedOn
    rw [response?, hstatus?]
    rfl
  refine ⟨fun hopen hreceived => ⟨_, hreceivedBody hopen hreceived, rfl, rfl⟩, ?_⟩
  cases hcanceled : s.canceled with
  | true =>
      have hgiven : search pauses script s r.term? queries = { result := .error .canceled } := by
        simp [search, hcanceled, hbatch]
      have hunavailable : (search pauses script s r.term? queries).response? =
          some { status := 503 } := by
        rw [hgiven]
        rfl
      constructor
      · rintro ⟨response, hresponse, hsame, _⟩
        obtain rfl := Option.some.inj (hunavailable.symm.trans hresponse)
        have hsame : 503 = status := hsame
        omega
      · rintro ⟨hopen, _⟩
        contradiction
  | false =>
      by_cases hreceived :
          Received s.gateway.service.backend pauses (upcoming script s) batch attempt
      · have hbody : (Response.ofText status (Text.Utf8.textOf body)).body = body ↔
            ∃ text, body = Alias.utf8 text := Text.Utf8.utf8_textOf_eq_iff body
        rw [hreceivedBody hcanceled hreceived]
        constructor
        · rintro ⟨response, hresponse, -, hsame⟩
          obtain rfl := Option.some.inj hresponse
          exact ⟨rfl, hreceived, hbody.mp hsame⟩
        · rintro ⟨-, -, htext⟩
          exact ⟨_, rfl, rfl, hbody.mpr htext⟩
      · -- the status already tells the answer from a rejection
        obtain ⟨e, hresult, hother⟩ := exchange_of_not_received hreceived hbefore
        rw [response?_of_exchange pauses script hcanceled hbatch hresult]
        constructor
        · rintro ⟨response, hresponse, hsame, _⟩
          obtain ⟨code, hcode, hclient⟩ :=
            (response?_iff (.search e) (· = status)).mp ⟨response, hresponse, hsame⟩
          exact absurd ⟨code, hcode, hclient ▸ hstatus⟩ hother
        · rintro ⟨_, hreceived', _⟩
          contradiction

end

/-! ## two rejections -/

/-- A failure of the backend, then a rejection. -/
def rejectedWith (body : List UInt8) : Script
  | 0 => .complete 503 []
  | _ => .complete 400 body

/-- The gateway before its first request. -/
def freshGateway : State := ⟨localGateway, false, 0⟩

/-- The batch of a single query, without an index. -/
def looseBatch : Batch where
  queries := [{ id := "phones", body := some (.object []) }]
  payload := "\x7b\x7d\n\x7b\x7d\n"

theorem decodeBytes_loneSearch :
    decodeBytes Query.decodeRequest loneSearch.body = .ok looseBatch.queries :=
  Except.toOption_eq_some.mp (by decide +kernel)

/-- A rejection with a letter beyond ASCII is passed on as it came. -/
theorem rejection_passed_on_iff_parsing :
    (loneSearch.path = "/search" ∧ loneSearch.method = "POST") ∧
      decodeBytes Query.decodeRequest loneSearch.body = .ok looseBatch.queries ∧
      Batch.ofQueries looseBatch.queries = .ok looseBatch ∧
      (∀ i, i < 1 → (upcoming (rejectedWith (Alias.utf8 "é")) freshGateway i).Retried) ∧
      upcoming (rejectedWith (Alias.utf8 "é")) freshGateway 1 = .complete 400 (Alias.utf8 "é") ∧
      Received localGateway.service.backend (fun _ => 250)
        (upcoming (rejectedWith (Alias.utf8 "é")) freshGateway) looseBatch 1 ∧
      ∃ response, (handle (fun _ => 250) (rejectedWith (Alias.utf8 "é")) freshGateway
        loneSearch).response? = some response ∧
        response.status = 400 ∧ response.body = Alias.utf8 "é" := by
  have hpath : loneSearch.path = "/search" := by decide +kernel
  have hmethod : loneSearch.method = "POST" := rfl
  have hqueries := decodeBytes_loneSearch
  have hbatch : Batch.ofQueries looseBatch.queries = .ok looseBatch := rfl
  have hbefore : ∀ i, i < 1 →
      (upcoming (rejectedWith (Alias.utf8 "é")) freshGateway i).Retried := by
    intro i hi
    obtain rfl : i = 0 := by omega
    exact (by decide : 500 ≤ 503 ∧ 503 < 600)
  have hreceived : Received localGateway.service.backend (fun _ => 250)
      (upcoming (rejectedWith (Alias.utf8 "é")) freshGateway) looseBatch 1 :=
    ⟨by decide, by decide +kernel, by decide, by decide⟩
  have hiff := (rejection_passed_on_iff (fun _ => 250) (rejectedWith (Alias.utf8 "é"))
    (s := freshGateway) hpath hmethod hqueries hbatch hbefore rfl (by decide)).2
  exact ⟨⟨hpath, hmethod⟩, hqueries, hbatch, hbefore, rfl, hreceived,
    hiff.mpr ⟨rfl, hreceived, "é", rfl⟩⟩

/-- A rejection whose body is one byte that is no text reaches the client with
another body of three bytes. -/
theorem rejection_body_changed :
    Gateway.ofSettings { backend := { url := "http://[::1]:9200" }, stopwords := some [] } =
        .ok localGateway ∧
      (loneSearch.path = "/search" ∧ loneSearch.method = "POST") ∧
      decodeBytes Query.decodeRequest loneSearch.body = .ok looseBatch.queries ∧
      Batch.ofQueries looseBatch.queries = .ok looseBatch ∧
      upcoming (rejectedWith [0xff]) freshGateway 0 = .complete 503 [] ∧
      upcoming (rejectedWith [0xff]) freshGateway 1 = .complete 400 [0xff] ∧
      (handle (fun _ => 250) (rejectedWith [0xff]) freshGateway loneSearch).response? =
        some (.ofText 400 "\ufffd") ∧
      (Response.ofText 400 "\ufffd").body = [0xef, 0xbf, 0xbd] := by
  exact ⟨rfl, by decide +kernel, decodeBytes_loneSearch, rfl, rfl, rfl, by decide +kernel,
    by decide +kernel⟩

end SearchRelay.Gateway
