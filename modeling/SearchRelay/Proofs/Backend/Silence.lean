import SearchRelay.Proofs.Backend.Address
import SearchRelay.Proofs.Backend.Deadline

/-!
# SearchRelay.Proofs.Backend.Silence

How long an exchange takes with a backend that never answers.

1. `elapsed_le` — whatever the backend does, no exchange goes on beyond the time
   for all of it, by induction on the retries that are left.
2. `begins_of_silent` — without an answer, an attempt begins when the attempts and
   the pauses before it are over.
3. So either the time runs out, or the last attempt is over before that
   (`deadlineLaw_run`).  This is how a backend that never answers is asked, if it is
   asked at all: an exchange whose address cannot be sent ends at once
   (`deadlineLaw_exchange`).
-/

namespace SearchRelay.Backend.Exchange

/-! ## the time for an exchange -/

/- An attempt may take as long as one attempt may, or as long as there is time left, and
a pause must end in time. The induction is on the budget. -/

/-- Whatever the backend does, the time for all attempts is kept. -/
theorem elapsed_continueFrom_le (s : Settings) (pauses : Nat → Nat) (script : Script) (left : Nat)
    (done : List Reply) (elapsed : Nat) :
    (continueFrom s pauses script left done elapsed).elapsed ≤ s.totalTimeout * 1000 := by
  induction left generalizing done elapsed with
  | zero =>
      rw [continueFrom]
      dsimp only
      split
      · exact Nat.le_refl _
      · next hintime =>
        have hintime := Nat.le_of_not_lt hintime
        split
        · exact hintime
        · exact hintime
  | succ left ih =>
      rw [continueFrom]
      dsimp only
      split
      · exact Nat.le_refl _
      · next hintime =>
        split
        · exact Nat.le_of_not_lt hintime
        · split
          · exact Nat.le_refl _
          · exact ih _ _

/-- No exchange takes longer than the time for all of it. -/
theorem elapsed_le (s : Settings) (pauses : Nat → Nat) (script : Script) :
    (run s pauses script).elapsed ≤ s.totalTimeout * 1000 :=
  elapsed_continueFrom_le s pauses script _ _ _

/-! ## a backend that never answers -/

/- Each attempt takes its full time, so the time after so many attempts is known: the
attempts and the pauses so far. -/

/-- No attempt is answered. -/
def silence : Script := fun _ => .silent

/-- How long all attempts that are allowed take without an answer, with the pauses
between them. -/
def timeNeeded (s : Settings) (pauses : Nat → Nat) : Nat :=
  (s.maxRetries.toNat + 1) * (s.timeout * 1000) + waited pauses s.maxRetries.toNat

/-- How an exchange ends without an answer. -/
structure DeadlineLaw (s : Settings) (pauses : Nat → Nat) (e : Exchange) : Prop where
  /-- The time is over within an attempt or a pause. -/
  timeout : s.totalTimeout * 1000 < timeNeeded s pauses →
    e.result = .error (timedOut s) ∧ e.elapsed = s.totalTimeout * 1000
  /-- All attempts are over before that. -/
  exhausted : timeNeeded s pauses < s.totalTimeout * 1000 →
    (∃ reason, e.result = .error (.upstreamUnavailable none reason)) ∧
      e.replies = List.replicate (s.maxRetries.toNat + 1) .silent ∧
      e.elapsed = timeNeeded s pauses

section

variable (s : Settings) (pauses : Nat → Nat)

theorem transient_of_silent (attempt : Nat) : (silence attempt).Transient := ⟨_, _, rfl⟩

theorem map_silence (attempts : Nat) :
    (List.range attempts).map silence = List.replicate attempts .silent := by
  refine List.eq_replicate_iff.mpr ⟨by simp, fun reply hreply => ?_⟩
  obtain ⟨_, _, rfl⟩ := List.mem_map.mp hreply
  rfl

/-- Where no attempt is answered, each one takes its whole time. -/
theorem begins_of_silent (attempt : Nat) :
    begins s pauses silence attempt = attempt * (s.timeout * 1000) + waited pauses attempt := by
  induction attempt with
  | zero => simp [begins, waited]
  | succ attempt ih =>
      have hduration : (silence attempt).duration s = s.timeout * 1000 := rfl
      rw [begins, ih, hduration, waited, Nat.succ_mul]
      omega

/-- The last attempt, if the exchange gets to it. -/
theorem atAttempt_of_last :
    atAttempt s pauses silence s.maxRetries.toNat =
      if s.totalTimeout * 1000 < timeNeeded s pauses then
        expired s (List.replicate (budget s) .silent)
      else
        ⟨.error (exhausted none "backend request failed: no answer in time" (budget s)),
          List.replicate (budget s) .silent, timeNeeded s pauses⟩ := by
  have hreplies : (madeBefore silence (budget s)).reverse = List.replicate (budget s) .silent :=
    (List.reverse_reverse _).trans (map_silence _)
  have hneeded : begins s pauses silence s.maxRetries.toNat + s.timeout * 1000 =
      timeNeeded s pauses := by
    rw [begins_of_silent, timeNeeded, Nat.succ_mul]
    omega
  have hduration : (silence s.maxRetries.toNat).duration s = s.timeout * 1000 := rfl
  rw [atAttempt, Nat.sub_self, continueFrom]
  simp only [length_madeBefore, cons_madeBefore, hduration, hneeded]
  rw [← budget, hreplies]
  rfl

/-- The law holds of every exchange with a silent backend. -/
theorem deadlineLaw_run : DeadlineLaw s pauses (run s pauses silence) := by
  have hbefore : ∀ i, i < s.maxRetries.toNat → (silence i).Transient :=
    fun i _ => transient_of_silent i
  have hneeded : begins s pauses silence s.maxRetries.toNat ≤ timeNeeded s pauses := by
    rw [begins_of_silent, timeNeeded, Nat.succ_mul]
    omega
  have hreached : begins s pauses silence s.maxRetries.toNat ≤ s.totalTimeout * 1000 →
      run s pauses silence = atAttempt s pauses silence s.maxRetries.toNat :=
    fun hintime => run_eq_atAttempt (Nat.le_refl _) hbefore hintime
  constructor
  · intro hshort
    by_cases hlate : s.totalTimeout * 1000 < begins s pauses silence s.maxRetries.toNat
    · obtain ⟨replies, hrun⟩ := run_eq_expired (Nat.le_refl _) hbefore hlate
      rw [hrun]
      exact ⟨rfl, rfl⟩
    · rw [hreached (Nat.le_of_not_lt hlate), atAttempt_of_last, if_pos hshort]
      exact ⟨rfl, rfl⟩
  · intro hlong
    rw [hreached (by omega), atAttempt_of_last, if_neg (Nat.lt_asymm hlong)]
    exact ⟨⟨_, rfl⟩, rfl, rfl⟩

end

end SearchRelay.Backend.Exchange

namespace SearchRelay.Backend

/-- Whatever the backend does, no exchange takes longer than the time for all of it. -/
theorem elapsed_exchange_le (b : Backend) (pauses : Nat → Nat) (script : Script) (batch : Batch) :
    (b.exchange pauses script batch).elapsed ≤ b.settings.totalTimeout * 1000 := by
  rcases exchange_cases b pauses script batch with ⟨_, -, -, hrun⟩ | ⟨_, -, hexchange⟩
  · rw [hrun]
    exact Exchange.elapsed_le b.settings pauses script
  · rw [hexchange]
    exact Nat.zero_le _

/-- **The time for an exchange**: the address of a batch is a URL.  If it can be sent, the
exchange with a backend that never answers ends with the time for all of it, if all
attempts and the pauses between them take longer, and else when all attempts are over.
If it cannot be sent, the exchange ends at once and without an attempt, whatever the
backend would do.  In no case does it go on beyond the time for all of it. -/
theorem deadlineLaw_exchange {s : Settings} {b : Backend} (hb : ofSettings s = .ok b)
    (hretries : s.maxRetries.toNat + 1 < UInt32.size) (pauses : Nat → Nat) (batch : Batch) :
    ∃ url, Url.parse (b.address batch.indices) = .ok (some url) ∧
      (url.isSendable = true →
        Exchange.DeadlineLaw s pauses (b.exchange pauses Exchange.silence batch)) ∧
      (url.isSendable = false → ∀ script,
        (b.exchange pauses script batch).replies = [] ∧
        (b.exchange pauses script batch).elapsed = 0 ∧
        ∃ reason,
          (b.exchange pauses script batch).result = .error (.upstreamUnavailable none reason)) ∧
      ∀ script, (b.exchange pauses script batch).elapsed ≤ s.totalTimeout * 1000 := by
  obtain ⟨url, hurl, hrequest⟩ := exists_address hb batch
  obtain rfl := (parse_of_ofSettings hb).1
  refine ⟨url, hurl, fun hsendable => ?_, fun hunsendable script => ?_,
    fun script => elapsed_exchange_le b pauses script batch⟩
  · rw [hsendable, if_pos rfl] at hrequest
    rw [exchange_of_request hretries hrequest]
    exact Exchange.deadlineLaw_run b.settings pauses
  · rw [hunsendable, if_neg Bool.false_ne_true] at hrequest
    rw [exchange_of_unsendable hretries hrequest]
    exact ⟨rfl, rfl, _, rfl⟩

/-- A backend that may take a minute. -/
def leisurelyBackend : Backend := { patientBackend with
  settings := { url := "http://[::1]:9200", totalTimeout := 60 } }

/-- Three attempts of ten seconds with tenths of a second between them are over before
a minute, but not before half a minute. -/
theorem deadlineLaw_exchange_halfMinute :
    ofSettings patientBackend.settings = .ok patientBackend ∧
      ofSettings leisurelyBackend.settings = .ok leisurelyBackend ∧
      patientBackend.settings.maxRetries.toNat + 1 < UInt32.size ∧
      leisurelyBackend.settings.maxRetries.toNat + 1 < UInt32.size ∧
      (patientBackend.exchange (fun _ => 100) Exchange.silence loneBatch).result =
        .error (Exchange.timedOut patientBackend.settings) ∧
      (patientBackend.exchange (fun _ => 100) Exchange.silence loneBatch).elapsed = 30000 ∧
      (∃ reason, (leisurelyBackend.exchange (fun _ => 100) Exchange.silence loneBatch).result =
        .error (.upstreamUnavailable none reason)) ∧
      (leisurelyBackend.exchange (fun _ => 100) Exchange.silence loneBatch).replies =
        [.silent, .silent, .silent] ∧
      (leisurelyBackend.exchange (fun _ => 100) Exchange.silence loneBatch).elapsed = 30200 := by
  have hpatient : ofSettings patientBackend.settings = .ok patientBackend := rfl
  have hleisurely : ofSettings leisurelyBackend.settings = .ok leisurelyBackend := rfl
  have hretries : (2 : UInt32).toNat + 1 < UInt32.size := by decide
  have hrequest : patientBackend.request? loneBatch = some loneRequest := by decide +kernel
  have hsent : leisurelyBackend.request? loneBatch = some loneRequest := hrequest
  obtain ⟨_, hurl, hlaw, -⟩ := deadlineLaw_exchange hpatient hretries (fun _ => 100) loneBatch
  have hshort := hlaw (isSendable_of_request hrequest hurl)
  obtain ⟨_, hurl, hlaw, -⟩ := deadlineLaw_exchange hleisurely hretries (fun _ => 100) loneBatch
  have hlong := hlaw (isSendable_of_request hsent hurl)
  obtain ⟨hresult, helapsed⟩ := hshort.timeout (by decide)
  obtain ⟨hreason, hreplies, htime⟩ := hlong.exhausted (by decide)
  exact ⟨hpatient, hleisurely, hretries, hretries, hresult, helapsed, hreason, hreplies, htime⟩

/-- At an address that is too long a backend that never answers is given up at once, and
not when three attempts are over. -/
theorem exchange_unsent_at_once :
    ofSettings leisurelyBackend.settings = .ok leisurelyBackend ∧
      Batch.ofQueries longBatch.queries = .ok longBatch ∧
      leisurelyBackend.settings.maxRetries.toNat + 1 < UInt32.size ∧
      Exchange.timeNeeded leisurelyBackend.settings (fun _ => 100) = 30200 ∧
      leisurelyBackend.settings.totalTimeout = 60 ∧
      (leisurelyBackend.exchange (fun _ => 100) Exchange.silence longBatch).replies = [] ∧
      (leisurelyBackend.exchange (fun _ => 100) Exchange.silence longBatch).elapsed = 0 ∧
      ¬ Exchange.DeadlineLaw leisurelyBackend.settings (fun _ => 100)
        (leisurelyBackend.exchange (fun _ => 100) Exchange.silence longBatch) := by
  have hbackend : ofSettings leisurelyBackend.settings = .ok leisurelyBackend := rfl
  rw [exchange_of_unsendable (by decide) (request?_longBatch hbackend rfl rfl)]
  refine ⟨hbackend, ofQueries_batchFor _, by decide, by decide, rfl, rfl, rfl, fun hlaw => ?_⟩
  have htime := (hlaw.exhausted (by decide)).2.2
  exact absurd htime (by decide)

end SearchRelay.Backend
