import SearchRelay.Proofs.Backend.Address
import SearchRelay.Proofs.Retry

/-!
# SearchRelay.Proofs.Backend.Budget

How many attempts an exchange makes before it gives up.

The attempts that are allowed are counted in 32 bits, one more than the retries.  Settings
may ask for so many retries that this sum does not fit, and then the exchange breaks down
before its first attempt.

1. `toNat_add_one_iff` — when one can be added to the number of retries; where it cannot,
   the sum begins again at zero (`toNat_add_one_of_uncountable`).
2. `not_overflow_of_run` — no run breaks down, so an exchange does if and only if its
   attempts cannot be counted.
3. `length_replies_of_givenUp` — an exchange whose attempts all fail makes as many of them
   as the budget allows, unless its time runs out.

`countLaw_exchange` puts them together for the exchange of any batch.
-/

namespace SearchRelay.Backend

namespace Exchange

/-! ## the sum -/

/-- Only the largest number of retries cannot be counted up. -/
theorem toNat_maxRetries_of_uncountable {s : Settings} (h : ¬ Countable s) :
    s.maxRetries.toNat + 1 = UInt32.size :=
  Nat.le_antisymm s.maxRetries.toNat_lt (Nat.le_of_not_lt h)

/-- Without a check the sum begins again at zero. -/
theorem toNat_add_one_of_uncountable {s : Settings} (h : ¬ Countable s) :
    (s.maxRetries + 1).toNat = 0 := by
  have hsum : s.maxRetries.toNat + (1 : UInt32).toNat = 2 ^ 32 :=
    toNat_maxRetries_of_uncountable h
  rw [UInt32.toNat_add, hsum, Nat.mod_self]

/-- One is added to the number of retries without a carry if and only if the sum has 32
bits. -/
theorem toNat_add_one_iff (s : Settings) :
    (s.maxRetries + 1).toNat = s.maxRetries.toNat + 1 ↔ Countable s := by
  constructor
  · intro hsum
    rw [Countable, budget, ← hsum]
    exact (s.maxRetries + 1).toNat_lt
  · intro h
    rw [UInt32.toNat_add]
    exact Nat.mod_eq_of_lt h

/-! ## runs -/

/-- No reply breaks an exchange down. -/
theorem not_overflow_of_final {reply : Reply} :
    reply.verdict ≠ .final (.error .overflow) := by
  intro h
  by_cases hretried : reply.Retried
  · obtain ⟨_, htransient⟩ := verdict_of_retried hretried
    rw [htransient] at h
    cases h
  · obtain ⟨result, hfinal, hclassified⟩ := verdict_of_not_retried hretried
    obtain rfl : result = .error .overflow := Verdict.final.inj (hfinal.symm.trans h)
    cases reply with
    | complete status body =>
        simp only [Reply.Classified] at hclassified
        split at hclassified
        · cases hclassified
        · split at hclassified
          · split at hclassified
            · cases hclassified
            · obtain ⟨_, hclassified⟩ := hclassified
              cases hclassified
          · obtain ⟨_, hclassified⟩ := hclassified
            cases hclassified
    | brokenOff status =>
        simp only [Reply.Classified] at hclassified
        split at hclassified
        · cases hclassified
        · obtain ⟨_, hclassified⟩ := hclassified
          cases hclassified
    | dropped | silent | refused => exact hclassified

/-- Attempts that are counted do not overflow. -/
theorem not_overflow_of_run (s : Settings) (pauses : Nat → Nat) (script : Script) :
    (run s pauses script).result ≠ .error .overflow := by
  intro h
  obtain ⟨n, -, -, -, hends⟩ := run_ends s pauses script
  rw [h] at hends
  cases hends with
  | final hfinal => exact not_overflow_of_final hfinal

/-- A run whose attempts all fail, and whose time does not run out, makes all that are
allowed. -/
theorem length_replies_of_givenUp {s : Settings} {pauses : Nat → Nat} {script : Script}
    (hfails : ∀ reply ∈ (run s pauses script).replies, reply.Transient)
    (hintime : (run s pauses script).result ≠ .error (timedOut s)) :
    (run s pauses script).replies.length = budget s ∧
      ∃ status reason, (run s pauses script).result =
        .error (exhausted status reason (budget s)) := by
  obtain ⟨n, -, hreplies, -, hends⟩ := run_ends s pauses script
  have hlength : (run s pauses script).replies.length = n + 1 := by
    rw [hreplies, List.length_map, List.length_range]
  have hlast : (script n).Transient := by
    refine hfails _ ?_
    rw [hreplies]
    exact List.mem_map.mpr ⟨n, List.mem_range.mpr (Nat.lt_succ_self n), rfl⟩
  generalize (run s pauses script).result = result at hends hintime ⊢
  cases hends with
  | expired _ => exact absurd rfl hintime
  | final hfinal =>
      obtain ⟨status, reason, htransient⟩ := hlast
      rw [hfinal] at htransient
      cases htransient
  | @exhausted status reason hmost _ =>
      rw [hmost] at hlength
      exact ⟨hlength, status, reason, by rw [hmost]⟩

/-! ## the law -/

/- The number of attempts is computed by an addition that may overflow. Where it does
not, an exchange that was answered by transient replies only has made as many attempts
as that, unless time ran out. -/

/-- How the attempts of an exchange are counted, if what is asked for is sent or not. -/
structure CountLaw (s : Settings) (sent : Prop) (e : Exchange) : Prop where
  /-- One is added to the number of retries without a carry if and only if the sum has 32
  bits. -/
  sum : (s.maxRetries + 1).toNat = s.maxRetries.toNat + 1 ↔ Countable s
  /-- With a carry nothing is left of the sum. -/
  carry : ¬ Countable s → (s.maxRetries + 1).toNat = 0
  /-- An exchange breaks down if and only if the sum has more bits. -/
  breaksDown : e.result = .error .overflow ↔ ¬ Countable s
  /-- An attempt is made if and only if the attempts can be counted, and there is
  something to send. -/
  attempted : e.replies ≠ [] ↔ Countable s ∧ sent
  /-- The number of every attempt has 32 bits. -/
  number : e.replies.length < UInt32.size
  /-- If attempts are made and every one fails, and the time does not run out, the exchange
  gives up after all retries. -/
  givesUp : e.replies ≠ [] → (∀ reply ∈ e.replies, reply.Transient) →
    e.result ≠ .error (timedOut s) → e.replies.length = s.maxRetries.toNat + 1 ∧
      ∃ status reason, e.result = .error (exhausted status reason e.replies.length)

/-- An exchange whose request can be sent keeps to the law of its attempts. -/
theorem countLaw_run {s : Settings} (hcount : Countable s) {sent : Prop} (hsent : sent)
    (pauses : Nat → Nat) (script : Script) : CountLaw s sent (run s pauses script) where
  sum := toNat_add_one_iff s
  carry := toNat_add_one_of_uncountable
  breaksDown := iff_of_false (not_overflow_of_run s pauses script) (not_not_intro hcount)
  attempted := iff_of_true
    (List.ne_nil_of_length_pos (length_replies_run s pauses script).1) ⟨hcount, hsent⟩
  number := Nat.lt_of_le_of_lt (length_replies_run s pauses script).2 hcount
  givesUp := by
    intro _ hfails hintime
    obtain ⟨hlength, status, reason, hresult⟩ := length_replies_of_givenUp hfails hintime
    exact ⟨hlength, status, reason, hlength ▸ hresult⟩

/-- An exchange without an attempt breaks down, or has nothing to send. -/
theorem countLaw_withoutAttempt {s : Settings} {sent : Prop} {error : Error}
    (herror : error = .overflow ↔ ¬ Countable s) (hsent : ¬ (Countable s ∧ sent)) :
    CountLaw s sent (withoutAttempt error) where
  sum := toNat_add_one_iff s
  carry := toNat_add_one_of_uncountable
  breaksDown := by
    rw [← herror]
    exact ⟨Except.error.inj, congrArg Except.error⟩
  attempted := iff_of_false (fun h => h rfl) hsent
  number := (by decide : 0 < UInt32.size)
  givesUp := fun h => absurd rfl h

end Exchange

/-- **The retry budget**: an exchange breaks down if and only if its settings allow the
largest number of retries that 32 bits can hold.  Otherwise attempts are numbered within
32 bits, and an exchange whose attempts all fail in time gives up after all retries. -/
theorem countLaw_exchange (b : Backend) (pauses : Nat → Nat) (script : Script) (batch : Batch) :
    Exchange.CountLaw b.settings (b.request? batch).isSome (b.exchange pauses script batch) := by
  by_cases hcount : Exchange.Countable b.settings
  · cases hrequest : b.request? batch with
    | some request =>
        rw [exchange_of_request hcount hrequest]
        exact Exchange.countLaw_run hcount rfl pauses script
    | none =>
        rw [exchange_of_unsendable hcount hrequest]
        exact Exchange.countLaw_withoutAttempt
          (iff_of_false (fun h => nomatch h) (not_not_intro hcount)) fun h => nomatch h.2
  · rw [exchange_of_uncountable hcount]
    exact Exchange.countLaw_withoutAttempt (iff_of_true rfl hcount) fun h => hcount h.1

/-- A backend that is to be asked as often as 32 bits can say. -/
def tirelessBackend : Backend := { hastyBackend with
  settings := { hastyBackend.settings with maxRetries := 4294967295 } }

/-- Settings that allow the largest number of retries are valid, but no exchange under
them makes a single attempt: the number of attempts has become zero, or what adds it up
breaks down. -/
theorem exchange_breaks_down :
    ofSettings tirelessBackend.settings = .ok tirelessBackend ∧
      Batch.ofQueries loneBatch.queries = .ok loneBatch ∧
      tirelessBackend.settings.maxRetries.toNat = 4294967295 ∧
      (tirelessBackend.settings.maxRetries + 1).toNat = 0 ∧ Reply.refused.Transient ∧
      (tirelessBackend.exchange (Settings.pauseOf tirelessBackend.settings.pause)
        (fun _ => .refused) loneBatch).replies = [] ∧
      (tirelessBackend.exchange (Settings.pauseOf tirelessBackend.settings.pause)
        (fun _ => .refused) loneBatch).result = .error .overflow := by
  have hcount : ¬ Exchange.Countable tirelessBackend.settings := by decide
  rw [exchange_of_uncountable hcount]
  exact ⟨rfl, rfl, rfl, rfl, ⟨_, _, rfl⟩, rfl, rfl⟩

end SearchRelay.Backend
