import SearchRelay.Backend.Exchange

/-!
# SearchRelay.Proofs.Exchange

How an exchange with the backend ends.

`Ending` lists the three ways: the time runs out, a reply is final, or the last
attempt that is allowed is transient.  `continueFrom_ends` goes through the
retries once, by induction on those that are left; `run_ends` is what it says
of a whole run.  The attempts are the first replies of the script, and all
but the last one are transient.  An exchange is such a run, or ends before its first
attempt (`exchange_cases`).  If it gives a reply, it has read it from the bytes of an
answer (`parseBytes?_of_exchange`).
-/

namespace SearchRelay.Backend

open Json Http

/-- Another attempt may help. -/
def Reply.Transient (reply : Reply) : Prop :=
  ∃ status reason, reply.verdict = .transient status reason

namespace Exchange

/-- The error of an exchange whose time ran out. -/
def timedOut (s : Settings) : Error :=
  .timeout ("no backend reply within " ++ toString s.totalTimeout ++ "s")

/-- How an exchange ends that has at most `most` attempts, after `attempts` of
them, of which `last` was the last. -/
inductive Ending (s : Settings) (most attempts : Nat) (last : Reply) :
    Except Error Fields → Prop where
  /-- The time is over before the next attempt, or within this one. -/
  | expired (h : attempts < most ∨ last = .silent) :
      Ending s most attempts last (.error (timedOut s))
  /-- The reply is final. -/
  | final {result : Except Error Fields} (h : last.verdict = .final result) :
      Ending s most attempts last result
  /-- No attempt is left. -/
  | exhausted {status : Option Nat} {reason : String} (hmost : attempts = most)
      (h : last.verdict = .transient status reason) :
      Ending s most attempts last (.error (exhausted status reason attempts))

/-- Fields are given by a reply that settles the exchange. -/
theorem Ending.final_of_ok {s : Settings} {most attempts : Nat} {last : Reply} {fields : Fields}
    (h : Ending s most attempts last (.ok fields)) : last.verdict = .final (.ok fields) := by
  cases h with
  | final hfinal => exact hfinal

/-- Only an attempt without an answer takes time. -/
theorem duration_eq_zero {s : Settings} {reply : Reply} (h : reply ≠ .silent) :
    reply.duration s = 0 := by
  cases reply with
  | silent => exact absurd rfl h
  | complete status body => rfl
  | brokenOff status => rfl
  | dropped => rfl
  | refused => rfl

/-- An exchange that goes on makes at least one more attempt and at most
`left + 1`; all but the last are transient. -/
theorem continueFrom_ends (s : Settings) (pauses : Nat → Nat) (script : Script) (left : Nat)
    (done : List Reply) (elapsed : Nat) (hintime : elapsed ≤ s.totalTimeout * 1000) :
    ∃ n, n ≤ left ∧
      (continueFrom s pauses script left done elapsed).replies =
        done.reverse ++ (List.range' done.length (n + 1)).map script ∧
      (∀ k, k < n → (script (done.length + k)).Transient) ∧
      Ending s (done.length + left + 1) (done.length + n + 1) (script (done.length + n))
        (continueFrom s pauses script left done elapsed).result := by
  induction left generalizing done elapsed with
  | zero =>
      refine ⟨0, Nat.le_refl 0, ?_⟩
      rw [continueFrom]
      dsimp only
      split
      · next hlate =>
        refine ⟨by simp [expired], by simp, .expired (.inr ?_)⟩
        by_cases hsilent : script done.length = .silent
        · exact hsilent
        · rw [duration_eq_zero hsilent] at hlate
          omega
      · split
        · next result hfinal => exact ⟨by simp, by simp, .final hfinal⟩
        · next status reason htransient =>
          refine ⟨by simp, by simp, ?_⟩
          exact .exhausted rfl htransient
  | succ left ih =>
      rw [continueFrom]
      dsimp only
      split
      · next hlate =>
        exact ⟨0, by omega, by simp [expired], by simp, .expired (.inl (by omega))⟩
      · split
        · next result hfinal => exact ⟨0, by omega, by simp, by simp, .final hfinal⟩
        · next status reason htransient =>
          split
          · exact ⟨0, by omega, by simp [expired], by simp, .expired (.inl (by omega))⟩
          · next hlater =>
            obtain ⟨n, hn, hreplies, hbefore, hends⟩ :=
              ih (script done.length :: done) _ (Nat.not_lt.mp hlater)
            -- the attempt just made moves from what follows to what is done
            have hshift : ∀ k, (script done.length :: done).length + k = done.length + (k + 1) := by
              intro k
              simp only [List.length_cons]
              omega
            refine ⟨n + 1, by omega, ?_, ?_, ?_⟩
            · rw [hreplies, List.range'_succ (s := done.length), List.map_cons, List.reverse_cons,
                List.append_assoc, List.length_cons]
              rfl
            · intro k hk
              cases k with
              | zero => exact ⟨status, reason, htransient⟩
              | succ k =>
                  rw [← hshift]
                  exact hbefore k (by omega)
            · rw [hshift n, hshift left] at hends
              exact hends

/-- **How a run ends**: it makes the attempts `0, …, n`, of which all but the last are
transient. -/
theorem run_ends (s : Settings) (pauses : Nat → Nat) (script : Script) :
    ∃ n, n < budget s ∧ (run s pauses script).replies = (List.range (n + 1)).map script ∧
      (∀ k, k < n → (script k).Transient) ∧
      Ending s (budget s) (n + 1) (script n) (run s pauses script).result := by
  obtain ⟨n, hn, hreplies, hbefore, hends⟩ :=
    continueFrom_ends s pauses script s.maxRetries.toNat [] 0 (Nat.zero_le _)
  simp only [List.length_nil, Nat.zero_add, ← List.range_eq_range'] at hreplies hbefore hends
  exact ⟨n, Nat.lt_succ_of_le hn, hreplies, hbefore, hends⟩

/-- The replies of a run are the first ones of the script, and there is at least one. -/
theorem length_replies_run (s : Settings) (pauses : Nat → Nat) (script : Script) :
    0 < (run s pauses script).replies.length ∧
      (run s pauses script).replies.length ≤ budget s := by
  obtain ⟨n, hn, hreplies, -, -⟩ := run_ends s pauses script
  rw [hreplies, List.length_map, List.length_range]
  exact ⟨Nat.succ_pos n, hn⟩

end Exchange

/-! ## exchanges and runs -/

section

variable {b : Backend} {batch : Batch}

/-- An exchange whose attempts can be counted and whose request can be sent is a run. -/
theorem exchange_of_request {request : Request} (hcount : Exchange.Countable b.settings)
    (h : b.request? batch = some request) (pauses : Nat → Nat) (script : Script) :
    b.exchange pauses script batch = Exchange.run b.settings pauses script := by
  rw [exchange, if_pos hcount, h]

/-- An address that cannot be sent ends the exchange before its first attempt. -/
theorem exchange_of_unsendable (hcount : Exchange.Countable b.settings)
    (h : b.request? batch = none) (pauses : Nat → Nat) (script : Script) :
    b.exchange pauses script batch = .withoutAttempt unsendable := by
  rw [exchange, if_pos hcount, h]

/-- Attempts that cannot be counted end it as well. -/
theorem exchange_of_uncountable (hcount : ¬ Exchange.Countable b.settings) (pauses : Nat → Nat)
    (script : Script) (batch : Batch) :
    b.exchange pauses script batch = .withoutAttempt .overflow := by
  rw [exchange, if_neg hcount]

/-- An exchange is a run, or ends before its first attempt: its address cannot be sent,
or its attempts cannot be counted. -/
theorem exchange_cases (b : Backend) (pauses : Nat → Nat) (script : Script) (batch : Batch) :
    (∃ request, b.request? batch = some request ∧ Exchange.Countable b.settings ∧
        b.exchange pauses script batch = Exchange.run b.settings pauses script) ∨
      ∃ error, (error = unsendable ∨ error = .overflow) ∧
        b.exchange pauses script batch = .withoutAttempt error := by
  by_cases hcount : Exchange.Countable b.settings
  · cases hrequest : b.request? batch with
    | some request =>
        exact .inl ⟨request, rfl, hcount, exchange_of_request hcount hrequest pauses script⟩
    | none =>
        exact .inr ⟨_, .inl rfl, exchange_of_unsendable hcount hrequest pauses script⟩
  · exact .inr ⟨_, .inr rfl, exchange_of_uncountable hcount pauses script batch⟩

/-- An exchange without an attempt has failed. -/
theorem result_of_isEmpty {pauses : Nat → Nat} {script : Script}
    (h : (b.exchange pauses script batch).replies.isEmpty = true) :
    ∃ error, (error = unsendable ∨ error = .overflow) ∧
      (b.exchange pauses script batch).result = .error error := by
  rcases exchange_cases b pauses script batch with ⟨_, -, -, hrun⟩ | ⟨error, herror, hexchange⟩
  · have hpos := (Exchange.length_replies_run b.settings pauses script).1
    rw [hrun, List.isEmpty_iff_length_eq_zero] at h
    omega
  · exact ⟨error, herror, by rw [hexchange]; rfl⟩

end

/-! ## the reply -/

/-- A final reply is judged by a status and a body. Of an answer that broke off the body
is taken as empty. -/
theorem exists_verdictOf_of_final {reply : Reply} {result : Except Error Fields}
    (h : reply.verdict = .final result) : ∃ status body, verdictOf status body = result := by
  cases reply with
  | complete status body =>
      rw [Reply.verdict] at h
      split at h
      · contradiction
      · injection h with h
        exact ⟨status, body, h⟩
  | brokenOff status =>
      rw [Reply.verdict] at h
      split at h
      · contradiction
      · split at h
        · next hclient =>
          injection h with h
          refine ⟨status, [], ?_⟩
          rw [verdictOf, if_pos hclient, ← h]
          rfl
        · split at h
          · injection h with h
            exact ⟨status, [], h⟩
          · contradiction
  | dropped | silent | refused => contradiction

/-- What is accepted of a reply was read from bytes. -/
theorem parseBytes?_of_verdictOf {status : Nat} {body : List UInt8} {reply : Fields}
    (h : verdictOf status body = .ok reply) :
    ∃ bytes, parseBytes? bytes = some (.object reply) := by
  unfold verdictOf at h
  split at h
  · contradiction
  · split at h
    · unfold envelopeOf at h
      split at h
      · next fields hfields =>
        cases h
        exact ⟨_, hfields⟩
      · contradiction
      · contradiction
    · contradiction

theorem parseBytes?_of_final {reply : Reply} {fields : Fields}
    (h : reply.verdict = .final (.ok fields)) :
    ∃ bytes, parseBytes? bytes = some (.object fields) := by
  obtain ⟨status, body, hverdict⟩ := exists_verdictOf_of_final h
  exact parseBytes?_of_verdictOf hverdict

/-- A reply is what some bytes are read as. -/
theorem parseBytes?_of_exchange {b : Backend} {pauses : Nat → Nat} {script : Script}
    {batch : Batch} {reply : Fields} (h : (b.exchange pauses script batch).result = .ok reply) :
    ∃ bytes, parseBytes? bytes = some (.object reply) := by
  rcases exchange_cases b pauses script batch with ⟨_, -, -, hrun⟩ | ⟨_, -, hexchange⟩
  · obtain ⟨n, _, _, _, hends⟩ := Exchange.run_ends b.settings pauses script
    rw [← hrun, h] at hends
    exact parseBytes?_of_final hends.final_of_ok
  · rw [hexchange] at h
    cases h

end SearchRelay.Backend
