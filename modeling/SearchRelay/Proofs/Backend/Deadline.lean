import SearchRelay.Proofs.Retry

/-!
# SearchRelay.Proofs.Backend.Deadline

When an attempt begins, and which attempts an exchange gets to.

An attempt without an answer takes its time and so does every pause; `begins`
adds them up.  As long as replies are tried again, an exchange gets to an attempt
if it begins within the time there is (`run_eq_atAttempt`), and otherwise ends
without it (`run_of_late`).  Both are inductions over the attempts, with
`atAttempt_succ` as the step.
-/

namespace SearchRelay.Backend

theorem Reply.Retried.transient {reply : Reply} (h : reply.Retried) : reply.Transient := by
  obtain ⟨reason, hverdict⟩ := verdict_of_retried h
  exact ⟨_, reason, hverdict⟩

namespace Exchange

/-- When an attempt begins, in milliseconds; the first attempt is the attempt
0. -/
def begins (s : Settings) (pauses : Nat → Nat) (script : Script) : (attempt : Nat) → Nat
  | 0 => 0
  | attempt + 1 =>
    begins s pauses script attempt + (script attempt).duration s + pauses attempt

/-- An exchange from an attempt on, if all replies before were tried again. -/
def atAttempt (s : Settings) (pauses : Nat → Nat) (script : Script) (attempt : Nat) : Exchange :=
  continueFrom s pauses script (s.maxRetries.toNat - attempt) (madeBefore script attempt)
    (begins s pauses script attempt)

section

variable {s : Settings} {pauses : Nat → Nat} {script : Script} {attempt : Nat}

/-- An attempt ends before the next one begins. -/
theorem begins_le_succ (s : Settings) (pauses : Nat → Nat) (script : Script) (attempt : Nat) :
    begins s pauses script attempt + (script attempt).duration s ≤
      begins s pauses script (attempt + 1) := Nat.le_add_right _ _

/-- What an attempt that is tried again leads to. -/
theorem atAttempt_of_transient (hmore : attempt < s.maxRetries.toNat)
    (htransient : (script attempt).Transient) :
    atAttempt s pauses script attempt =
      if s.totalTimeout * 1000 < begins s pauses script (attempt + 1) then
        expired s ((List.range (attempt + 1)).map script)
      else atAttempt s pauses script (attempt + 1) := by
  obtain ⟨status, reason, hverdict⟩ := htransient
  have hleft : s.maxRetries.toNat - attempt = s.maxRetries.toNat - (attempt + 1) + 1 := by omega
  have hreplies : (madeBefore script (attempt + 1)).reverse =
      (List.range (attempt + 1)).map script := List.reverse_reverse _
  have hle := begins_le_succ s pauses script attempt
  rw [atAttempt, continueFrom, hleft]
  simp only [length_madeBefore, cons_madeBefore, hverdict, hreplies]
  by_cases hlate : s.totalTimeout * 1000 <
      begins s pauses script attempt + (script attempt).duration s
  · rw [if_pos hlate, if_pos (by omega)]
  · rw [if_neg hlate]
    rfl

/-- A reply that is tried again leads to the next attempt, if that begins in
time. -/
theorem atAttempt_succ (hmore : attempt < s.maxRetries.toNat)
    (htransient : (script attempt).Transient)
    (hintime : begins s pauses script (attempt + 1) ≤ s.totalTimeout * 1000) :
    atAttempt s pauses script attempt = atAttempt s pauses script (attempt + 1) := by
  rw [atAttempt_of_transient hmore htransient, if_neg (Nat.not_lt.mpr hintime)]

/-- An exchange gets to an attempt that begins in time. -/
theorem run_eq_atAttempt (hattempt : attempt ≤ s.maxRetries.toNat)
    (hbefore : ∀ i, i < attempt → (script i).Transient)
    (hintime : begins s pauses script attempt ≤ s.totalTimeout * 1000) :
    run s pauses script = atAttempt s pauses script attempt := by
  induction attempt with
  | zero => rfl
  | succ attempt ih =>
      have hle := begins_le_succ s pauses script attempt
      rw [ih (by omega) (fun i hi => hbefore i (by omega)) (by omega)]
      exact atAttempt_succ hattempt (hbefore attempt (by omega)) hintime

/-- The time runs out before an attempt that would begin too late. -/
theorem run_eq_expired (hattempt : attempt ≤ s.maxRetries.toNat)
    (hbefore : ∀ i, i < attempt → (script i).Transient)
    (hlate : s.totalTimeout * 1000 < begins s pauses script attempt) :
    ∃ replies, run s pauses script = expired s replies := by
  induction attempt with
  | zero => simp [begins] at hlate
  | succ attempt ih =>
      by_cases hearlier : s.totalTimeout * 1000 < begins s pauses script attempt
      · exact ih (by omega) (fun i hi => hbefore i (by omega)) hearlier
      · refine ⟨(List.range (attempt + 1)).map script, ?_⟩
        rw [run_eq_atAttempt (by omega) (fun i hi => hbefore i (by omega))
          (Nat.le_of_not_lt hearlier), atAttempt_of_transient hattempt (hbefore attempt (by omega)),
          if_pos hlate]

/-- An exchange ends before an attempt that would begin too late. -/
theorem run_of_late (hattempt : attempt ≤ s.maxRetries.toNat)
    (hbefore : ∀ i, i < attempt → (script i).Transient)
    (hlate : s.totalTimeout * 1000 < begins s pauses script attempt) :
    (run s pauses script).result = .error (timedOut s) := by
  obtain ⟨replies, hrun⟩ := run_eq_expired hattempt hbefore hlate
  rw [hrun]
  rfl

/-- A final reply in time is the end. -/
theorem result_of_final {result : Except Error Json.Fields}
    (hattempt : attempt ≤ s.maxRetries.toNat)
    (hbefore : ∀ i, i < attempt → (script i).Transient)
    (hintime : begins s pauses script attempt ≤ s.totalTimeout * 1000)
    (hfinal : (script attempt).verdict = .final result) :
    (run s pauses script).result = result := by
  have hanswer : script attempt ≠ .silent := by
    intro hsilent
    rw [hsilent] at hfinal
    cases hfinal
  rw [run_eq_atAttempt hattempt hbefore hintime, atAttempt, continueFrom]
  simp only [length_madeBefore, duration_eq_zero hanswer, Nat.add_zero, hfinal]
  rw [if_neg (Nat.not_lt.mpr hintime)]

end

end Exchange

end SearchRelay.Backend
