import AiGateway.CircuitBreaker.Consistency

/-!
# No breaker stays shut

Whatever was reported, lost or left to lapse, a breaker admits a request once
its timeout has passed since the last call: an open breaker was not opened after
that call, and every counter of probes was leased by it at the latest.
-/

namespace AiGateway
namespace CircuitBreaker

open Foundations

/-- A call that is made, by the clocks of the client and of the store, at a time
or before it. -/
def BreakerCall.NotAfter (time : Nat) : BreakerCall → Prop
  | .acquire clock nowMs => clock ≤ time ∧ nowMs ≤ time
  | .recordSuccess clock => clock ≤ time
  | .recordFailure clock nowMs => clock ≤ time ∧ nowMs ≤ time
  | .release clock => clock ≤ time
  | .reset => True

instance (time : Nat) (call : BreakerCall) : Decidable (call.NotAfter time) :=
  match call with
  | .acquire _ _ => inferInstanceAs (Decidable (_ ∧ _))
  | .recordSuccess _ => inferInstanceAs (Decidable (_ ≤ _))
  | .recordFailure _ _ => inferInstanceAs (Decidable (_ ∧ _))
  | .release _ => inferInstanceAs (Decidable (_ ≤ _))
  | .reset => inferInstanceAs (Decidable True)

/-- What the keys still hold against a request after a time. -/
structure LapsesAfter
    (options : CircuitBreakerOptions)
    (time : Nat)
    (keys : BreakerKeys) : Prop where
  /-- The breaker was not opened later. -/
  openedAt : ∀ openedAt ∈ keys.openedAt, openedAt ≤ time
  /-- The lease of the probes ends a timeout later at the latest. -/
  lease : ∀ entry ∈ keys.halfProbes, ∃ deadline ∈ entry.deadline,
    deadline ≤ time + options.timeoutMs

namespace LapsesAfter

variable {options : CircuitBreakerOptions} {time : Nat} {keys : BreakerKeys}

theorem fresh : LapsesAfter options time {} where
  openedAt := by rintro openedAt ⟨⟩
  lease := by rintro entry ⟨⟩

/-- A slot that comes back keeps the lease. -/
theorem returnSlot
    (lapses : LapsesAfter options time keys)
    (clock : Nat) :
    LapsesAfter options time (keys.returnSlot clock) where
  openedAt := by
    rw [openedAt_returnSlot]
    exact lapses.openedAt
  lease entry isEntry := by
    rcases mem_halfProbes_returnSlot isEntry with same | ⟨old, isOld, -, rfl⟩
    · exact lapses.lease entry same
    · exact lapses.lease old isOld

/-- One call that is not made later. -/
theorem apply
    (lapses : LapsesAfter options time keys)
    {call : BreakerCall}
    (notAfter : call.NotAfter time) :
    LapsesAfter options time (apply options keys call) := by
  cases call with
  | acquire clock nowMs =>
      have leased : clock + options.timeoutMs ≤ time + options.timeoutMs :=
        Nat.add_le_add_right notAfter.1 _
      rcases acquireScript_cases options clock nowMs keys with
        ⟨_, result⟩ | ⟨_, _, result⟩ | ⟨_, _, result⟩ | ⟨_, _, result⟩ |
          ⟨_, _, result⟩ <;> rw [CircuitBreaker.apply, result]
      · exact lapses
      · exact lapses
      · refine ⟨lapses.openedAt, fun entry isEntry => ?_⟩
        cases Option.some_inj.1 isEntry
        exact ⟨_, rfl, leased⟩
      · refine ⟨lapses.openedAt, fun entry isEntry => ?_⟩
        rw [Key.pexpire_incrBy] at isEntry
        cases Option.some_inj.1 isEntry
        exact ⟨_, rfl, leased⟩
      · exact lapses
  | recordSuccess clock =>
      rcases successScript_cases options clock keys with
        ⟨_, result⟩ | ⟨_, result⟩ | ⟨_, _, result⟩ | ⟨_, _, result⟩ <;>
        rw [CircuitBreaker.apply, result]
      · exact lapses
      · exact ⟨lapses.openedAt, lapses.lease⟩
      · exact ⟨by rintro openedAt ⟨⟩, by rintro entry ⟨⟩⟩
      · have counted : LapsesAfter options time
            { keys with
              halfSuccesses := some (keys.halfSuccesses.getD 0 + 1) } :=
          ⟨lapses.openedAt, lapses.lease⟩
        exact counted.returnSlot clock
  | recordFailure clock nowMs =>
      have recorded : ∀ openedAt ∈ some nowMs, openedAt ≤ time := by
        rintro openedAt ⟨⟩
        exact notAfter.2
      rcases failureScript_cases options clock nowMs keys with
        ⟨_, result⟩ | ⟨_, result⟩ | ⟨_, _, result⟩ | ⟨_, _, result⟩ <;>
        rw [CircuitBreaker.apply, result]
      · exact lapses
      · exact ⟨recorded, by rintro entry ⟨⟩⟩
      · exact ⟨recorded, lapses.lease⟩
      · exact ⟨lapses.openedAt, lapses.lease⟩
  | release clock =>
      rcases releaseScript_cases clock keys with
        ⟨_, result⟩ | ⟨_, result⟩ <;> rw [CircuitBreaker.apply, result]
      · exact lapses
      · exact lapses.returnSlot clock
  | reset => exact fresh

/-- A timeout later there are no probes left to wait for. -/
theorem probes_eq_zero
    (lapses : LapsesAfter options time keys)
    {clock : Nat}
    (late : time + options.timeoutMs ≤ clock) :
    keys.probes clock = 0 := by
  unfold BreakerKeys.probes
  cases readEq : keys.halfProbes.read clock with
  | none => rfl
  | some value =>
      obtain ⟨entry, alive, -⟩ := Option.map_eq_some_iff.1 readEq
      obtain ⟨stored, live⟩ := Key.eq_some_of_visible alive
      obtain ⟨deadline, hasDeadline, early⟩ := lapses.lease entry stored
      rw [Option.mem_def] at hasDeadline
      simp only [Entry.live, hasDeadline, Option.all_some,
        decide_eq_true_eq] at live
      omega

/-- A timeout later an acquire is admitted. -/
theorem acquire_admitted
    (lapses : LapsesAfter options time keys)
    {clock nowMs : Nat}
    (late : time + options.timeoutMs ≤ clock)
    (lateForClient : time + options.timeoutMs ≤ nowMs) :
    (acquireScript options clock nowMs keys).1.allowed = true := by
  rcases acquireScript_cases options clock nowMs keys with
    ⟨_, result⟩ | ⟨_, tooEarly, _⟩ | ⟨_, _, result⟩ | ⟨_, _, result⟩ |
      ⟨_, taken, _⟩
  · rw [result]
  · exfalso
    cases openedAt : keys.openedAt with
    | none =>
        rw [openedAt, Option.getD_none] at tooEarly
        omega
    | some instant =>
        have isBefore := lapses.openedAt instant openedAt
        rw [openedAt, Option.getD_some] at tooEarly
        omega
  · rw [result]
  · rw [result]
  · have positive := options.halfOpenMaxProbes_pos
    rw [lapses.probes_eq_zero late] at taken
    omega

end LapsesAfter

/-- After any calls, none of them made after `time`, every acquire made
`timeoutMs` or more after it is admitted. -/
theorem acquire_admitted_after_timeout
    (options : CircuitBreakerOptions)
    (calls : List BreakerCall)
    (time : Nat)
    (notAfter : ∀ call ∈ calls, call.NotAfter time)
    {clock nowMs : Nat}
    (late : time + options.timeoutMs ≤ clock)
    (lateForClient : time + options.timeoutMs ≤ nowMs) :
    (acquireScript options clock nowMs
      (runFrom (apply options) {} calls)).1.allowed = true := by
  have lapses : LapsesAfter options time (runFrom (apply options) {} calls) :=
    runFrom_induction (LapsesAfter options time)
      (fun _ call isCall lapses => lapses.apply (notAfter call isCall)) .fresh
  exact lapses.acquire_admitted late lateForClient

/-- Five failures open the breaker, and the probe admitted half a minute later
never reports: another half a minute later the next one is admitted. -/
theorem acquire_admitted_after_lost_probe :
    (acquireScript .default 60005 60005 (runFrom (apply .default) {}
      (List.replicate 5 (.recordFailure 5 5) ++
        [.acquire 30005 30005]))).1.allowed = true :=
  acquire_admitted_after_timeout .default _ 30005 (by decide) (by decide)
    (by decide)

end CircuitBreaker
end AiGateway
