import SeiStressTest.Load.Iteration
import Mathlib.Tactic.Linarith
set_option autoImplicit false

/-!
# Load: the load loops of the three generators

    while time.time() - start_time < duration_seconds:
        ...one iteration...

`stress_test_transactions` (`stress_test_blocktime.py`,
`stress_test_blocktime_fixed.py`) dispatches, then sleeps `batch_delay =
transactions_per_batch / tps_target`.  `stress_test_transactions_optimized`
(`stress_test_20k_tps.py`) sleeps `batch_interval - time_since_last_batch` when
that is positive, then dispatches, then sets `last_batch_time`.

Both quotients are computed once, before the loop, so `tps_target = 0` raises
`ZeroDivisionError` before any nonce is reserved; the optimized loop also
raises there on an empty account list (`transactions_per_batch //
concurrent_senders`).  The other two loops run on an empty list, sampling no
sender, until the deadline.

The clock is `time.time() - start_time`.  It moves only by the sleeps and by the
time each `gather` takes (`Draw.dispatch`).  The loop is run with fuel;
`loadLoop_paced` says how much fuel lets the deadline, not the fuel, end it.
-/

namespace SeiStressTest.Load

/-- The `while time.time() - start_time < duration_seconds` loop, at most
`fuel` passes; `body i` is the pass that uses the `i`-th draw. -/
def loadLoop (body : ℕ → LoadState → Except LoadState LoadState) (duration : ℚ) :
    ℕ → LoadState → Except LoadState LoadState
  | 0, s => .ok s
  | fuel + 1, s =>
    if s.clock < duration then (body s.iteration s).bind (loadLoop body duration fuel) else .ok s

/-- A load phase at `start_time`: nothing signed, sent or counted yet. -/
def LoadState.initial (c0 : NonceCounters) : LoadState :=
  { clock := 0, lastBatchTime := 0, nonceCounters := c0, signed := [], posted := [],
    txResults := 0, iteration := 0 }

/-- `transactions_per_batch = 1000` in `stress_test_transactions`. -/
def transactionsPerBatch : ℕ := 1000

/-- `transactions_per_batch = 2000` in `stress_test_transactions_optimized`. -/
def transactionsPerBatchOptimized : ℕ := 2000

section Passes

variable {accounts : List Account} {k : ℕ}

/-- `await asyncio.sleep(delay)`: the clock moves by `delay`, and not at all
when `delay ≤ 0`, where the call only yields. -/
def asyncioSleep (delay clock : ℚ) : ℚ := clock + max delay 0

theorem asyncioSleep_of_nonneg {delay : ℚ} (h : 0 ≤ delay) (clock : ℚ) :
    asyncioSleep delay clock = clock + delay := by
  rw [asyncioSleep, max_eq_left h]

/-- One pass of `stress_test_transactions`: every selected account gets
`transactions_per_batch // len(sending_accounts)` transactions, the batches are
gathered, then `await asyncio.sleep(batch_delay)`. -/
def stressPass (signs : Signer) (count : PostOutcome → TxResults → TxResults)
    (batchDelay : ℚ) (d : Draw accounts k) (s : LoadState) : Except LoadState LoadState :=
  (dispatchIteration signs sendTransactionBatchPosts count
      (transactionsPerBatch / d.senders.senders.length) d s).map
    fun s => { s with clock := asyncioSleep batchDelay s.clock }

/-- `if time_since_last_batch < batch_interval:
await asyncio.sleep(batch_interval - time_since_last_batch)`. -/
def waitForWindow (batchInterval : ℚ) (s : LoadState) : LoadState :=
  let sinceLast := s.clock - s.lastBatchTime
  { s with clock := if sinceLast < batchInterval then s.clock + (batchInterval - sinceLast) else s.clock }

@[simp] theorem waitForWindow_iteration (batchInterval : ℚ) (s : LoadState) :
    (waitForWindow batchInterval s).iteration = s.iteration := rfl

/-- Stamped at the current time, the window has not begun to elapse: the wait
is the whole interval. -/
theorem waitForWindow_clock_of_stamped {batchInterval : ℚ} (hpos : 0 < batchInterval)
    {s : LoadState} (hstamp : s.lastBatchTime = s.clock) :
    (waitForWindow batchInterval s).clock = s.clock + batchInterval := by
  simp [waitForWindow, hstamp, hpos]

/-- One pass of `stress_test_transactions_optimized`: wait for the next batch
window, dispatch `txs_per_account` transactions per sender, stamp
`last_batch_time`. -/
def optimizedPass (signs : Signer) (batchInterval : ℚ) (txsPerAccount : ℕ)
    (d : Draw accounts k) (s : LoadState) : Except LoadState LoadState :=
  (dispatchIteration signs sendTransactionBatchOptimizedPosts countOutcome txsPerAccount d
      (waitForWindow batchInterval s)).map
    fun s => { s with lastBatchTime := s.clock }

end Passes

/-! ## One pass in which every signature returns -/

section PassSpecs

variable {signs : Signer} (hsigns : ∀ key tx, signs key tx = true)
variable {accounts : List Account} {k : ℕ}
include hsigns

/-- Spec of a pass of `stress_test_transactions`: the iteration of
`dispatchIteration_eq_ok` at batch size `transactions_per_batch // k`, then
the whole `batch_delay`. -/
theorem stressPass_eq_ok {count : PostOutcome → TxResults → TxResults}
    (hcount : ∀ o, IsShift (count o)) (batchDelay : ℚ) (d : Draw accounts k) (s : LoadState) :
    stressPass signs count batchDelay d s =
      let r := reserve (transactionsPerBatch / k) s.nonceCounters d.senders.senders
      .ok { s with
        nonceCounters := r.2
        signed := s.signed ++ (slotTxs d (transactionsPerBatch / k) 0 r.1).map (s.iteration, ·)
        posted := s.posted ++ (slotTxs d (transactionsPerBatch / k) 0 r.1).map (s.iteration, ·)
        txResults := s.txResults + responsesTotal count d (transactionsPerBatch / k) 0 k
        clock := asyncioSleep batchDelay (s.clock + d.dispatch)
        iteration := s.iteration + 1 } := by
  rw [stressPass, dispatchIteration_eq_ok hsigns sendTransactionBatchPosts_eq hcount,
    Sample.length_senders]
  rfl

/-- Spec of a pass of `stress_test_transactions_optimized`: the wait for the
window, the iteration, and `last_batch_time` stamped at its end. -/
theorem optimizedPass_eq_ok (batchInterval : ℚ) (txsPerAccount : ℕ) (d : Draw accounts k)
    (s : LoadState) :
    optimizedPass signs batchInterval txsPerAccount d s =
      let w := waitForWindow batchInterval s
      let r := reserve txsPerAccount s.nonceCounters d.senders.senders
      .ok { s with
        nonceCounters := r.2
        signed := s.signed ++ (slotTxs d txsPerAccount 0 r.1).map (s.iteration, ·)
        posted := s.posted ++ (slotTxs d txsPerAccount 0 r.1).map (s.iteration, ·)
        txResults := s.txResults + responsesTotal countOutcome d txsPerAccount 0 k
        clock := w.clock + d.dispatch
        lastBatchTime := w.clock + d.dispatch
        iteration := s.iteration + 1 } := by
  rw [optimizedPass, dispatchIteration_eq_ok hsigns sendTransactionBatchOptimizedPosts_eq
    countOutcome_eq_add]
  rfl

end PassSpecs

/-- `stress_test_transactions` in `stress_test_blocktime.py`: `batch_delay`
raises before the loop at `tps_target = 0`; the counters start at 0
(`{acc['address']: 0 for acc in self.accounts}`). -/
def Blocktime.stressTestTransactions (signs : Signer) (accounts : List Account)
    (tpsTarget duration : ℚ) (env : ℕ → Draw accounts (min 50 accounts.length)) (fuel : ℕ) :
    Except LoadState LoadState :=
  match trueDiv transactionsPerBatch tpsTarget with
  | none => .error (.initial fun _ => 0)
  | some batchDelay =>
    loadLoop (fun i => stressPass signs countOutcome batchDelay (env i)) duration fuel
      (.initial fun _ => 0)

/-- `stress_test_transactions` in `stress_test_blocktime_fixed.py`: the counters
start at `get_transaction_count` of each address (`c0`), then `batch_delay`
raises at `tps_target = 0`. -/
def Fixed.stressTestTransactions (signs : Signer) (accounts : List Account) (c0 : NonceCounters)
    (tpsTarget duration : ℚ) (env : ℕ → Draw accounts (min 50 accounts.length)) (fuel : ℕ) :
    Except LoadState LoadState :=
  match trueDiv transactionsPerBatch tpsTarget with
  | none => .error (.initial c0)
  | some batchDelay =>
    loadLoop (fun i => stressPass signs countOutcomeFixed batchDelay (env i)) duration fuel
      (.initial c0)

/-- `stress_test_transactions_optimized` in `stress_test_20k_tps.py`:
`batch_interval` raises at `tps_target = 0`, and with no account
`transactions_per_batch // concurrent_senders` raises, both before the loop. -/
def Tps20k.stressTestTransactionsOptimized (signs : Signer) (accounts : List Account)
    (c0 : NonceCounters) (tpsTarget duration : ℚ)
    (env : ℕ → Draw accounts (min 100 accounts.length)) (fuel : ℕ) : Except LoadState LoadState :=
  match trueDiv transactionsPerBatchOptimized tpsTarget with
  | none => .error (.initial c0)
  | some batchInterval =>
    let concurrentSenders := min 100 accounts.length
    if concurrentSenders = 0 then .error (.initial c0)
    else
      loadLoop (fun i => optimizedPass signs batchInterval
        (transactionsPerBatchOptimized / concurrentSenders) (env i)) duration fuel (.initial c0)

section Phases

variable {signs : Signer} {accounts : List Account} {c0 : NonceCounters} {tpsTarget duration : ℚ}
variable {fuel : ℕ}

/-- Where `stress_test_transactions` of `stress_test_blocktime.py` goes: the
raise before the loop, or the loop at `batch_delay = B / R`. -/
theorem Blocktime.stressTestTransactions_eq (env : ℕ → Draw accounts (min 50 accounts.length)) :
    Blocktime.stressTestTransactions signs accounts tpsTarget duration env fuel =
      if tpsTarget = 0 then .error (.initial fun _ => 0)
      else loadLoop (fun i => stressPass signs countOutcome (transactionsPerBatch / tpsTarget) (env i))
        duration fuel (.initial fun _ => 0) := by
  by_cases h : tpsTarget = 0
  · simp [Blocktime.stressTestTransactions, h]
  · simp [Blocktime.stressTestTransactions, h, trueDiv_of_ne_zero]

theorem Fixed.stressTestTransactions_eq (env : ℕ → Draw accounts (min 50 accounts.length)) :
    Fixed.stressTestTransactions signs accounts c0 tpsTarget duration env fuel =
      if tpsTarget = 0 then .error (.initial c0)
      else loadLoop (fun i => stressPass signs countOutcomeFixed (transactionsPerBatch / tpsTarget) (env i))
        duration fuel (.initial c0) := by
  by_cases h : tpsTarget = 0
  · simp [Fixed.stressTestTransactions, h]
  · simp [Fixed.stressTestTransactions, h, trueDiv_of_ne_zero]

theorem Tps20k.stressTestTransactionsOptimized_eq (env : ℕ → Draw accounts (min 100 accounts.length)) :
    Tps20k.stressTestTransactionsOptimized signs accounts c0 tpsTarget duration env fuel =
      if tpsTarget = 0 ∨ accounts = [] then .error (.initial c0)
      else loadLoop (fun i => optimizedPass signs (transactionsPerBatchOptimized / tpsTarget)
        (transactionsPerBatchOptimized / min 100 accounts.length) (env i)) duration fuel (.initial c0) := by
  by_cases h : tpsTarget = 0
  · simp [Tps20k.stressTestTransactionsOptimized, h]
  · by_cases hnil : accounts = []
    · simp [Tps20k.stressTestTransactionsOptimized, h, hnil, trueDiv_of_ne_zero]
    · have hK : min 100 accounts.length ≠ 0 := by simp [Nat.min_eq_zero_iff, hnil]
      simp [Tps20k.stressTestTransactionsOptimized, h, hnil, hK, trueDiv_of_ne_zero]

end Phases

/-! ## Run lemmas -/

section Run

variable (body : ℕ → LoadState → Except LoadState LoadState) (duration : ℚ)
variable {P : LoadState → Prop}

/-- One unit of fuel runs at most one pass. -/
theorem loadLoop_one (s : LoadState) :
    loadLoop body duration 1 s = if s.clock < duration then body s.iteration s else .ok s := by
  by_cases h : s.clock < duration
  · simp only [loadLoop, if_pos h]
    cases body s.iteration s <;> rfl
  · simp [loadLoop, h]

/-- A property every pass preserves, as long as the deadline has not passed,
holds after the loop, whatever the fuel. -/
theorem loadLoop_preserves
    (hbody : ∀ s, P s → s.clock < duration → ∃ s', body s.iteration s = .ok s' ∧ P s') :
    ∀ (fuel : ℕ) (s : LoadState), P s → ∃ s', loadLoop body duration fuel s = .ok s' ∧ P s' := by
  intro fuel
  induction fuel with
  | zero => exact fun s hs => ⟨s, rfl, hs⟩
  | succ fuel ih =>
    intro s hs
    by_cases hc : s.clock < duration
    · obtain ⟨s', hstep, hs'⟩ := hbody s hs hc
      simpa [loadLoop, hc, hstep, Except.bind] using ih s' hs'
    · exact ⟨s, by simp [loadLoop, hc], hs⟩

/-- The same for a whole phase that raises before its loop when `raises`
holds, in the state it starts from: a property of that state which every pass
keeps holds where the phase ends, whether it raised or returned. -/
theorem loadPhase_preserves {fuel : ℕ} {s0 : LoadState} {raises : Prop} [Decidable raises]
    {run : Except LoadState LoadState}
    (hrun : run = if raises then .error s0 else loadLoop body duration fuel s0) (h0 : P s0)
    (hbody : ∀ s, P s → s.clock < duration → ∃ s', body s.iteration s = .ok s' ∧ P s') :
    ∃ s, run = (if raises then .error s else .ok s) ∧ P s := by
  by_cases h : raises
  · exact ⟨s0, by rw [hrun, if_pos h, if_pos h], h0⟩
  · obtain ⟨s, hs, hP⟩ := loadLoop_preserves body duration hbody fuel s0 h0
    exact ⟨s, by rw [hrun, if_neg h, if_neg h, hs], hP⟩

/-- When each pass also takes at least `δ` of clock time, `fuel` passes are
enough for the deadline to end the loop once `fuel * δ` covers the duration. -/
theorem loadLoop_paced {δ : ℚ}
    (hbody : ∀ s, P s → s.clock < duration →
      ∃ s', body s.iteration s = .ok s' ∧ P s' ∧ s.clock + δ ≤ s'.clock) :
    ∀ (fuel : ℕ) (s : LoadState), P s →
      ∃ s', loadLoop body duration fuel s = .ok s' ∧ P s' ∧
        (duration ≤ s'.clock ∨ s.clock + fuel * δ ≤ s'.clock) := by
  intro fuel
  induction fuel with
  | zero => exact fun s hs => ⟨s, rfl, hs, .inr (by simp)⟩
  | succ fuel ih =>
    intro s hs
    by_cases hc : s.clock < duration
    · obtain ⟨s', hstep, hs', hδ⟩ := hbody s hs hc
      obtain ⟨s'', hrun, hs'', hend⟩ := ih s' hs'
      refine ⟨s'', by simpa [loadLoop, hc, hstep, Except.bind] using hrun, hs'', ?_⟩
      rcases hend with h | h
      · exact .inl h
      · right
        push_cast
        linarith
    · exact ⟨s, by simp [loadLoop, hc], hs, .inl (not_lt.mp hc)⟩

end Run

end SeiStressTest.Load
