import SeiStressTest.Load.Counting
import Mathlib.Algebra.Order.BigOperators.Group.List
import Mathlib.Tactic.Ring
set_option autoImplicit false

/-!
# Load: rate control and the number of transactions sent

`stress_test_transactions` in `stress_test_blocktime_fixed.py` paces by design
with an open loop: it sleeps the whole `batch_delay = B/R` after each gather,
`B` being `transactions_per_batch` and `R` the `tps_target`.  An iteration
therefore lasts `B/R + d`, where `d` is the time its `gather` took.

`stress_test_transactions_optimized` in `stress_test_20k_tps.py` is meant to
pace with a closed loop: it sleeps only what is left of `batch_interval` since
`last_batch_time`.  But it sets `last_batch_time` after the gather, so every
window starts with nothing elapsed (`waitForWindow_clock_of_stamped`): it too
sleeps the whole interval, and an iteration lasts `B/R + d`.

Each iteration offers `K * (B / K)` transactions, where `K` is the number of
sampled senders; that is a full batch only when `K` divides `B`.  With every
signature returning and every post accepted, the clock after `N` iterations is
`N * B/R` plus the time of the `N` gathers, and each iteration started before
the deadline (`Paced`).  The phase therefore sends `N * K * (B / K) < R*D + B`
transactions.  No lower bound follows: with `d = B/R` an iteration takes `2 B/R`
(`tps20k_sleeps_the_whole_interval_after_each_gather`).
-/

namespace SeiStressTest.Load

section Timing

variable {accounts : List Account} {k : ℕ}

/-- Every post of every iteration is accepted. -/
def AllAccepted (env : ℕ → Draw accounts k) : Prop :=
  ∀ i j t, ((env i).outcome j t).isSent = true

/-- The time the first `n` gathers took. -/
def dispatchTime (env : ℕ → Draw accounts k) (n : ℕ) : ℚ :=
  ((List.range n).map fun i => (env i).dispatch).sum

@[simp] theorem dispatchTime_zero (env : ℕ → Draw accounts k) : dispatchTime env 0 = 0 := rfl

theorem dispatchTime_succ (env : ℕ → Draw accounts k) (n : ℕ) :
    dispatchTime env (n + 1) = dispatchTime env n + (env n).dispatch := by
  simp [dispatchTime, List.range_succ]

theorem dispatchTime_nonneg {env : ℕ → Draw accounts k} (hdisp : ∀ i, 0 ≤ (env i).dispatch)
    (n : ℕ) : 0 ≤ dispatchTime env n :=
  List.sum_nonneg fun _ hx => by
    obtain ⟨i, -, rfl⟩ := List.mem_map.mp hx
    exact hdisp i

/-! ## The pacing invariant -/

/-- What holds after `s.iteration` passes of a loop whose pass `n` sleeps
`window` and gathers for `(env n).dispatch`, counting `perIteration` sent: the
clock is the sum of both, every pass started before the deadline, at
`n * window + dispatchTime env n`, and nothing failed. -/
structure Paced (window duration : ℚ) (perIteration : ℕ) (env : ℕ → Draw accounts k)
    (s : LoadState) : Prop where
  clock_eq : s.clock = s.iteration * window + dispatchTime env s.iteration
  started : ∀ n < s.iteration, n * window + dispatchTime env n < duration
  counted : s.txResults = ⟨s.iteration * perIteration, 0⟩

variable {window duration : ℚ} {perIteration : ℕ} {env : ℕ → Draw accounts k}

theorem paced_initial (c0 : NonceCounters) : Paced window duration perIteration env (.initial c0) where
  clock_eq := by simp [LoadState.initial]
  started := by simp [LoadState.initial]
  counted := by ext <;> simp [LoadState.initial]

/-- Step lemma: a pass started before the deadline that sleeps `window`, takes
its gather's time and counts `perIteration` sent keeps the invariant. -/
theorem Paced.next {s s' : LoadState} (h : Paced window duration perIteration env s)
    (hc : s.clock < duration) (hclock : s'.clock = s.clock + window + (env s.iteration).dispatch)
    (hit : s'.iteration = s.iteration + 1) (hres : s'.txResults = s.txResults + ⟨perIteration, 0⟩) :
    Paced window duration perIteration env s' where
  clock_eq := by
    rw [hclock, h.clock_eq, hit, dispatchTime_succ]
    push_cast
    ring
  started n hn := by
    rcases Nat.lt_succ_iff_lt_or_eq.mp (hit ▸ hn) with hn | rfl
    · exact h.started n hn
    · rwa [← h.clock_eq]
  counted := by rw [hres, h.counted, hit]; ext <;> simp [Nat.succ_mul]

theorem dispatchTime_const {d : ℚ} (h : ∀ i, (env i).dispatch = d) (n : ℕ) :
    dispatchTime env n = n * d := by
  induction n with
  | zero => simp
  | succ n ih => rw [dispatchTime_succ, ih, h]; push_cast; ring

/-- The iterations of a paced run: the last one started before the deadline. -/
theorem Paced.iteration_mul_lt {s : LoadState} (h : Paced window duration perIteration env s)
    (hdisp : ∀ i, 0 ≤ (env i).dispatch) (hw : 0 ≤ window) (hD : 0 < duration) :
    s.iteration * window < duration + window := by
  cases hN : s.iteration with
  | zero => simpa using add_pos_of_pos_of_nonneg hD hw
  | succ n =>
    have hstart := h.started n (by omega)
    have hT := dispatchTime_nonneg hdisp n
    push_cast
    linarith

/-- The bound on what a paced run sent: since its last pass started before the
deadline, `sent < R * D + B` at rate `R` with `window = B / R`. -/
theorem sent_lt_of_paced {tpsTarget : ℚ} {batch : ℕ} {s : LoadState} (hR : 0 < tpsTarget)
    (hper : perIteration ≤ batch) (hdisp : ∀ i, 0 ≤ (env i).dispatch) (hD : 0 < duration)
    (h : Paced (batch / tpsTarget) duration perIteration env s) :
    (s.txResults.sent : ℚ) < tpsTarget * duration + batch := by
  have hsent : (s.txResults.sent : ℚ) ≤ s.iteration * batch := by
    rw [h.counted]
    exact_mod_cast Nat.mul_le_mul_left _ hper
  have hstarted := mul_lt_mul_of_pos_left
    (h.iteration_mul_lt hdisp (div_nonneg (Nat.cast_nonneg _) hR.le) hD) hR
  calc (s.txResults.sent : ℚ) ≤ s.iteration * batch := hsent
    _ = tpsTarget * (s.iteration * (batch / tpsTarget)) := by
      rw [mul_left_comm, mul_div_cancel₀ _ hR.ne']
    _ < tpsTarget * (duration + batch / tpsTarget) := hstarted
    _ = tpsTarget * duration + batch := by rw [mul_add, mul_div_cancel₀ _ hR.ne']

/-- Every iteration offers at most a full batch. -/
theorem mul_div_le_batch (k batch : ℕ) : k * (batch / k) ≤ batch := Nat.mul_div_le batch k

/-- Run lemma: a loop each of whose passes before the deadline keeps `Q`,
sleeps `window`, gathers for `(env n).dispatch` and counts `perIteration`
sent, run from the start with fuel for the deadline, ends by its deadline in a
paced state. -/
theorem loadLoop_paced_deadline (body : ℕ → LoadState → Except LoadState LoadState)
    {Q : LoadState → Prop} (hdisp : ∀ i, 0 ≤ (env i).dispatch)
    (hbody : ∀ s, Q s → s.clock < duration → ∃ s', body s.iteration s = .ok s' ∧ Q s' ∧
      s'.clock = s.clock + window + (env s.iteration).dispatch ∧ s'.iteration = s.iteration + 1 ∧
      s'.txResults = s.txResults + ⟨perIteration, 0⟩)
    {fuel : ℕ} (hfuel : duration ≤ fuel * window) {c0 : NonceCounters} (hQ : Q (.initial c0)) :
    ∃ s, loadLoop body duration fuel (.initial c0) = .ok s ∧ duration ≤ s.clock ∧ Q s ∧
      Paced window duration perIteration env s := by
  obtain ⟨s, hrun, ⟨hQs, hs⟩, hend⟩ := loadLoop_paced body duration
    (P := fun s => Q s ∧ Paced window duration perIteration env s) (δ := window)
    (fun s ⟨hQs, hs⟩ hc => by
      obtain ⟨s', hstep, hQ', hclock, hit, hres⟩ := hbody s hQs hc
      refine ⟨s', hstep, ⟨hQ', hs.next hc hclock hit hres⟩, ?_⟩
      linarith [hdisp s.iteration])
    fuel _ ⟨hQ, paced_initial c0⟩
  refine ⟨s, hrun, hend.elim id fun h => hfuel.trans ?_, hQs, hs⟩
  simpa [LoadState.initial] using h

end Timing

/-! ## Whole runs of the two rate-controlled loops -/

section Runs

variable {signs : Signer} (hsigns : ∀ key tx, signs key tx = true)
variable (accounts : List Account) (c0 : NonceCounters) (tpsTarget duration : ℚ)
include hsigns

/-- A run of `stress_test_transactions` in `stress_test_blocktime_fixed.py` at
a positive rate in which every post is accepted and no gather takes negative
time: with fuel for the deadline, the deadline ends the loop, every pass sleeps
the whole `batch_delay` after its gather, and `K * (B / K)` are sent per
iteration. -/
theorem fixed_paced (hR : 0 < tpsTarget) (env : ℕ → Draw accounts (min 50 accounts.length))
    (hacc : AllAccepted env) (hdisp : ∀ i, 0 ≤ (env i).dispatch) (fuel : ℕ)
    (hfuel : duration ≤ fuel * (transactionsPerBatch / tpsTarget)) :
    ∃ s, Fixed.stressTestTransactions signs accounts c0 tpsTarget duration env fuel = .ok s ∧
      duration ≤ s.clock ∧
      Paced (transactionsPerBatch / tpsTarget) duration
        (min 50 accounts.length * (transactionsPerBatch / min 50 accounts.length)) env s := by
  have hδ : (0 : ℚ) ≤ transactionsPerBatch / tpsTarget := div_nonneg (Nat.cast_nonneg _) hR.le
  obtain ⟨s, hrun, hend, -, hs⟩ := loadLoop_paced_deadline
    (fun i => stressPass signs countOutcomeFixed (transactionsPerBatch / tpsTarget) (env i))
    (Q := fun _ => True) hdisp (fun s _ _ => ⟨_, stressPass_eq_ok hsigns countOutcomeFixed_eq_add _ _ s, trivial,
      by simp only [asyncioSleep_of_nonneg hδ]; ring, rfl, congrArg (s.txResults + ·)
        (responsesTotal_of_accepted (fun _ => countOutcomeFixed_of_isSent) (hacc s.iteration) _)⟩)
    hfuel trivial
  exact ⟨s, by rwa [Fixed.stressTestTransactions_eq, if_neg hR.ne'], hend, hs⟩

/-- A run of `stress_test_transactions_optimized` at a positive rate on a
non-empty account list in which every post is accepted: `last_batch_time` is
stamped after each gather, so every pass sleeps the whole `batch_interval`
before its gather, and `K * (B / K)` are sent per iteration. -/
theorem tps20k_paced (hR : 0 < tpsTarget) (hne : accounts ≠ [])
    (env : ℕ → Draw accounts (min 100 accounts.length)) (hacc : AllAccepted env)
    (hdisp : ∀ i, 0 ≤ (env i).dispatch) (fuel : ℕ)
    (hfuel : duration ≤ fuel * (transactionsPerBatchOptimized / tpsTarget)) :
    ∃ s, Tps20k.stressTestTransactionsOptimized signs accounts c0 tpsTarget duration env fuel = .ok s ∧
      duration ≤ s.clock ∧
      Paced (transactionsPerBatchOptimized / tpsTarget) duration
        (min 100 accounts.length * (transactionsPerBatchOptimized / min 100 accounts.length)) env s := by
  have hδ : (0 : ℚ) < transactionsPerBatchOptimized / tpsTarget :=
    div_pos (by norm_num [transactionsPerBatchOptimized]) hR
  obtain ⟨s, hrun, hend, -, hs⟩ := loadLoop_paced_deadline
    (fun i => optimizedPass signs (transactionsPerBatchOptimized / tpsTarget)
      (transactionsPerBatchOptimized / min 100 accounts.length) (env i))
    (Q := fun s => s.lastBatchTime = s.clock) hdisp (fun s hstamp _ => ⟨_, optimizedPass_eq_ok hsigns _ _ _ s, rfl,
      by simp only [waitForWindow_clock_of_stamped hδ hstamp], rfl, congrArg (s.txResults + ·)
        (responsesTotal_of_accepted (fun _ => countOutcome_of_isSent) (hacc s.iteration) _)⟩)
    hfuel rfl
  exact ⟨s, by rwa [Tps20k.stressTestTransactionsOptimized_eq, if_neg (not_or.mpr ⟨hR.ne', hne⟩)],
    hend, hs⟩

/-- Throughput of the two rate-controlled loops at a positive rate, when every
signature returns and every post is accepted, whatever each `gather` takes: the
deadline ends the loop; iteration `n` started at `n * B/R` plus the time of the
gathers before it, before the deadline, so each lasts `B/R` plus its own
gather; each of the `N` iterations sent `K * (B / K)` transactions and none
failed; and in total fewer than `R * D + B` were sent. -/
theorem rate_controlled_sent_bound (hdur : 0 < duration) (hR : 0 < tpsTarget) :
    (∀ env : ℕ → Draw accounts (min 50 accounts.length), AllAccepted env →
      (∀ i, 0 ≤ (env i).dispatch) →
      ∀ fuel : ℕ, duration ≤ fuel * (transactionsPerBatch / tpsTarget) →
      ∃ s, Fixed.stressTestTransactions signs accounts c0 tpsTarget duration env fuel = .ok s ∧
        duration ≤ s.clock ∧
        Paced (transactionsPerBatch / tpsTarget) duration
          (min 50 accounts.length * (transactionsPerBatch / min 50 accounts.length)) env s ∧
        (s.txResults.sent : ℚ) < tpsTarget * duration + transactionsPerBatch) ∧
    (accounts ≠ [] → ∀ env : ℕ → Draw accounts (min 100 accounts.length), AllAccepted env →
      (∀ i, 0 ≤ (env i).dispatch) →
      ∀ fuel : ℕ, duration ≤ fuel * (transactionsPerBatchOptimized / tpsTarget) →
      ∃ s, Tps20k.stressTestTransactionsOptimized signs accounts c0 tpsTarget duration env fuel =
          .ok s ∧
        duration ≤ s.clock ∧
        Paced (transactionsPerBatchOptimized / tpsTarget) duration
          (min 100 accounts.length * (transactionsPerBatchOptimized / min 100 accounts.length)) env s ∧
        (s.txResults.sent : ℚ) < tpsTarget * duration + transactionsPerBatchOptimized) := by
  constructor
  · intro env hacc hdisp fuel hfuel
    obtain ⟨s, hrun, hend, hs⟩ := fixed_paced hsigns accounts c0 tpsTarget duration hR env hacc hdisp fuel hfuel
    exact ⟨s, hrun, hend, hs, sent_lt_of_paced hR (mul_div_le_batch _ _) hdisp hdur hs⟩
  · intro hne env hacc hdisp fuel hfuel
    obtain ⟨s, hrun, hend, hs⟩ :=
      tps20k_paced hsigns accounts c0 tpsTarget duration hR hne env hacc hdisp fuel hfuel
    exact ⟨s, hrun, hend, hs, sent_lt_of_paced hR (mul_div_le_batch _ _) hdisp hdur hs⟩

end Runs

theorem allAccepted_constantDraw (a : Account) (hash : String) (dispatch : ℚ) :
    AllAccepted fun _ => constantDraw a (.accepted hash) dispatch :=
  fun _ _ _ => rfl

/-- The bound applies to both loops, here at one account, `R = 1000` (fixed)
and `R = 2000` (optimized), `D = 10` and instantaneous gathers. -/
theorem rate_controlled_sent_bound_applies :
    (∀ key tx, (fun _ _ => true : Signer) key tx = true) ∧ (0 : ℚ) < 10 ∧ (0 : ℚ) < 1000 ∧
      (∃ s, Fixed.stressTestTransactions (fun _ _ => true) [⟨"0xA", "k"⟩] (fun _ => 0) 1000 10
          (fun _ => constantDraw ⟨"0xA", "k"⟩ (.accepted "0x1") 0) 10 = .ok s ∧ 10 ≤ s.clock ∧
        Paced (transactionsPerBatch / 1000) 10 (min 50 1 * (transactionsPerBatch / min 50 1))
          (fun _ => constantDraw ⟨"0xA", "k"⟩ (.accepted "0x1") 0) s ∧
        (s.txResults.sent : ℚ) < 1000 * 10 + transactionsPerBatch) ∧
      (∃ s, Tps20k.stressTestTransactionsOptimized (fun _ _ => true) [⟨"0xA", "k"⟩] (fun _ => 0)
          2000 10 (fun _ => constantDraw ⟨"0xA", "k"⟩ (.accepted "0x1") 0) 10 = .ok s ∧ 10 ≤ s.clock ∧
        Paced (transactionsPerBatchOptimized / 2000) 10
          (min 100 1 * (transactionsPerBatchOptimized / min 100 1))
          (fun _ => constantDraw ⟨"0xA", "k"⟩ (.accepted "0x1") 0) s ∧
        (s.txResults.sent : ℚ) < 2000 * 10 + transactionsPerBatchOptimized) :=
  ⟨fun _ _ => rfl, by norm_num, by norm_num,
    (rate_controlled_sent_bound (fun _ _ => rfl) [⟨"0xA", "k"⟩] (fun _ => 0) 1000 10 (by norm_num)
      (by norm_num)).1 _ (allAccepted_constantDraw _ _ 0) (fun _ => le_refl _) 10
      (by norm_num [transactionsPerBatch]),
    (rate_controlled_sent_bound (fun _ _ => rfl) [⟨"0xA", "k"⟩] (fun _ => 0) 2000 10 (by norm_num)
      (by norm_num)).2 (List.cons_ne_nil _ _) _ (allAccepted_constantDraw _ _ 0) (fun _ => le_refl _) 10
      (by norm_num [transactionsPerBatchOptimized])⟩

/-- The optimized loop at `tps_target = 2000` on one account for ten seconds,
every post accepted and every gather taking one second, the whole
`batch_interval`.  Since `last_batch_time` is stamped after each gather, every
pass still sleeps a full second and takes two: five passes run, the deadline is
met at ten seconds, and 10000 transactions are sent, short of
`R * D - B = 18000`. -/
theorem tps20k_sleeps_the_whole_interval_after_each_gather :
    ∃ s, Tps20k.stressTestTransactionsOptimized (fun _ _ => true) [⟨"0xA", "k"⟩] (fun _ => 0) 2000 10
        (fun _ => constantDraw ⟨"0xA", "k"⟩ (.accepted "0x1") 1) 10 = .ok s ∧
      s.iteration = 5 ∧ s.clock = 10 ∧ s.txResults = ⟨10000, 0⟩ ∧
      (s.txResults.sent : ℚ) < 2000 * 10 - transactionsPerBatchOptimized := by
  obtain ⟨s, hrun, hend, hs⟩ := tps20k_paced (fun _ _ => rfl) [⟨"0xA", "k"⟩] (fun _ => 0) 2000 10
    (by norm_num) (List.cons_ne_nil _ _) _ (allAccepted_constantDraw _ _ 1) (fun _ => zero_le_one) 10
    (by norm_num [transactionsPerBatchOptimized])
  have hwin : (transactionsPerBatchOptimized : ℚ) / 2000 = 1 := by
    norm_num [transactionsPerBatchOptimized]
  have hT : ∀ n, dispatchTime (fun _ => constantDraw ⟨"0xA", "k"⟩ (.accepted "0x1") 1) n = n * 1 :=
    dispatchTime_const fun _ => rfl
  have hclock : s.clock = 2 * s.iteration := by rw [hs.clock_eq, hwin, hT]; ring
  have hN : s.iteration = 5 := by
    have hle : s.iteration ≤ 5 := Nat.le_of_not_lt fun hgt => by
      have h5 := hs.started 5 hgt
      norm_num [hwin, hT] at h5
    have hge : (5 : ℚ) ≤ s.iteration := by linarith
    exact le_antisymm hle (by exact_mod_cast hge)
  have hres : s.txResults = ⟨10000, 0⟩ := by rw [hs.counted, hN]; rfl
  refine ⟨s, hrun, hN, by rw [hclock, hN]; norm_num, hres, ?_⟩
  rw [hres]
  norm_num [transactionsPerBatchOptimized]

end SeiStressTest.Load
