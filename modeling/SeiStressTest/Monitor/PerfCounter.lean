import SeiStressTest.Python
import Mathlib.Algebra.BigOperators.Group.List
import Mathlib.Algebra.Order.Ring.Cast
import Mathlib.Tactic.Ring
set_option autoImplicit false

/-!
# Monitor: the `perf_counter` block monitor

`monitor_blocks` in `stress_test_blocktime_fixed.py` and in
`stress_test_20k_tps.py` (the two differ only in the HTTP session they open):

    last_block = await self.get_block_height(session)
    last_block_time = time.perf_counter()
    while time.time() - start_time < duration_seconds:
        await asyncio.sleep(0.02)
        try:
            current_block = await self.get_block_height(session)
            if current_block > last_block:
                current_block_time = time.perf_counter()
                blocks_diff = current_block - last_block
                time_diff_ms = (current_block_time - last_block_time) * 1000
                avg_block_time_ms = time_diff_ms / blocks_diff
                for _ in range(blocks_diff): ...append(avg_block_time_ms)
                if blocks_produced % 10 == 0: ...statistics.mean(...)...
                last_block = current_block
                last_block_time = current_block_time
                blocks_produced += blocks_diff
        except Exception as e:
            print(f"Error monitoring blocks: {e}")

A run is a sequence of polls.  The samples are appended before the counters
move, so an exception raised between the two (by the division or by
`statistics.mean`) would leave them out of step; neither is ever raised.  The
bare `except` therefore only ever catches a failed poll, and a failed poll
changes nothing the monitor reports.

The samples are the intended ones (`expectedSamples`, written from the
monitor's contract): `D` copies of the mean interval for every jump of `D`
blocks, so their number is the height advance and they sum to the time from
the first read to the last detection.
-/

namespace SeiStressTest.Monitor

/-- What one poll of `get_block_height` gives the monitor. -/
inductive Poll where
  /-- the post, `response.json()` or `int(result['result'], 16)` raised -/
  | fails
  /-- height `h`, and what `time.perf_counter()` reads right after it -/
  | height (h : ℤ) (t : ℚ)
  deriving DecidableEq, Repr

/-- An exception the loop's bare `except` caught and printed. -/
inductive Caught where
  /-- `get_block_height` raised -/
  | rpc
  /-- `time_diff_ms / blocks_diff` raised `ZeroDivisionError` -/
  | zeroDivision
  /-- `statistics.mean` raised on an empty list -/
  | statistics
  deriving DecidableEq, Repr

/-- The monitor's locals between two polls. -/
structure PerfState where
  lastBlock : ℤ
  lastBlockTime : ℚ
  blocksProduced : ℕ
  /-- what the run appended to `self.block_times`; `block_time_measurements`
  receives exactly the same values -/
  blockTimes : List ℚ
  /-- the exceptions printed as `Error monitoring blocks`, in order -/
  caught : List Caught

/-- The state after the initial read: height `h0` at time `t0`. -/
def PerfState.initial (h0 : ℤ) (t0 : ℚ) : PerfState :=
  { lastBlock := h0, lastBlockTime := t0, blocksProduced := 0, blockTimes := [], caught := [] }

/-- The real-time feedback: when `blocks_produced % 10 == 0`, the mean of the
last ten measurements, or of all of them while there are fewer; `none` when
`statistics.mean` raises. -/
def feedback (blocksProduced : ℕ) (measurements : List ℚ) : Option Unit :=
  if blocksProduced % 10 = 0 then
    (mean (if 10 ≤ measurements.length then lastN measurements 10 else measurements)).map
      fun _ => ()
  else some ()

/-- One pass of the loop after the sleep. -/
def pollStep (s : PerfState) : Poll → PerfState
  | .fails => { s with caught := s.caught ++ [.rpc] }
  | .height currentBlock currentBlockTime =>
    if s.lastBlock < currentBlock then
      let blocksDiff := currentBlock - s.lastBlock
      let timeDiffMs := (currentBlockTime - s.lastBlockTime) * 1000
      match trueDiv timeDiffMs blocksDiff with
      | none => { s with caught := s.caught ++ [.zeroDivision] }
      | some avgBlockTimeMs =>
        let blockTimes := s.blockTimes ++ List.replicate blocksDiff.toNat avgBlockTimeMs
        match feedback s.blocksProduced blockTimes with
        | none => { s with blockTimes := blockTimes, caught := s.caught ++ [.statistics] }
        | some () =>
          { lastBlock := currentBlock, lastBlockTime := currentBlockTime,
            blocksProduced := s.blocksProduced + blocksDiff.toNat, blockTimes := blockTimes,
            caught := s.caught }
    else s

/-- `monitor_blocks`: the initial read, then the polls of the loop.  A failed
initial read is outside the `try`, so the monitor raises (`none`). -/
def monitorBlocks (first : Poll) (polls : List Poll) : Option PerfState :=
  match first with
  | .fails => none
  | .height h0 t0 => some (polls.foldl pollStep (.initial h0 t0))

/-! ## One poll -/

/-- The feedback never raises once a sample has been appended. -/
theorem feedback_eq_some (blocksProduced : ℕ) {measurements : List ℚ} (h : measurements ≠ []) :
    feedback blocksProduced measurements = some () := by
  have hmean : (mean (if 10 ≤ measurements.length then lastN measurements 10
      else measurements)).isSome := by
    rw [mean_isSome_iff]
    split
    · exact lastN_ne_nil h (by decide)
    · exact h
  obtain ⟨x, hx⟩ := Option.isSome_iff_exists.mp hmean
  unfold feedback
  split
  · rw [hx]; rfl
  · rfl

@[simp] theorem pollStep_fails (s : PerfState) :
    pollStep s .fails = { s with caught := s.caught ++ [.rpc] } := rfl

theorem pollStep_of_not_lt (s : PerfState) {h : ℤ} (t : ℚ) (hle : ¬ s.lastBlock < h) :
    pollStep s (.height h t) = s := by
  simp [pollStep, hle]

/-- A new block: the division and the feedback return, the samples are
appended and the counters move. -/
theorem pollStep_of_lt (s : PerfState) {h : ℤ} (t : ℚ) (hlt : s.lastBlock < h) :
    pollStep s (.height h t) =
      { lastBlock := h, lastBlockTime := t,
        blocksProduced := s.blocksProduced + (h - s.lastBlock).toNat,
        blockTimes := s.blockTimes ++
          List.replicate (h - s.lastBlock).toNat
            ((t - s.lastBlockTime) * 1000 / ((h - s.lastBlock : ℤ) : ℚ)),
        caught := s.caught } := by
  have hne : ((h - s.lastBlock : ℤ) : ℚ) ≠ 0 := by exact_mod_cast (by omega : h - s.lastBlock ≠ 0)
  have hrep : s.blockTimes ++ List.replicate (h - s.lastBlock).toNat
      ((t - s.lastBlockTime) * 1000 / ((h - s.lastBlock : ℤ) : ℚ)) ≠ [] := by
    simp only [ne_eq, List.append_eq_nil, List.replicate_eq_nil_iff, not_and]
    omega
  simp only [pollStep, if_pos hlt, trueDiv_of_ne_zero _ hne, feedback_eq_some _ hrep]

/-! ## The contract -/

/-- The samples the monitor is meant to record, from running maximum `m` and
previous detection time `tPrev`: at each poll whose height `h` exceeds `m`,
`D = h - m` copies of `1000 * (t - tPrev) / D`. -/
def expectedSamples : ℤ → ℚ → List Poll → List ℚ
  | _, _, [] => []
  | m, tPrev, .fails :: rest => expectedSamples m tPrev rest
  | m, tPrev, .height h t :: rest =>
    if m < h then List.replicate (h - m).toNat (1000 * (t - tPrev) / (h - m)) ++ expectedSamples h t rest
    else expectedSamples m tPrev rest

/-- The `perf_counter` readings the polls come with. -/
def readings : List Poll → List ℚ
  | [] => []
  | .fails :: rest => readings rest
  | .height _ t :: rest => t :: readings rest

/-- How many polls failed. -/
def failures (polls : List Poll) : ℕ := polls.count .fails

/-! ## Whole runs -/

/-- Refinement: the samples a run appends are the contract's. -/
theorem foldl_pollStep_blockTimes (polls : List Poll) (s : PerfState) :
    (polls.foldl pollStep s).blockTimes =
      s.blockTimes ++ expectedSamples s.lastBlock s.lastBlockTime polls := by
  induction polls generalizing s with
  | nil => simp [expectedSamples]
  | cons p polls ih =>
    rw [List.foldl_cons, ih]
    cases p with
    | fails => simp [expectedSamples]
    | height h t =>
      by_cases hlt : s.lastBlock < h
      · rw [pollStep_of_lt s t hlt]
        simp [expectedSamples, hlt, mul_comm]
      · simp [pollStep_of_not_lt s t hlt, expectedSamples, hlt]

/-- What `monitor_blocks` appends to `self.block_times` after a successful
initial read: the contract's samples. -/
theorem monitorBlocks_blockTimes (h0 : ℤ) (t0 : ℚ) (polls : List Poll) :
    (monitorBlocks (.height h0 t0) polls).map PerfState.blockTimes =
      some (expectedSamples h0 t0 polls) := by
  simp [monitorBlocks, foldl_pollStep_blockTimes, PerfState.initial]

/-- The bare `except` prints one error per failed poll, and nothing else. -/
theorem foldl_pollStep_caught (polls : List Poll) (s : PerfState) :
    (polls.foldl pollStep s).caught = s.caught ++ List.replicate (failures polls) .rpc := by
  induction polls generalizing s with
  | nil => simp [failures]
  | cons p polls ih =>
    rw [List.foldl_cons, ih]
    cases p with
    | fails => simp [failures, List.count_cons, List.replicate_succ]
    | height h t =>
      by_cases hlt : s.lastBlock < h
      · simp [pollStep_of_lt s t hlt, failures, List.count_cons]
      · simp [pollStep_of_not_lt s t hlt, failures, List.count_cons]

/-- What holds after any number of polls from the initial read `(h0, t0)`:
one sample per block of the height advance, and samples that telescope to the
time of the last detection. -/
structure PerfInv (h0 : ℤ) (t0 : ℚ) (s : PerfState) : Prop where
  lastBlock_ge : h0 ≤ s.lastBlock
  produced_eq : s.blocksProduced = (s.lastBlock - h0).toNat
  length_eq : s.blockTimes.length = s.blocksProduced
  sum_eq : s.blockTimes.sum = 1000 * (s.lastBlockTime - t0)

theorem perfInv_initial (h0 : ℤ) (t0 : ℚ) : PerfInv h0 t0 (.initial h0 t0) where
  lastBlock_ge := le_refl _
  produced_eq := by simp [PerfState.initial]
  length_eq := rfl
  sum_eq := by simp [PerfState.initial]

/-- Step lemma: every poll keeps the invariant. -/
theorem PerfInv.poll {h0 : ℤ} {t0 : ℚ} {s : PerfState} (hs : PerfInv h0 t0 s) (p : Poll) :
    PerfInv h0 t0 (pollStep s p) := by
  cases p with
  | fails => exact { hs with }
  | height h t =>
    by_cases hlt : s.lastBlock < h
    · have hD : (((h - s.lastBlock).toNat : ℕ) : ℚ) = ((h - s.lastBlock : ℤ) : ℚ) := by
        rw [← Int.cast_natCast, Int.toNat_of_nonneg (by omega)]
      have hne : ((h - s.lastBlock : ℤ) : ℚ) ≠ 0 := by exact_mod_cast (by omega : h - s.lastBlock ≠ 0)
      have hge := hs.lastBlock_ge
      rw [pollStep_of_lt s t hlt]
      refine ⟨?_, ?_, by simp [hs.length_eq], ?_⟩ <;> dsimp only
      · omega
      · simp only [hs.produced_eq]
        omega
      · simp only [List.sum_append, List.sum_replicate, nsmul_eq_mul, hD, mul_div_cancel₀ _ hne,
          hs.sum_eq]
        ring
    · rw [pollStep_of_not_lt s t hlt]
      exact hs

/-- Run lemma: the invariant holds after every prefix of the polls. -/
theorem PerfInv.run {h0 : ℤ} {t0 : ℚ} {s : PerfState} (hs : PerfInv h0 t0 s) (polls : List Poll) :
    PerfInv h0 t0 (polls.foldl pollStep s) := by
  induction polls generalizing s with
  | nil => exact hs
  | cons p polls ih => exact ih (hs.poll p)

/-- With `perf_counter` readings that never go back, every sample is
non-negative. -/
theorem foldl_pollStep_nonneg (polls : List Poll) (s : PerfState)
    (hs : ∀ x ∈ s.blockTimes, 0 ≤ x) (hchain : List.Chain (· ≤ ·) s.lastBlockTime (readings polls)) :
    ∀ x ∈ (polls.foldl pollStep s).blockTimes, 0 ≤ x := by
  induction polls generalizing s with
  | nil => exact hs
  | cons p polls ih =>
    cases p with
    | fails => exact ih _ hs hchain
    | height h t =>
      rw [readings, List.chain_cons] at hchain
      by_cases hlt : s.lastBlock < h
      · refine ih _ ?_ (by simpa [pollStep_of_lt s t hlt] using hchain.2)
        rw [pollStep_of_lt s t hlt]
        intro x hx
        rcases List.mem_append.mp hx with hx | hx
        · exact hs x hx
        · rw [List.eq_of_mem_replicate hx]
          have hpos : (0 : ℚ) < ((h - s.lastBlock : ℤ) : ℚ) := Int.cast_pos.mpr (by omega)
          exact div_nonneg (mul_nonneg (sub_nonneg.mpr hchain.1) (by norm_num)) hpos.le
      · rw [List.foldl_cons, pollStep_of_not_lt s t hlt]
        exact ih s hs (List.Chain'.imp_head (fun hc => le_trans hchain.1 hc) hchain.2)

/-- What the monitor reports and computes with: everything but the printed
errors. -/
def PerfState.observed (s : PerfState) : ℤ × ℚ × ℕ × List ℚ :=
  (s.lastBlock, s.lastBlockTime, s.blocksProduced, s.blockTimes)

/-- A poll's effect on what the monitor reports depends only on what it
reports. -/
theorem observed_pollStep {s s' : PerfState} (h : s.observed = s'.observed) (p : Poll) :
    (pollStep s p).observed = (pollStep s' p).observed := by
  simp only [PerfState.observed, Prod.mk.injEq] at h
  obtain ⟨hb, ht, hp, hs⟩ := h
  cases p with
  | fails => simp [PerfState.observed, hb, ht, hp, hs]
  | height h t =>
    by_cases hlt : s.lastBlock < h
    · rw [pollStep_of_lt s t hlt, pollStep_of_lt s' t (hb ▸ hlt)]
      simp [PerfState.observed, hb, ht, hp, hs]
    · rw [pollStep_of_not_lt s t hlt, pollStep_of_not_lt s' t (hb ▸ hlt)]
      simp [PerfState.observed, hb, ht, hp, hs]

theorem observed_foldl {s s' : PerfState} (h : s.observed = s'.observed) (polls : List Poll) :
    (polls.foldl pollStep s).observed = (polls.foldl pollStep s').observed := by
  induction polls generalizing s s' with
  | nil => exact h
  | cons p polls ih => exact ih (observed_pollStep h p)

/-- A failed poll, wherever it falls in a run, changes nothing the monitor
reports. -/
theorem observed_foldl_fails (s : PerfState) (pre post : List Poll) :
    ((pre ++ .fails :: post).foldl pollStep s).observed = ((pre ++ post).foldl pollStep s).observed := by
  rw [List.foldl_append, List.foldl_append, List.foldl_cons]
  refine observed_foldl ?_ post
  rfl

/-- The `perf_counter` monitor of `stress_test_blocktime_fixed.py` and
`stress_test_20k_tps.py`, for any polls after a successful initial read: its
samples are the contract's, and after every poll their number is the blocks
produced and the height advance, they sum to `1000 * (t_last - t0)`, they are
non-negative when the readings never go back, the only exceptions caught are
the failed polls, and a failed poll changes nothing the monitor reports. -/
theorem monitor_blocks_attributes_each_block (h0 : ℤ) (t0 : ℚ) (polls : List Poll) :
    ∃ s, monitorBlocks (.height h0 t0) polls = some s ∧
      s.blockTimes = expectedSamples h0 t0 polls ∧
      PerfInv h0 t0 s ∧
      s.caught = List.replicate (failures polls) .rpc ∧
      (List.Chain (· ≤ ·) t0 (readings polls) → ∀ x ∈ s.blockTimes, 0 ≤ x) ∧
      ∀ pre post, polls = pre ++ .fails :: post →
        (monitorBlocks (.height h0 t0) (pre ++ post)).map PerfState.observed = some s.observed :=
  ⟨_, rfl, by simpa using foldl_pollStep_blockTimes polls (.initial h0 t0),
    (perfInv_initial h0 t0).run polls, by simpa using foldl_pollStep_caught polls (.initial h0 t0),
    fun hchain => foldl_pollStep_nonneg polls _ (by simp [PerfState.initial]) hchain,
    fun pre post hpolls => by
      subst hpolls
      exact congrArg some (observed_foldl_fails _ pre post).symm⟩

/-- A run with a failed poll and a jump of three blocks: three samples of a
third of the interval each. -/
theorem monitor_blocks_attributes_each_block_applies :
    List.Chain (· ≤ ·) 0 (readings [.height 100 0, .fails, .height 103 (3 / 10)]) ∧
      ∃ s, monitorBlocks (.height 100 0) [.height 100 0, .fails, .height 103 (3 / 10)] = some s ∧
        s.blockTimes = expectedSamples 100 0 [.height 100 0, .fails, .height 103 (3 / 10)] ∧
        ∀ x ∈ s.blockTimes, 0 ≤ x := by
  obtain ⟨s, hs, hsamples, -, -, hnonneg, -⟩ :=
    monitor_blocks_attributes_each_block 100 0 [.height 100 0, .fails, .height 103 (3 / 10)]
  have hchain : List.Chain (· ≤ ·) (0 : ℚ) (readings [.height 100 0, .fails, .height 103 (3 / 10)]) := by
    simp only [readings, List.chain_cons]
    exact ⟨le_refl _, div_nonneg (by norm_num) (by norm_num), List.Chain.nil⟩
  exact ⟨hchain, s, hs, hsamples, hnonneg hchain⟩

end SeiStressTest.Monitor
