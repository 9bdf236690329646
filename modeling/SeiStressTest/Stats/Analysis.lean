import SeiStressTest.Load.Outcome
import Mathlib.Algebra.Order.BigOperators.Group.List
import Mathlib.Tactic.Linarith
import Mathlib.Tactic.Positivity
import Mathlib.Tactic.Ring
set_option autoImplicit false

/-!
# Stats: the analysis phase of `run_full_test`

Phase 3 of `run_full_test` is one block, shared by `stress_test_blocktime.py`,
`stress_test_blocktime_fixed.py` and `stress_test_20k_tps.py`:

    if self.block_times:
        avg_block_time = statistics.mean(self.block_times)
        std_block_time = statistics.stdev(self.block_times) if len(self.block_times) > 1 else 0
        percentile_95 = statistics.quantiles(self.block_times, n=20)[18] if len(self.block_times) > 20 else max(self.block_times)
        ... min(self.block_times) ... max(self.block_times) ...
        blocks_under_100ms = sum(1 for t in self.block_times if t <= 100)
        blocks_under_85ms = sum(1 for t in self.block_times if t <= 85)
        ... self.tx_results['sent'] / stress_duration ...

Only the verdict differs.  The two block-time scripts judge the average alone
(`<= 85`, else `<= 100`); the 20k script also asks for `actual_tps >= 18000`,
resp. `>= 15000`, and adds advice below 10000 TPS.

`statistics.quantiles` (default, exclusive method) interpolates between two
neighbouring order statistics and clamps its index "to prevent IndexErrors".
With more than twenty samples the clamp never acts, so the 95th cut lies
between two samples.  `statistics.stdev` is only printed and is not modelled.

Samples are floats in the source and rationals here.  `statistics.mean` sums
exactly and rounds once, so its float result stays between the smallest and
the largest sample, as the exact mean does.  The interpolation of
`statistics.quantiles` is evaluated in floats, one rounding per operation: the
95th cut lies between two samples in exact arithmetic, but CPython's float cut
can exceed the maximum by a few ulps.  What `SoundReport` says of the cut holds
of the exact value.

The results: a report of a non-empty sample list with a positive stress
duration is consistent (`SoundReport`), and each script's verdict is the
specification's ordered rule chain (`classify`) at that script's thresholds.
-/

namespace SeiStressTest.Stats

open Load (TxResults)

/-! ## `statistics.quantiles` -/

/-- `sorted(data)` on float samples, read as rationals. -/
def sortedSamples (data : List ℚ) : List ℚ := data.mergeSort fun a b => decide (a ≤ b)

/-- One cut point of `statistics.quantiles(data, n=n)`, exclusive method, on the
sorted `data`, computed exactly (CPython rounds each float operation):

    m = ld + 1
    j = i * m // n
    j = 1 if j < 1 else ld-1 if j > ld-1 else j
    delta = i*m - j*n
    interpolated = (data[j - 1] * (n - delta) + data[j] * delta) / n -/
def exclusiveCut (data : List ℚ) (n i : ℕ) : Option ℚ :=
  let ld : ℤ := data.length
  let m : ℤ := ld + 1
  let j : ℤ := i * m / n
  let j : ℤ := if j < 1 then 1 else if j > ld - 1 then ld - 1 else j
  let delta : ℤ := i * m - j * n
  do
    let lo ← getIndex data (j - 1)
    let hi ← getIndex data j
    trueDiv (lo * ((n : ℚ) - delta) + hi * delta) n

/-- `statistics.quantiles(data, n=n)`: the cuts for `i in range(1, n)`.  Fewer
than two data points raise `StatisticsError`; the call below only passes more
than twenty. -/
def quantiles (data : List ℚ) (n : ℕ) : Option (List ℚ) :=
  if n < 1 then none
  else
    let data := sortedSamples data
    if data.length < 2 then none else (List.range' 1 (n - 1)).mapM (exclusiveCut data n)

/-- `statistics.quantiles(self.block_times, n=20)[18] if len(self.block_times) > 20
else max(self.block_times)`. -/
def percentile95 (blockTimes : List ℚ) : Option ℚ :=
  if 20 < blockTimes.length then (quantiles blockTimes 20).bind fun cuts => getIndex cuts 18
  else blockTimes.max?

/-- `sum(1 for t in self.block_times if t <= bound)`. -/
def blocksUnder (bound : ℚ) (blockTimes : List ℚ) : ℕ :=
  blockTimes.countP fun t => decide (t ≤ bound)

/-- On integer samples the count is the integer comparison. -/
theorem blocksUnder_intCast (bound : ℤ) (blockTimes : List ℤ) :
    blocksUnder bound (blockTimes.map (↑)) = blockTimes.countP (· ≤ bound) := by
  simp only [blocksUnder, List.countP_map, Function.comp_def, Int.cast_le]

/-! ## The report and the verdicts -/

/-- The three verdict lines. -/
inductive Tier where
  /-- "Chain MAINTAINED 85ms average block time under load" -/
  | target
  /-- "Chain maintained sub-100ms block time" -/
  | acceptable
  /-- "Chain could not maintain target block time" / "Chain struggled" -/
  | failing
  deriving DecidableEq, Repr

/-- What Phase 3 prints, the standard deviation and the percentages apart. -/
structure Report where
  avgBlockTime : ℚ
  percentile95 : ℚ
  minBlockTime : ℚ
  maxBlockTime : ℚ
  blocksUnder100ms : ℕ
  blocksUnder85ms : ℕ
  sent : ℕ
  failed : ℕ
  /-- "Effective TPS" / `actual_tps`: `self.tx_results['sent'] / stress_duration` -/
  tps : ℚ
  tier : Tier
  /-- the advice `stress_test_20k_tps.py` prints when `actual_tps < 10000` -/
  lowTpsNote : Bool
  deriving DecidableEq, Repr

/-- Phase 3 with a script's verdict rule, applied to the average and the TPS:
`none` when it raises, `some none` when `self.block_times` is empty and nothing
is reported. -/
def analysis (verdict : ℚ → ℚ → Tier × Bool) (blockTimes : List ℚ) (txResults : TxResults)
    (stressDuration : ℚ) : Option (Option Report) :=
  if blockTimes = [] then some none
  else do
    let avgBlockTime ← mean blockTimes
    let p95 ← percentile95 blockTimes
    let lo ← blockTimes.min?
    let hi ← blockTimes.max?
    let tps ← trueDiv txResults.sent stressDuration
    let v := verdict avgBlockTime tps
    pure (some
      { avgBlockTime := avgBlockTime
        percentile95 := p95
        minBlockTime := lo
        maxBlockTime := hi
        blocksUnder100ms := blocksUnder 100 blockTimes
        blocksUnder85ms := blocksUnder 85 blockTimes
        sent := txResults.sent
        failed := txResults.failed
        tps := tps
        tier := v.1
        lowTpsNote := v.2 })

/-- The verdict of `stress_test_blocktime.py` and `stress_test_blocktime_fixed.py`. -/
def averageVerdict (avgBlockTime _tps : ℚ) : Tier × Bool :=
  (if avgBlockTime ≤ 85 then .target else if avgBlockTime ≤ 100 then .acceptable else .failing,
    false)

/-- The verdict of `stress_test_20k_tps.py`. -/
def throughputVerdict (avgBlockTime actualTps : ℚ) : Tier × Bool :=
  if avgBlockTime ≤ 85 ∧ 18000 ≤ actualTps then (.target, false)
  else if avgBlockTime ≤ 100 ∧ 15000 ≤ actualTps then (.acceptable, false)
  else (.failing, decide (actualTps < 10000))

/-- Phase 3 of `stress_test_blocktime.py`: the timestamp monitor's samples are
integers. -/
def Blocktime.runFullTestAnalysis (blockTimes : List ℤ) (txResults : TxResults)
    (stressDuration : ℚ) : Option (Option Report) :=
  analysis averageVerdict (blockTimes.map (↑)) txResults stressDuration

/-- Phase 3 of `stress_test_blocktime_fixed.py`. -/
def Fixed.runFullTestAnalysis (blockTimes : List ℚ) (txResults : TxResults)
    (stressDuration : ℚ) : Option (Option Report) :=
  analysis averageVerdict blockTimes txResults stressDuration

/-- Phase 3 of `stress_test_20k_tps.py`. -/
def Tps20k.runFullTestAnalysis (blockTimes : List ℚ) (txResults : TxResults)
    (stressDuration : ℚ) : Option (Option Report) :=
  analysis throughputVerdict blockTimes txResults stressDuration

/-! ## The specification's verdict -/

/-- The thresholds a verdict is judged against. -/
structure VerdictThresholds where
  targetIntervalMs : ℚ
  acceptableIntervalMs : ℚ
  minThroughput : ℚ
  targetThroughput : ℚ

/-- The ordered rule chain, written from the specification: the best tier when
the mean interval is within target and the throughput reaches its target, the
middle tier when the mean is within the acceptable interval and the throughput
reaches its minimum, the failing tier otherwise; boundaries are inclusive. -/
def classify (th : VerdictThresholds) (meanInterval throughput : ℚ) : Tier :=
  if meanInterval ≤ th.targetIntervalMs ∧ th.targetThroughput ≤ throughput then .target
  else if meanInterval ≤ th.acceptableIntervalMs ∧ th.minThroughput ≤ throughput then .acceptable
  else .failing

/-- The block-time scripts' thresholds: no throughput requirement. -/
def blocktimeThresholds : VerdictThresholds := ⟨85, 100, 0, 0⟩

/-- The 20k script's thresholds. -/
def tps20kThresholds : VerdictThresholds := ⟨85, 100, 15000, 18000⟩

theorem averageVerdict_tier (avgBlockTime : ℚ) {tps : ℚ} (htps : 0 ≤ tps) :
    (averageVerdict avgBlockTime tps).1 = classify blocktimeThresholds avgBlockTime tps := by
  simp [averageVerdict, classify, blocktimeThresholds, htps]

/-- The block-time scripts give the 85 ms verdict exactly on an average of at
most 85 ms. -/
theorem averageVerdict_eq_target_iff (avgBlockTime tps : ℚ) :
    (averageVerdict avgBlockTime tps).1 = .target ↔ avgBlockTime ≤ 85 := by
  unfold averageVerdict
  split_ifs with h85 <;> simp [h85]

/-- They give a verdict better than failing exactly on an average of at most
100 ms. -/
theorem averageVerdict_ne_failing_iff (avgBlockTime tps : ℚ) :
    (averageVerdict avgBlockTime tps).1 ≠ .failing ↔ avgBlockTime ≤ 100 := by
  unfold averageVerdict
  split_ifs with h85 h100
  · exact iff_of_true (by decide) (h85.trans (by norm_num))
  · exact iff_of_true (by decide) h100
  · exact iff_of_false (by decide) h100

theorem throughputVerdict_tier (avgBlockTime tps : ℚ) :
    (throughputVerdict avgBlockTime tps).1 = classify tps20kThresholds avgBlockTime tps := by
  unfold throughputVerdict classify tps20kThresholds
  split_ifs <;> rfl

/-! ## The 95th percentile lies between two samples -/

theorem sortedSamples_pairwise (data : List ℚ) : (sortedSamples data).Pairwise (· ≤ ·) :=
  pairwise_mergeSort_le data

@[simp] theorem length_sortedSamples (data : List ℚ) : (sortedSamples data).length = data.length :=
  List.length_mergeSort _

theorem mem_sortedSamples {data : List ℚ} {x : ℚ} : x ∈ sortedSamples data ↔ x ∈ data :=
  List.mem_mergeSort

/-- A weighted mean of `lo ≤ hi` with weight `δ / n ∈ [0, 1]` lies between them. -/
theorem interpolate_mem_Icc {lo hi n δ : ℚ} (hle : lo ≤ hi) (hδ : 0 ≤ δ) (hδn : δ ≤ n)
    (hn : 0 < n) : lo ≤ (lo * (n - δ) + hi * δ) / n ∧ (lo * (n - δ) + hi * δ) / n ≤ hi := by
  constructor
  · rw [le_div_iff₀ hn]
    linarith [mul_nonneg (sub_nonneg.mpr hle) hδ]
  · rw [div_le_iff₀ hn]
    linarith [mul_nonneg (sub_nonneg.mpr hle) (sub_nonneg.mpr hδn)]

/-- The clamp keeps both indices in range: on two or more data points no cut
raises. -/
theorem exclusiveCut_isSome {data : List ℚ} (h2 : 2 ≤ data.length) {n : ℕ} (hn : 0 < n) (i : ℕ) :
    (exclusiveCut data n i).isSome := by
  unfold exclusiveCut
  dsimp only
  generalize hj : (if (i : ℤ) * ((data.length : ℤ) + 1) / n < 1 then 1
    else if (i : ℤ) * ((data.length : ℤ) + 1) / n > data.length - 1 then (data.length : ℤ) - 1
    else (i : ℤ) * ((data.length : ℤ) + 1) / n) = j
  have hrange : 1 ≤ j ∧ j ≤ data.length - 1 := by
    subst hj
    split_ifs <;> omega
  have hn' : (n : ℚ) ≠ 0 := Nat.cast_ne_zero.mpr hn.ne'
  rw [getIndex_of_nonneg _ (by omega), getIndex_of_nonneg _ (by omega),
    List.getElem?_eq_getElem (by omega), List.getElem?_eq_getElem (by omega)]
  simp only [Option.bind_eq_bind, Option.some_bind, trueDiv_of_ne_zero _ hn', Option.isSome_some]

/-- Where the clamp does not act (`1 ≤ j ≤ ld - 1` for `j = i * (ld + 1) // n`),
the cut interpolates between the neighbours `data[j - 1]` and `data[j]`. -/
theorem exclusiveCut_between {data : List ℚ} (hsorted : data.Pairwise (· ≤ ·)) {n i j : ℕ}
    (hn : 0 < n) (hj : j = i * (data.length + 1) / n) (hj1 : 1 ≤ j) (hjlt : j < data.length) :
    ∃ v, exclusiveCut data n i = some v ∧ data[j - 1] ≤ v ∧ v ≤ data[j] := by
  obtain ⟨r, hr, hdiv⟩ : ∃ r, r < n ∧ i * (data.length + 1) = n * j + r :=
    ⟨_, Nat.mod_lt _ hn, by rw [hj, Nat.div_add_mod]⟩
  have hjz : (i : ℤ) * ((data.length : ℤ) + 1) / n = j := by
    rw [hj, Int.natCast_div, Nat.cast_mul, Nat.cast_succ]
  have hle : data[j - 1] ≤ data[j] :=
    List.pairwise_iff_getElem.mp hsorted _ _ _ _ (by omega)
  have hn' : (0 : ℚ) < n := Nat.cast_pos.mpr hn
  have hδ : ((i : ℤ) * ((data.length : ℤ) + 1) - j * n : ℤ) = r := by
    have := congrArg (Nat.cast : ℕ → ℤ) hdiv
    push_cast at this
    rw [mul_comm (j : ℤ)]
    omega
  have hv := interpolate_mem_Icc hle (δ := r) (n := n) (Nat.cast_nonneg _) (Nat.cast_le.mpr hr.le) hn'
  refine ⟨_, ?_, hv.1, hv.2⟩
  unfold exclusiveCut
  dsimp only
  simp only [hjz, if_neg (by omega : ¬ (j : ℤ) < 1), if_neg (by omega : ¬ (j : ℤ) > data.length - 1),
    hδ, show (j : ℤ) - 1 = ((j - 1 : ℕ) : ℤ) by omega, getIndex_natCast_of_lt (by omega : j - 1 < data.length),
    getIndex_natCast_of_lt hjlt, Option.bind_eq_bind, Option.some_bind, trueDiv_of_ne_zero _ hn'.ne',
    Int.cast_natCast]

/-- On two or more samples `statistics.quantiles` returns its `n - 1` cuts. -/
theorem quantiles_eq_some {data : List ℚ} (h2 : 2 ≤ data.length) {n : ℕ} (hn : 0 < n) :
    quantiles data n = some ((List.range' 1 (n - 1)).map fun i =>
      (exclusiveCut (sortedSamples data) n i).get
        (exclusiveCut_isSome (by rwa [length_sortedSamples]) hn i)) := by
  rw [quantiles, if_neg (by omega), if_neg (by rw [length_sortedSamples]; omega)]
  exact mapM_eq_some_map _ fun i _ => Option.eq_some_of_isSome _

/-- The 95th percentile `run_full_test` reports, on any non-empty sample list,
is defined and lies between two samples: with more than twenty samples the cut
`quantiles(..., n=20)[18]` interpolates between two neighbouring order
statistics (the clamp never acts), otherwise it is the maximum. -/
theorem percentile95_between_samples {blockTimes : List ℚ} (hne : blockTimes ≠ []) :
    ∃ p, percentile95 blockTimes = some p ∧ ∃ a ∈ blockTimes, ∃ b ∈ blockTimes, a ≤ p ∧ p ≤ b := by
  unfold percentile95
  split
  · rename_i hlen
    obtain ⟨v, hv, hlo, hhi⟩ := exclusiveCut_between (sortedSamples_pairwise blockTimes)
      (n := 20) (i := 19) (by decide) rfl (by rw [length_sortedSamples]; omega)
      (by rw [length_sortedSamples]; omega)
    refine ⟨v, ?_, _, mem_sortedSamples.mp (List.getElem_mem _), _,
      mem_sortedSamples.mp (List.getElem_mem _), hlo, hhi⟩
    rw [quantiles_eq_some (by omega) (by decide), Option.some_bind, getIndex_of_nonneg _ (by decide)]
    simp [hv]
  · obtain ⟨b, hb⟩ := Option.ne_none_iff_exists'.mp (mt List.max?_eq_none_iff.mp hne)
    have hmem := List.max?_mem (fun _ _ => max_choice _ _) hb
    exact ⟨b, hb, b, hmem, b, hmem, le_rfl, le_rfl⟩

/-! ## What a report says -/

/-- A Phase 3 report that agrees with its samples and counters, its verdict
judged at the thresholds `th`.  `min_le_p95` and `p95_le_max` hold in exact
arithmetic; the float cut CPython computes can exceed the maximum by a few ulps. -/
structure SoundReport (th : VerdictThresholds) (blockTimes : List ℚ) (txResults : TxResults)
    (stressDuration : ℚ) (r : Report) : Prop where
  avg_eq : r.avgBlockTime = blockTimes.sum / blockTimes.length
  min_eq : blockTimes.min? = some r.minBlockTime
  max_eq : blockTimes.max? = some r.maxBlockTime
  min_le_avg : r.minBlockTime ≤ r.avgBlockTime
  avg_le_max : r.avgBlockTime ≤ r.maxBlockTime
  min_le_p95 : r.minBlockTime ≤ r.percentile95
  p95_le_max : r.percentile95 ≤ r.maxBlockTime
  under85_le_under100 : r.blocksUnder85ms ≤ r.blocksUnder100ms
  under100_le_length : r.blocksUnder100ms ≤ blockTimes.length
  sent_eq : r.sent = txResults.sent
  failed_eq : r.failed = txResults.failed
  tps_eq : r.tps = txResults.sent / stressDuration
  tier_eq : r.tier = classify th r.avgBlockTime r.tps

/-- Spec of Phase 3 on a non-empty sample list and a non-zero duration: nothing
raises, and the report holds the mean, the percentile, the extremes, the two
counts, the counters, the TPS and the verdict on them. -/
theorem analysis_eq_some (verdict : ℚ → ℚ → Tier × Bool) {blockTimes : List ℚ}
    (hne : blockTimes ≠ []) (txResults : TxResults) {stressDuration : ℚ} (hd : stressDuration ≠ 0)
    {p lo hi : ℚ} (hp : percentile95 blockTimes = some p) (hlo : blockTimes.min? = some lo)
    (hhi : blockTimes.max? = some hi) :
    analysis verdict blockTimes txResults stressDuration = some (some
      { avgBlockTime := blockTimes.sum / blockTimes.length
        percentile95 := p
        minBlockTime := lo
        maxBlockTime := hi
        blocksUnder100ms := blocksUnder 100 blockTimes
        blocksUnder85ms := blocksUnder 85 blockTimes
        sent := txResults.sent
        failed := txResults.failed
        tps := txResults.sent / stressDuration
        tier := (verdict (blockTimes.sum / blockTimes.length) (txResults.sent / stressDuration)).1
        lowTpsNote :=
          (verdict (blockTimes.sum / blockTimes.length) (txResults.sent / stressDuration)).2 }) := by
  simp only [analysis, if_neg hne, mean, hp, hlo, hhi, trueDiv_of_ne_zero _ hd]
  rfl

/-- The two counts of a report are those of its samples. -/
theorem analysis_blocksUnder {verdict : ℚ → ℚ → Tier × Bool} {blockTimes : List ℚ} {txResults : TxResults}
    {stressDuration : ℚ} {r : Report} (h : analysis verdict blockTimes txResults stressDuration = some (some r)) :
    r.blocksUnder100ms = blocksUnder 100 blockTimes ∧ r.blocksUnder85ms = blocksUnder 85 blockTimes := by
  unfold analysis at h
  split_ifs at h
  · cases h
  simp only [Option.bind_eq_bind, Option.bind_eq_some, pure, Option.some.injEq] at h
  obtain ⟨_, -, _, -, _, -, _, -, _, -, rfl⟩ := h
  exact ⟨rfl, rfl⟩

/-- The extremes of a non-empty sample list bound its mean. -/
theorem mean_mem_Icc {blockTimes : List ℚ} (hne : blockTimes ≠ []) {lo hi : ℚ}
    (hlo : ∀ x ∈ blockTimes, lo ≤ x) (hhi : ∀ x ∈ blockTimes, x ≤ hi) :
    lo ≤ blockTimes.sum / blockTimes.length ∧ blockTimes.sum / blockTimes.length ≤ hi := by
  have hlen : (0 : ℚ) < blockTimes.length := by exact_mod_cast List.length_pos.mpr hne
  constructor
  · rw [le_div_iff₀ hlen, mul_comm, ← nsmul_eq_mul]
    exact List.card_nsmul_le_sum _ _ hlo
  · rw [div_le_iff₀ hlen, mul_comm, ← nsmul_eq_mul]
    exact List.sum_le_card_nsmul _ _ hhi

/-- Phase 3 with a verdict that is the rule chain at `th` whenever the TPS is
non-negative, on a non-empty sample list and a positive stress duration: it
returns a sound report, whose advice flag is the verdict's. -/
theorem analysis_sound {verdict : ℚ → ℚ → Tier × Bool} {th : VerdictThresholds}
    (hverdict : ∀ avg tps, 0 ≤ tps → (verdict avg tps).1 = classify th avg tps)
    {blockTimes : List ℚ} (hne : blockTimes ≠ []) (txResults : TxResults) {stressDuration : ℚ}
    (hd : 0 < stressDuration) :
    ∃ r, analysis verdict blockTimes txResults stressDuration = some (some r) ∧
      SoundReport th blockTimes txResults stressDuration r ∧
      r.lowTpsNote = (verdict r.avgBlockTime r.tps).2 := by
  obtain ⟨p, hp, a, ha, b, hb, hap, hpb⟩ := percentile95_between_samples hne
  obtain ⟨lo, hlo⟩ := Option.ne_none_iff_exists'.mp (mt List.min?_eq_none_iff.mp hne)
  obtain ⟨hi, hhi⟩ := Option.ne_none_iff_exists'.mp (mt List.max?_eq_none_iff.mp hne)
  have hlo_le : ∀ x ∈ blockTimes, lo ≤ x :=
    (List.le_min?_iff (fun _ _ _ => le_min_iff) hlo).mp le_rfl
  have hle_hi : ∀ x ∈ blockTimes, x ≤ hi :=
    (List.max?_le_iff (fun _ _ _ => max_le_iff) hhi).mp le_rfl
  have hunder : blocksUnder 85 blockTimes ≤ blocksUnder 100 blockTimes :=
    List.countP_mono_left fun x _ h => by
      simp only [decide_eq_true_eq] at h ⊢
      linarith
  obtain ⟨hlo_avg, havg_hi⟩ := mean_mem_Icc hne hlo_le hle_hi
  exact ⟨_, analysis_eq_some verdict hne txResults hd.ne' hp hlo hhi,
    ⟨rfl, hlo, hhi, hlo_avg, havg_hi, (hlo_le a ha).trans hap, hpb.trans (hle_hi b hb), hunder,
      List.countP_le_length _, rfl, rfl, rfl,
      hverdict _ _ (div_nonneg (Nat.cast_nonneg _) hd.le)⟩, rfl⟩

/-- The 20k script's advice is printed exactly on a failing verdict below
10000 TPS. -/
theorem throughputVerdict_note (avgBlockTime tps : ℚ) :
    (throughputVerdict avgBlockTime tps).2 =
      decide ((throughputVerdict avgBlockTime tps).1 = .failing ∧ tps < 10000) := by
  unfold throughputVerdict
  split_ifs <;> simp

/-- Phase 3 of each `run_full_test`, on any non-empty sample list and any
positive stress duration: nothing raises, the report is sound, and the verdict
is the specification's rule chain, with no throughput requirement for the two
block-time scripts and with 15000 / 18000 TPS for the 20k script, which adds its
advice exactly on a failing verdict below 10000 TPS. -/
theorem run_full_test_verdict_follows_the_rule_chain (intTimes : List ℤ) (hint : intTimes ≠ [])
    (blockTimes : List ℚ) (hne : blockTimes ≠ []) (txResults : TxResults) (stressDuration : ℚ)
    (hd : 0 < stressDuration) :
    (∃ r, Blocktime.runFullTestAnalysis intTimes txResults stressDuration = some (some r) ∧
        SoundReport blocktimeThresholds (intTimes.map (↑)) txResults stressDuration r ∧
        r.lowTpsNote = false) ∧
      (∃ r, Fixed.runFullTestAnalysis blockTimes txResults stressDuration = some (some r) ∧
        SoundReport blocktimeThresholds blockTimes txResults stressDuration r ∧
        r.lowTpsNote = false) ∧
      (∃ r, Tps20k.runFullTestAnalysis blockTimes txResults stressDuration = some (some r) ∧
        SoundReport tps20kThresholds blockTimes txResults stressDuration r ∧
        r.lowTpsNote = decide (r.tier = .failing ∧ r.tps < 10000)) := by
  have haverage : ∀ avg tps, 0 ≤ tps → (averageVerdict avg tps).1 = classify blocktimeThresholds avg tps :=
    fun _ _ h => averageVerdict_tier _ h
  refine ⟨analysis_sound haverage (by simpa using hint) _ hd, analysis_sound haverage hne _ hd, ?_⟩
  obtain ⟨r, hr, hsound, hnote⟩ :=
    analysis_sound (fun a t _ => throughputVerdict_tier a t) hne txResults hd
  refine ⟨r, hr, hsound, ?_⟩
  rw [hnote, throughputVerdict_note, throughputVerdict_tier, ← hsound.tier_eq]

/-- One 85 ms sample and 600000 transactions over 30 s: the 20k script reports
its target tier. -/
theorem run_full_test_verdict_follows_the_rule_chain_applies :
    ([85] : List ℤ) ≠ [] ∧ ([85] : List ℚ) ≠ [] ∧ (0 : ℚ) < 30 ∧
      ∃ r, Tps20k.runFullTestAnalysis [85] ⟨600000, 0⟩ 30 = some (some r) ∧ r.tier = .target := by
  obtain ⟨-, -, r, hr, hsound, -⟩ := run_full_test_verdict_follows_the_rule_chain [85]
    (by simp) [85] (by simp) ⟨600000, 0⟩ 30 (by norm_num)
  refine ⟨by simp, by simp, by norm_num, r, hr, ?_⟩
  rw [hsound.tier_eq, hsound.avg_eq, hsound.tps_eq]
  norm_num [classify, tps20kThresholds]

end SeiStressTest.Stats
