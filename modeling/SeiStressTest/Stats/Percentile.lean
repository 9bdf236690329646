import SeiStressTest.Python
set_option autoImplicit false

/-!
# Stats: the percentiles of `simple_blocktime_test.py`

The final statistics of `monitor_block_production`, when at least ten samples
were collected:

    sorted_times = sorted(self.block_times)
    p50 = sorted_times[len(sorted_times)//2]
    p90 = sorted_times[int(len(sorted_times)*0.9)]
    p95 = sorted_times[int(len(sorted_times)*0.95)]
    p99 = sorted_times[int(len(sorted_times)*0.99)] if len(sorted_times) > 100 else sorted_times[-1]

The float constants are read as the rationals `9/10`, `19/20`, `99/100`, so
`int(n * q)` is `n * num / den` in `ℕ`.  Every index stays below `n`, each
value is the nearest-rank percentile `sorted[min(⌊p * n / 100⌋, n - 1)]`, and
the four values rise with `p` between the samples' minimum and maximum.

The same block then counts the samples at most 85, 100 and 150 ms
(`performanceDistribution`).
-/

namespace SeiStressTest.Stats

/-- `sorted(self.block_times)`: the block times are integers (`block_time_ms`). -/
def sortedTimes (blockTimes : List ℤ) : List ℤ := blockTimes.mergeSort fun a b => decide (a ≤ b)

/-- `int(n * q)` for the float `q = num / den`, read as a rational. -/
def rankIndex (n num den : ℕ) : ℕ := n * num / den

/-- The four reported percentiles. -/
structure Percentiles where
  p50 : ℤ
  p90 : ℤ
  p95 : ℤ
  p99 : ℤ
  deriving DecidableEq, Repr

/-- The percentile block; `none` when an index raises `IndexError`. -/
def percentiles (blockTimes : List ℤ) : Option Percentiles :=
  let sortedTimes := sortedTimes blockTimes
  let n := sortedTimes.length
  do
    let p50 ← getIndex sortedTimes (n / 2 : ℕ)
    let p90 ← getIndex sortedTimes (rankIndex n 9 10)
    let p95 ← getIndex sortedTimes (rankIndex n 19 20)
    let p99 ← (if 100 < n then getIndex sortedTimes (rankIndex n 99 100)
      else getIndex sortedTimes (-1))
    pure ⟨p50, p90, p95, p99⟩

/-- The `Performance Distribution` lines of the final statistics:
`sum(1 for t in self.block_times if t <= bound)` at 85, 100 and 150 ms. -/
def performanceDistribution (blockTimes : List ℤ) : ℕ × ℕ × ℕ :=
  (blockTimes.countP (· ≤ 85), blockTimes.countP (· ≤ 100), blockTimes.countP (· ≤ 150))

/-- The nearest-rank `p`-th percentile of a sorted list: the element at
`min(⌊p * n / 100⌋, n - 1)`. -/
def nearestRank (sorted : List ℤ) (p : ℕ) : Option ℤ :=
  sorted[min (sorted.length * p / 100) (sorted.length - 1)]?

/-! ## The sorted copy -/

@[simp] theorem length_sortedTimes (blockTimes : List ℤ) :
    (sortedTimes blockTimes).length = blockTimes.length :=
  List.length_mergeSort _

theorem mem_sortedTimes {blockTimes : List ℤ} {x : ℤ} : x ∈ sortedTimes blockTimes ↔ x ∈ blockTimes :=
  List.mem_mergeSort

theorem sortedTimes_pairwise (blockTimes : List ℤ) : (sortedTimes blockTimes).Pairwise (· ≤ ·) :=
  pairwise_mergeSort_le blockTimes

/-- In a sorted list a larger index never holds a smaller value. -/
theorem getElem_mono {xs : List ℤ} (h : xs.Pairwise (· ≤ ·)) {i j : ℕ} (hij : i ≤ j)
    (hj : j < xs.length) : xs[i] ≤ xs[j] := by
  rcases Nat.lt_or_eq_of_le hij with hlt | rfl
  · exact List.pairwise_iff_getElem.mp h i j _ hj hlt
  · exact le_refl _

/-! ## The four indices -/

/-- The position `sorted_times[...]` reads for the 99th percentile, with
`-1` resolved to the last position. -/
def p99Index (n : ℕ) : ℕ := if 100 < n then rankIndex n 99 100 else n - 1

/-- Every index the block uses lies in `[0, n - 1]`, and they rise with `p`. -/
theorem percentile_indices {n : ℕ} (hn : 0 < n) :
    n / 2 ≤ rankIndex n 9 10 ∧ rankIndex n 9 10 ≤ rankIndex n 19 20 ∧
      rankIndex n 19 20 ≤ p99Index n ∧ p99Index n < n := by
  unfold p99Index rankIndex
  split <;> omega

/-- Each index is the nearest rank `min(⌊p * n / 100⌋, n - 1)`. -/
theorem percentile_indices_nearest (n : ℕ) (hn : 0 < n) :
    min (n * 50 / 100) (n - 1) = n / 2 ∧ min (n * 90 / 100) (n - 1) = rankIndex n 9 10 ∧
      min (n * 95 / 100) (n - 1) = rankIndex n 19 20 ∧ min (n * 99 / 100) (n - 1) = p99Index n := by
  unfold p99Index rankIndex
  refine ⟨by omega, by omega, by omega, ?_⟩
  split <;> omega

/-- The nearest rank read at an index `i` known to be in range. -/
theorem nearestRank_eq {sorted : List ℤ} {p i : ℕ} (h : min (sorted.length * p / 100) (sorted.length - 1) = i)
    (hi : i < sorted.length) : nearestRank sorted p = some sorted[i] := by
  rw [nearestRank, List.getElem?_eq_getElem (h ▸ hi)]
  simp only [h]

/-- `sorted_times[-1]` when there are at most 100 samples. -/
theorem getIndex_p99 {xs : List ℤ} (h : xs ≠ []) :
    (if 100 < xs.length then getIndex xs (rankIndex xs.length 99 100) else getIndex xs (-1)) =
      xs[p99Index xs.length]? := by
  unfold p99Index
  split
  · exact getIndex_natCast _ _
  · exact getIndex_neg_one h

/-- The percentile block of `simple_blocktime_test.py` on any non-empty list of
samples (the script runs it from ten on): no index raises, each value is the
nearest-rank percentile of the sorted copy, the `[-1]` shortcut included, and
`min ≤ p50 ≤ p90 ≤ p95 ≤ p99 ≤ max`. -/
theorem percentiles_are_nearest_ranks (blockTimes : List ℤ) (hn : 0 < blockTimes.length) :
    ∃ r : Percentiles, percentiles blockTimes = some r ∧
      nearestRank (sortedTimes blockTimes) 50 = some r.p50 ∧
      nearestRank (sortedTimes blockTimes) 90 = some r.p90 ∧
      nearestRank (sortedTimes blockTimes) 95 = some r.p95 ∧
      nearestRank (sortedTimes blockTimes) 99 = some r.p99 ∧
      (∀ m, blockTimes.min? = some m → m ≤ r.p50) ∧
      r.p50 ≤ r.p90 ∧ r.p90 ≤ r.p95 ∧ r.p95 ≤ r.p99 ∧
      (∀ m, blockTimes.max? = some m → r.p99 ≤ m) := by
  set xs := sortedTimes blockTimes with hxs
  have hlen : 0 < xs.length := by simpa [hxs] using hn
  obtain ⟨h50, h90, h95, h99⟩ := percentile_indices hlen
  have l95 := Nat.lt_of_le_of_lt h95 h99
  have l90 := Nat.lt_of_le_of_lt h90 l95
  have l50 := Nat.lt_of_le_of_lt h50 l90
  obtain ⟨e50, e90, e95, e99⟩ := percentile_indices_nearest xs.length hlen
  have hsorted : xs.Pairwise (· ≤ ·) := sortedTimes_pairwise blockTimes
  have hmem : ∀ {i : ℕ} (hi : i < xs.length), xs[i] ∈ blockTimes :=
    fun hi => mem_sortedTimes.mp (List.getElem_mem hi)
  refine ⟨⟨xs[xs.length / 2], xs[rankIndex xs.length 9 10], xs[rankIndex xs.length 19 20],
    xs[p99Index xs.length]⟩, ?_, ?_, ?_, ?_, ?_, ?_, ?_, ?_, ?_, ?_⟩
  · simp only [percentiles, ← hxs, getIndex_p99 (List.ne_nil_of_length_pos hlen),
      getIndex_natCast_of_lt l50, getIndex_natCast_of_lt l90, getIndex_natCast_of_lt l95,
      List.getElem?_eq_getElem h99]
    rfl
  · exact nearestRank_eq e50 l50
  · exact nearestRank_eq e90 l90
  · exact nearestRank_eq e95 l95
  · exact nearestRank_eq e99 h99
  · intro m hm
    exact (List.le_min?_iff (fun _ _ _ => Int.le_min) hm).mp (le_refl m) _ (hmem _)
  · exact getElem_mono hsorted h50 _
  · exact getElem_mono hsorted h90 _
  · exact getElem_mono hsorted h95 h99
  · intro m hm
    exact (List.max?_le_iff (fun _ _ _ => Int.max_le) hm).mp (le_refl m) _ (hmem _)

/-- The block on ten samples, as the script first runs it. -/
theorem percentiles_are_nearest_ranks_applies :
    0 < [85, 1000, 85, 2000, 85, 1000, 85, 85, 1000, 85].length ∧
      ∃ r : Percentiles, percentiles [85, 1000, 85, 2000, 85, 1000, 85, 85, 1000, 85] = some r ∧
        r.p50 ≤ r.p99 := by
  obtain ⟨r, hr, -, -, -, -, -, h50, h90, h95, -⟩ :=
    percentiles_are_nearest_ranks [85, 1000, 85, 2000, 85, 1000, 85, 85, 1000, 85] (by decide)
  exact ⟨by decide, r, hr, le_trans h50 (le_trans h90 h95)⟩

end SeiStressTest.Stats
