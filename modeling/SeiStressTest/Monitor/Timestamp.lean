import SeiStressTest.Monitor.PerfCounter
set_option autoImplicit false

/-!
# Monitor: the block-timestamp monitors

Two monitors time blocks by the `timestamp` field of the block rather than by
`perf_counter`, and both count one block per detection, whatever the height
advanced by.

`monitor_blocks` in `stress_test_blocktime.py` polls the height, fetches the
new block with `get_block_by_number`, and appends `(ts - last_ts) * 1000`
(85 when the seconds agree) only `if last_timestamp:`, so not at the first
detection.  Every exception of the pass is caught and printed.

`monitor_block_production` in `simple_blocktime_test.py` reads the latest block
whole.  `make_rpc_call` turns a transport error into `None`, and a pass that
gets no `'result'` is skipped; a block whose `number` or `timestamp` does not
parse raises out of the loop, since the loop's `try` has only a `finally`.

Neither appends a sample per skipped block, as the `perf_counter` monitor of
`Monitor.PerfCounter` does: a jump of `D` blocks yields one sample.
-/

namespace SeiStressTest.Monitor

/-! ## `stress_test_blocktime.py` -/

/-- A height poll of the timestamp monitor, with what `get_block_by_number`
gives for that height: the parsed `timestamp`, or `none` when the fetch, the
lookup or `int(..., 16)` raises. -/
inductive HeightPoll where
  | fails
  | height (h : ℤ) (timestamp : Option ℤ)
  deriving DecidableEq, Repr

/-- The locals of `monitor_blocks` in `stress_test_blocktime.py`. -/
structure TimestampState where
  lastBlock : ℤ
  lastTimestamp : Option ℤ
  blocksProduced : ℕ
  /-- what the run appended to `self.block_times` -/
  blockTimes : List ℤ

/-- `if last_timestamp:` -- `None` and `0` are false. -/
def truthy : Option ℤ → Bool
  | some ts => ts != 0
  | none => false

/-- `block_time_ms`: the difference in milliseconds, or the 85 ms estimate
when the two timestamps are the same second. -/
def blockTimeMs (currentTimestamp lastTimestamp : ℤ) : ℤ :=
  let blockTimeS := currentTimestamp - lastTimestamp
  if blockTimeS = 0 then 85 else blockTimeS * 1000

/-- One pass of the loop after the sleep; a raise inside the `try` leaves what
was already done. -/
def timestampStep (s : TimestampState) : HeightPoll → TimestampState
  | .fails => s
  | .height currentBlock ts =>
    if s.lastBlock < currentBlock then
      match ts with
      | none => s
      | some currentTimestamp =>
        let moved : TimestampState → TimestampState := fun s =>
          { s with lastBlock := currentBlock, lastTimestamp := some currentTimestamp,
                   blocksProduced := s.blocksProduced + 1 }
        match s.lastTimestamp, truthy s.lastTimestamp with
        | some lastTs, true =>
          let blockTimes := s.blockTimes ++ [blockTimeMs currentTimestamp lastTs]
          match feedback s.blocksProduced (blockTimes.map (↑)) with
          | none => { s with blockTimes := blockTimes }
          | some () => moved { s with blockTimes := blockTimes }
        | _, _ => moved s
    else s

/-- `monitor_blocks` of `stress_test_blocktime.py` from the initial height `h0`. -/
def timestampMonitorBlocks (h0 : ℤ) (polls : List HeightPoll) : TimestampState :=
  polls.foldl timestampStep ⟨h0, none, 0, []⟩

theorem timestampStep_detect (s : TimestampState) {h : ℤ} (ts : ℤ) (hlt : s.lastBlock < h) :
    ∃ extra, timestampStep s (.height h (some ts)) =
      { lastBlock := h, lastTimestamp := some ts, blocksProduced := s.blocksProduced + 1,
        blockTimes := s.blockTimes ++ extra } ∧ extra.length ≤ 1 := by
  simp only [timestampStep, if_pos hlt]
  split
  · rename_i lastTs htruthy
    rw [feedback_eq_some _ (by simp)]
    exact ⟨_, rfl, by simp⟩
  · exact ⟨[], by simp, by simp⟩

/-- What a run of the timestamp monitor keeps: at most one sample per block
produced, at most one block produced per block of height advance. -/
structure TimestampInv (h0 : ℤ) (s : TimestampState) : Prop where
  lastBlock_ge : h0 ≤ s.lastBlock
  produced_le : s.blocksProduced ≤ (s.lastBlock - h0).toNat
  length_le : s.blockTimes.length ≤ s.blocksProduced

theorem TimestampInv.step {h0 : ℤ} {s : TimestampState} (hs : TimestampInv h0 s) (p : HeightPoll) :
    TimestampInv h0 (timestampStep s p) := by
  cases p with
  | fails => exact hs
  | height h ts =>
    by_cases hlt : s.lastBlock < h
    · cases ts with
      | none => simpa [timestampStep, hlt] using hs
      | some ts =>
        obtain ⟨extra, heq, hextra⟩ := timestampStep_detect s ts hlt
        have := hs.lastBlock_ge
        have := hs.produced_le
        have := hs.length_le
        rw [heq]
        refine ⟨?_, ?_, ?_⟩ <;> dsimp only
        · omega
        · omega
        · simp only [List.length_append]
          omega
    · simpa [timestampStep, hlt] using hs

theorem TimestampInv.run {h0 : ℤ} {s : TimestampState} (hs : TimestampInv h0 s)
    (polls : List HeightPoll) : TimestampInv h0 (polls.foldl timestampStep s) := by
  induction polls generalizing s with
  | nil => exact hs
  | cons p polls ih => exact ih (hs.step p)

/-! ## `simple_blocktime_test.py` -/

/-- What one `make_rpc_call(session, "eth_getBlockByNumber", ["latest", False])`
gives the loop of `monitor_block_production`. -/
inductive LatestPoll where
  /-- `None` (the call raised) or a body without `'result'`: the pass is skipped -/
  | skipped
  /-- `int(result['result']['number'], 16)` raised -/
  | malformed
  /-- a block `number`, and its `timestamp` when `int(..., 16)` parses it -/
  | block (number : ℤ) (timestamp : Option ℤ)
  deriving DecidableEq, Repr

/-- The locals of `monitor_block_production`. -/
structure SimpleState where
  lastBlockNumber : ℤ
  lastTimestamp : ℤ
  blocksProduced : ℕ
  /-- what the run appended to `self.block_times` -/
  blockTimes : List ℤ
  deriving DecidableEq, Repr

/-- The two averages of the feedback line, `avg_10` and `avg_all`; `none`
when `statistics.mean` raises. -/
def averages (blockTimes : List ℤ) : Option Unit := do
  let xs : List ℚ := blockTimes.map (↑)
  let _ ← mean (if 10 ≤ xs.length then lastN xs 10 else xs)
  let _ ← mean xs
  pure ()

/-- One pass of the loop after the sleep: `.error` when it raises out of the
monitor. -/
def simpleStep (s : SimpleState) : LatestPoll → Except Unit SimpleState
  | .skipped => .ok s
  | .malformed => .error ()
  | .block currentBlockNumber ts =>
    if s.lastBlockNumber < currentBlockNumber then
      match ts with
      | none => .error ()
      | some currentTimestamp =>
        let blockTimeMs := (currentTimestamp - s.lastTimestamp) * 1000
        let blockTimeMs := if blockTimeMs = 0 then 85 else blockTimeMs
        let blockTimes := s.blockTimes ++ [blockTimeMs]
        match averages blockTimes with
        | none => .error ()
        | some () =>
          .ok { lastBlockNumber := currentBlockNumber, lastTimestamp := currentTimestamp,
                blocksProduced := s.blocksProduced + 1, blockTimes := blockTimes }
    else .ok s

/-- `monitor_block_production`: the initial read, then the loop.  No block at
the start returns early (`.ok none`); a block that does not parse raises. -/
def monitorBlockProduction (first : LatestPoll) (polls : List LatestPoll) :
    Except Unit (Option SimpleState) :=
  match first with
  | .block n0 (some ts0) => (polls.foldlM simpleStep ⟨n0, ts0, 0, []⟩).map some
  | .skipped => .ok none
  | _ => .error ()

theorem averages_eq_some {blockTimes : List ℤ} (h : blockTimes ≠ []) : averages blockTimes = some () := by
  have hxs : blockTimes.map (fun x : ℤ => (x : ℚ)) ≠ [] := by simpa using h
  obtain ⟨a, ha⟩ := Option.isSome_iff_exists.mp ((mean_isSome_iff _).mpr (show
    (if 10 ≤ (blockTimes.map (fun x : ℤ => (x : ℚ))).length then
      lastN (blockTimes.map (fun x : ℤ => (x : ℚ))) 10 else blockTimes.map (fun x : ℤ => (x : ℚ))) ≠ [] by
    split
    · exact lastN_ne_nil hxs (by decide)
    · exact hxs))
  obtain ⟨b, hb⟩ := Option.isSome_iff_exists.mp ((mean_isSome_iff _).mpr hxs)
  simp only [averages, ha, hb]
  rfl

/-- What a returning run of `monitor_block_production` keeps: one sample per
block produced, at most one block produced per block of height advance. -/
structure SimpleInv (n0 : ℤ) (s : SimpleState) : Prop where
  lastBlockNumber_ge : n0 ≤ s.lastBlockNumber
  produced_le : s.blocksProduced ≤ (s.lastBlockNumber - n0).toNat
  length_eq : s.blockTimes.length = s.blocksProduced

theorem SimpleInv.step {n0 : ℤ} {s s' : SimpleState} (hs : SimpleInv n0 s) {p : LatestPoll}
    (h : simpleStep s p = .ok s') : SimpleInv n0 s' := by
  have := hs.lastBlockNumber_ge
  have := hs.produced_le
  cases p with
  | skipped => cases h; exact hs
  | malformed => cases h
  | block n ts =>
    simp only [simpleStep] at h
    split at h
    · rename_i hlt
      cases ts with
      | none => cases h
      | some ts =>
        simp only [averages_eq_some (List.append_ne_nil_of_right_ne_nil _ (List.cons_ne_nil _ _))] at h
        cases h
        refine ⟨?_, ?_, by simp [hs.length_eq]⟩ <;> dsimp only <;> omega
    · cases h
      exact hs

theorem SimpleInv.run {n0 : ℤ} (polls : List LatestPoll) :
    ∀ {s s' : SimpleState}, SimpleInv n0 s → polls.foldlM simpleStep s = .ok s' → SimpleInv n0 s' := by
  induction polls with
  | nil => intro s s' hs h; cases h; exact hs
  | cons p polls ih =>
    intro s s' hs h
    rw [List.foldlM_cons] at h
    cases hstep : simpleStep s p with
    | error e => rw [hstep] at h; cases h
    | ok s₁ =>
      rw [hstep] at h
      exact ih (hs.step hstep) h

/-! ## Counting detections, not blocks -/

/-- Neither timestamp monitor counts more blocks than the height advanced by,
nor keeps more than one sample per block it counts; `simple_blocktime_test.py`
keeps exactly one. -/
theorem timestamp_monitors_count_at_most_the_advance :
    (∀ h0 polls, TimestampInv h0 (timestampMonitorBlocks h0 polls)) ∧
    ∀ n0 ts0 polls s, monitorBlockProduction (.block n0 (some ts0)) polls = .ok (some s) →
      SimpleInv n0 s := by
  refine ⟨fun h0 polls => TimestampInv.run (s := ⟨h0, none, 0, []⟩) ⟨le_refl _, by simp, le_refl _⟩ polls,
    ?_⟩
  intro n0 ts0 polls s h
  simp only [monitorBlockProduction] at h
  cases hrun : polls.foldlM simpleStep ⟨n0, ts0, 0, []⟩ with
  | error e => rw [hrun] at h; cases h
  | ok s' =>
    rw [hrun] at h
    cases h
    exact SimpleInv.run polls ⟨le_refl _, by simp, rfl⟩ hrun

/-- The simple monitor's bound applies to a run that returns. -/
theorem timestamp_monitors_count_at_most_the_advance_applies :
    monitorBlockProduction (.block 100 (some 1700000000)) [.skipped, .block 103 (some 1700000001)] =
        .ok (some ⟨103, 1700000001, 1, [1000]⟩) ∧
      SimpleInv 100 ⟨103, 1700000001, 1, [1000]⟩ :=
  ⟨rfl, timestamp_monitors_count_at_most_the_advance.2 100 1700000000
    [.skipped, .block 103 (some 1700000001)] _ rfl⟩

/-- A jump of three or four blocks between two polls: the `perf_counter`
monitor records one sample per block, the timestamp monitors one per
detection, and `stress_test_blocktime.py` none at the first detection. -/
theorem timestamp_monitors_count_a_jump_once :
    ((monitorBlocks (.height 100 0) [.height 103 (3 / 10)]).map fun s =>
        (s.blocksProduced, s.blockTimes.length)) = some (3, 3) ∧
      ((timestampMonitorBlocks 100 [.height 101 (some 1700000000), .height 104 (some 1700000001)]).blocksProduced,
        (timestampMonitorBlocks 100
          [.height 101 (some 1700000000), .height 104 (some 1700000001)]).blockTimes) = (2, [1000]) ∧
      monitorBlockProduction (.block 100 (some 1700000000)) [.block 103 (some 1700000001)] =
        .ok (some ⟨103, 1700000001, 1, [1000]⟩) :=
  ⟨rfl, rfl, rfl⟩

end SeiStressTest.Monitor
