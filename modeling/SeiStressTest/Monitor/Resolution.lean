import SeiStressTest.Monitor.Timestamp
import SeiStressTest.Stats.Percentile
set_option autoImplicit false

/-!
# Monitor: what the block-timestamp monitors can record

A block's `timestamp` counts whole seconds, and both timestamp monitors turn
the difference of two of them into milliseconds:

    block_time_s = current_timestamp - last_timestamp          # stress_test_blocktime.py
    if block_time_s == 0:
        block_time_ms = 85  # Default estimate
    else:
        block_time_ms = block_time_s * 1000

    block_time_seconds = current_timestamp - last_timestamp    # simple_blocktime_test.py
    block_time_ms = block_time_seconds * 1000
    if block_time_ms == 0:
        block_time_ms = 85  # Assume target time

So whatever the node answers, a sample is the 85 ms estimate or a nonzero whole
number of seconds (`SecondSample`).  When the chain's timestamps never decrease
with height (`Chain`), it is the estimate or at least one second
(`ForwardSample`): no sample ever lies strictly between 85 ms and one second,
whatever the block cadence.

Each invariant is derived from one inversion lemma per monitor step, which says
all a step can do to the last block, the last timestamp and the samples.
-/

namespace SeiStressTest.Monitor

open Stats (performanceDistribution)

/-- What the timestamp monitors can record: the 85 ms estimate, or a nonzero
whole number of seconds, in milliseconds. -/
def SecondSample (x : ℤ) : Prop := x = 85 ∨ (1000 ∣ x ∧ x ≠ 0)

/-- What they record when the later timestamp is never the smaller one: the
estimate, or at least one whole second. -/
def ForwardSample (x : ℤ) : Prop := x = 85 ∨ (1000 ∣ x ∧ 1000 ≤ x)

instance (x : ℤ) : Decidable (SecondSample x) := inferInstanceAs (Decidable (_ ∨ _))

instance (x : ℤ) : Decidable (ForwardSample x) := inferInstanceAs (Decidable (_ ∨ _))

theorem secondSample_blockTimeMs (currentTimestamp lastTimestamp : ℤ) :
    SecondSample (blockTimeMs currentTimestamp lastTimestamp) := by
  dsimp only [blockTimeMs]
  split
  · exact .inl rfl
  · exact .inr ⟨Dvd.intro_left _ rfl, mul_ne_zero ‹_› (by decide)⟩

theorem forwardSample_blockTimeMs {currentTimestamp lastTimestamp : ℤ}
    (h : lastTimestamp ≤ currentTimestamp) : ForwardSample (blockTimeMs currentTimestamp lastTimestamp) := by
  dsimp only [blockTimeMs]
  split
  · exact .inl rfl
  · exact .inr ⟨Dvd.intro_left _ rfl, by omega⟩

theorem ForwardSample.eq_or_le {x : ℤ} (h : ForwardSample x) : x = 85 ∨ 1000 ≤ x :=
  h.imp_right And.right

/-- The chain's block timestamps: the `timestamp` the node reports for each
height, in seconds, never smaller at a greater height. -/
structure Chain where
  timestampAt : ℤ → ℤ
  monotone : Monotone timestampAt

/-- A height poll agrees with the chain when the timestamp it fetched, if any,
is the chain's at that height. -/
def Chain.ReportsHeight (c : Chain) : HeightPoll → Prop
  | .fails => True
  | .height h ts => ∀ t, ts = some t → t = c.timestampAt h

/-- A read of the latest block agrees with the chain in the same way. -/
def Chain.ReportsLatest (c : Chain) : LatestPoll → Prop
  | .block n ts => ∀ t, ts = some t → t = c.timestampAt n
  | _ => True

/-- Appending one sample keeps a property every sample has. -/
theorem forall_mem_append_singleton {P : ℤ → Prop} {xs : List ℤ} {y : ℤ} (hxs : ∀ x ∈ xs, P x)
    (hy : P y) : ∀ x ∈ xs ++ [y], P x := by
  intro x hx
  rcases List.mem_append.mp hx with hx | hx
  · exact hxs x hx
  · exact (List.mem_singleton.mp hx) ▸ hy

/-! ## `stress_test_blocktime.py` -/

/-- All a pass of `monitor_blocks` can do: keep the last block and timestamp or
move them to a polled higher block and its timestamp, and append nothing or
the sample of that block against the last timestamp. -/
theorem timestampStep_cases (s : TimestampState) (p : HeightPoll) :
    ((timestampStep s p).lastBlock = s.lastBlock ∧ (timestampStep s p).lastTimestamp = s.lastTimestamp ∨
      ∃ h t, p = .height h (some t) ∧ s.lastBlock < h ∧
        (timestampStep s p).lastBlock = h ∧ (timestampStep s p).lastTimestamp = some t) ∧
    ((timestampStep s p).blockTimes = s.blockTimes ∨
      ∃ h t lastTs, p = .height h (some t) ∧ s.lastBlock < h ∧ s.lastTimestamp = some lastTs ∧
        (timestampStep s p).blockTimes = s.blockTimes ++ [blockTimeMs t lastTs]) := by
  rcases p with _ | ⟨h, _ | t⟩
  · exact ⟨.inl ⟨rfl, rfl⟩, .inl rfl⟩
  · by_cases hlt : s.lastBlock < h <;> simp [timestampStep, hlt]
  · by_cases hlt : s.lastBlock < h
    · simp only [timestampStep, if_pos hlt]
      split
      · rename_i lastTs hts _
        rw [feedback_eq_some _ (by simp)]
        exact ⟨.inr ⟨h, t, rfl, hlt, rfl, rfl⟩, .inr ⟨h, t, lastTs, rfl, hlt, hts, rfl⟩⟩
      · exact ⟨.inr ⟨h, t, rfl, hlt, rfl, rfl⟩, .inl rfl⟩
    · simp [timestampStep, hlt]

theorem timestampStep_secondSamples {s : TimestampState} (hs : ∀ x ∈ s.blockTimes, SecondSample x)
    (p : HeightPoll) : ∀ x ∈ (timestampStep s p).blockTimes, SecondSample x := by
  rcases (timestampStep_cases s p).2 with h | ⟨h, t, lastTs, -, -, -, hb⟩
  · exact h ▸ hs
  · exact hb ▸ forall_mem_append_singleton hs (secondSample_blockTimeMs _ _)

/-- What a run of `monitor_blocks` keeps on a chain: the last timestamp read is
the chain's at the last block counted, and every sample is forward. -/
structure ForwardInv (c : Chain) (s : TimestampState) : Prop where
  lastTimestamp_eq : ∀ t, s.lastTimestamp = some t → t = c.timestampAt s.lastBlock
  forward : ∀ x ∈ s.blockTimes, ForwardSample x

/-- Step lemma: a pass whose poll agrees with the chain keeps the invariant. -/
theorem ForwardInv.step {c : Chain} {s : TimestampState} (hs : ForwardInv c s) {p : HeightPoll}
    (hp : c.ReportsHeight p) : ForwardInv c (timestampStep s p) := by
  obtain ⟨hlast, hsamples⟩ := timestampStep_cases s p
  constructor
  · rcases hlast with ⟨hb, ht⟩ | ⟨h, t, rfl, -, hb, ht⟩ <;> rw [hb, ht]
    · exact hs.lastTimestamp_eq
    · rintro _ ⟨⟩
      exact hp t rfl
  · rcases hsamples with hb | ⟨h, t, lastTs, rfl, hlt, hts, hb⟩
    · exact hb ▸ hs.forward
    · have hle := c.monotone hlt.le
      rw [← hs.lastTimestamp_eq lastTs hts, ← hp t rfl] at hle
      exact hb ▸ forall_mem_append_singleton hs.forward (forwardSample_blockTimeMs hle)

theorem timestampMonitorBlocks_secondSamples (h0 : ℤ) (polls : List HeightPoll) :
    ∀ x ∈ (timestampMonitorBlocks h0 polls).blockTimes, SecondSample x :=
  List.foldlRecOn (motive := fun s : TimestampState => ∀ x ∈ s.blockTimes, SecondSample x) polls
    timestampStep _ (fun _ h => (List.not_mem_nil _ h).elim) fun _ hs p _ => timestampStep_secondSamples hs p

/-- Run lemma: on polls that agree with the chain, the invariant holds after
the whole run. -/
theorem timestampMonitorBlocks_forwardInv (c : Chain) (h0 : ℤ) {polls : List HeightPoll}
    (hpolls : ∀ p ∈ polls, c.ReportsHeight p) : ForwardInv c (timestampMonitorBlocks h0 polls) :=
  List.foldlRecOn polls timestampStep _ ⟨fun _ h => Option.noConfusion h, fun _ h => (List.not_mem_nil _ h).elim⟩
    fun _ hs p hp => hs.step (hpolls p hp)

/-! ## `simple_blocktime_test.py` -/

/-- `monitor_block_production` computes the sample as `blockTimeMs` does. -/
theorem simpleSample_eq (currentTimestamp lastTimestamp : ℤ) :
    (if (currentTimestamp - lastTimestamp) * 1000 = 0 then 85 else (currentTimestamp - lastTimestamp) * 1000) =
      blockTimeMs currentTimestamp lastTimestamp := by
  dsimp only [blockTimeMs]
  split_ifs <;> omega

/-- All a pass of `monitor_block_production` that returns can do: leave the
state as it is, or move to a read block above the last one with its timestamp
and append the sample of the two timestamps. -/
theorem simpleStep_cases {s s' : SimpleState} {p : LatestPoll} (h : simpleStep s p = .ok s') :
    s' = s ∨ ∃ n t, p = .block n (some t) ∧ s.lastBlockNumber < n ∧ s'.lastBlockNumber = n ∧
      s'.lastTimestamp = t ∧ s'.blockTimes = s.blockTimes ++ [blockTimeMs t s.lastTimestamp] := by
  cases p with
  | skipped => cases h; exact .inl rfl
  | malformed => cases h
  | block n ts =>
    simp only [simpleStep] at h
    split at h
    · rename_i hlt
      cases ts with
      | none => cases h
      | some t =>
        simp only [averages_eq_some (List.append_ne_nil_of_right_ne_nil _ (List.cons_ne_nil _ _))] at h
        cases h
        exact .inr ⟨n, t, rfl, hlt, rfl, rfl, by rw [simpleSample_eq]⟩
    · cases h
      exact .inl rfl

/-- Run lemma for the loop of `monitor_block_production`: a property every
returning pass keeps, on reads that satisfy `Q`, holds after a returning run. -/
theorem foldlM_simpleStep_inv (P : SimpleState → Prop) (Q : LatestPoll → Prop)
    (hstep : ∀ {s s' p}, P s → Q p → simpleStep s p = .ok s' → P s') :
    ∀ (polls : List LatestPoll) {s s' : SimpleState}, (∀ p ∈ polls, Q p) → P s →
      polls.foldlM simpleStep s = .ok s' → P s'
  | [], _, _, _, hs, h => by cases h; exact hs
  | p :: polls, s, _, hq, hs, h => by
    rw [List.foldlM_cons] at h
    cases hp : simpleStep s p with
    | error e => rw [hp] at h; cases h
    | ok s₁ =>
      rw [hp] at h
      exact foldlM_simpleStep_inv P Q hstep polls (fun q hq' => hq q (List.mem_cons_of_mem _ hq'))
        (hstep hs (hq p (List.mem_cons_self _ _)) hp) h

/-- A run that records starts from a first read of a block with a timestamp. -/
theorem monitorBlockProduction_eq_ok_some {first : LatestPoll} {polls : List LatestPoll} {s : SimpleState}
    (h : monitorBlockProduction first polls = .ok (some s)) :
    ∃ n0 ts0, first = .block n0 (some ts0) ∧ polls.foldlM simpleStep ⟨n0, ts0, 0, []⟩ = .ok s := by
  rcases first with _ | _ | ⟨n0, _ | ts0⟩
  case block.some =>
    simp only [monitorBlockProduction] at h
    cases hrun : polls.foldlM simpleStep ⟨n0, ts0, 0, []⟩ with
    | error e => rw [hrun] at h; cases h
    | ok s' =>
      rw [hrun] at h
      cases h
      exact ⟨n0, ts0, rfl, hrun⟩
  all_goals cases h

theorem monitorBlockProduction_secondSamples {first : LatestPoll} {polls : List LatestPoll} {s : SimpleState}
    (h : monitorBlockProduction first polls = .ok (some s)) : ∀ x ∈ s.blockTimes, SecondSample x := by
  obtain ⟨n0, ts0, -, hrun⟩ := monitorBlockProduction_eq_ok_some h
  refine foldlM_simpleStep_inv (fun s => ∀ x ∈ s.blockTimes, SecondSample x) (fun _ => True) ?_ polls
    (fun _ _ => trivial) (fun _ h => (List.not_mem_nil _ h).elim) hrun
  intro s s' p hs _ hstep
  rcases simpleStep_cases hstep with rfl | ⟨n, t, -, -, -, -, hb⟩
  · exact hs
  · exact hb ▸ forall_mem_append_singleton hs (secondSample_blockTimeMs _ _)

/-- What a run of `monitor_block_production` keeps on a chain: the last
timestamp is the chain's at the last block, and every sample is forward. -/
structure SimpleForwardInv (c : Chain) (s : SimpleState) : Prop where
  lastTimestamp_eq : s.lastTimestamp = c.timestampAt s.lastBlockNumber
  forward : ∀ x ∈ s.blockTimes, ForwardSample x

/-- Step lemma: a returning pass on a read that agrees with the chain keeps the
invariant. -/
theorem SimpleForwardInv.step {c : Chain} {s s' : SimpleState} (hs : SimpleForwardInv c s) {p : LatestPoll}
    (hp : c.ReportsLatest p) (h : simpleStep s p = .ok s') : SimpleForwardInv c s' := by
  rcases simpleStep_cases h with rfl | ⟨n, t, rfl, hlt, hb, ht, hsamples⟩
  · exact hs
  · have hle := c.monotone hlt.le
    rw [← hs.lastTimestamp_eq, ← hp t rfl] at hle
    exact ⟨by rw [ht, hb]; exact hp t rfl,
      hsamples ▸ forall_mem_append_singleton hs.forward (forwardSample_blockTimeMs hle)⟩

theorem monitorBlockProduction_forwardInv {c : Chain} {first : LatestPoll} {polls : List LatestPoll}
    (hreads : ∀ p ∈ first :: polls, c.ReportsLatest p) {s : SimpleState}
    (h : monitorBlockProduction first polls = .ok (some s)) : SimpleForwardInv c s := by
  obtain ⟨n0, ts0, rfl, hrun⟩ := monitorBlockProduction_eq_ok_some h
  exact foldlM_simpleStep_inv (SimpleForwardInv c) c.ReportsLatest (fun hs hp h => hs.step hp h) polls
    (fun p hp => hreads p (List.mem_cons_of_mem _ hp))
    ⟨hreads _ (List.mem_cons_self _ _) ts0 rfl, fun _ h => (List.not_mem_nil _ h).elim⟩ hrun

/-- With forward samples only, nothing lies in `(85, 150]`: the three counts
of the final statistics agree. -/
theorem performanceDistribution_of_forward {blockTimes : List ℤ} (h : ∀ x ∈ blockTimes, ForwardSample x) :
    (performanceDistribution blockTimes).1 = (performanceDistribution blockTimes).2.1 ∧
      (performanceDistribution blockTimes).2.1 = (performanceDistribution blockTimes).2.2 := by
  have hgap : ∀ x ∈ blockTimes, ∀ b, 85 ≤ b → b < 1000 → (x ≤ 85 ↔ x ≤ b) := fun x hx b h85 h1000 => by
    rcases (h x hx).eq_or_le with rfl | hle <;> omega
  refine ⟨List.countP_congr fun x hx => ?_, List.countP_congr fun x hx => ?_⟩
  · simpa using hgap x hx 100 (by decide) (by decide)
  · simpa using (hgap x hx 100 (by decide) (by decide)).symm.trans (hgap x hx 150 (by decide) (by decide))

/-- The samples are the estimates and the others. -/
theorem length_eq_estimates_add_others (blockTimes : List ℤ) :
    blockTimes.length = blockTimes.countP (· = 85) + blockTimes.countP (· ≠ 85) := by
  rw [List.length_eq_countP_add_countP (fun x => decide (x = 85))]
  simp only [decide_eq_true_eq, ne_eq]

theorem others_eq_zero_iff {blockTimes : List ℤ} :
    blockTimes.countP (· ≠ 85) = 0 ↔ ∀ x ∈ blockTimes, x = 85 := by
  simp [List.countP_eq_zero]

/-- Forward samples weigh 85 ms each when they are the estimate and at least a
second each otherwise. -/
theorem sum_ge_of_forward : ∀ {blockTimes : List ℤ}, (∀ x ∈ blockTimes, ForwardSample x) →
    85 * blockTimes.countP (· = 85) + 1000 * blockTimes.countP (· ≠ 85) ≤ blockTimes.sum
  | [], _ => by simp
  | x :: xs, h => by
    have ih := sum_ge_of_forward fun y hy => h y (List.mem_cons_of_mem _ hy)
    simp only [List.countP_cons, List.sum_cons, decide_eq_true_eq]
    rcases (h x (List.mem_cons_self _ _)).eq_or_le with rfl | hle
    · simp only [if_pos rfl, if_neg (not_not_intro rfl)]
      push_cast
      omega
    · have hx : x ≠ 85 := by omega
      simp only [if_neg hx, if_pos hx]
      push_cast
      omega

/-! ## Both monitors -/

/-- The resolution of the two block-timestamp monitors, over every run.
Whatever the node answers, every sample `monitor_blocks` of
`stress_test_blocktime.py` appends, and every sample of a run of
`monitor_block_production` of `simple_blocktime_test.py` that reaches its final
statistics, is the 85 ms estimate or a nonzero whole number of seconds.  When
the chain's timestamps do not decrease with height, every sample is 85 ms or
at least one second, so the final statistics count as many blocks at most
100 ms and at most 150 ms as at most 85 ms. -/
theorem timestamp_monitors_record_85_or_whole_seconds (h0 : ℤ) (polls : List HeightPoll)
    (first : LatestPoll) (reads : List LatestPoll) :
    ((∀ x ∈ (timestampMonitorBlocks h0 polls).blockTimes, SecondSample x) ∧
      ∀ s, monitorBlockProduction first reads = .ok (some s) → ∀ x ∈ s.blockTimes, SecondSample x) ∧
    ∀ c : Chain, (∀ p ∈ polls, c.ReportsHeight p) → (∀ p ∈ first :: reads, c.ReportsLatest p) →
      (∀ x ∈ (timestampMonitorBlocks h0 polls).blockTimes, ForwardSample x) ∧
      ∀ s, monitorBlockProduction first reads = .ok (some s) →
        (∀ x ∈ s.blockTimes, ForwardSample x) ∧
        (performanceDistribution s.blockTimes).1 = (performanceDistribution s.blockTimes).2.1 ∧
        (performanceDistribution s.blockTimes).2.1 = (performanceDistribution s.blockTimes).2.2 := by
  refine ⟨⟨timestampMonitorBlocks_secondSamples h0 polls, fun s h => monitorBlockProduction_secondSamples h⟩,
    fun c hpolls hreads => ⟨(timestampMonitorBlocks_forwardInv c h0 hpolls).forward, fun s h => ?_⟩⟩
  have hfwd := (monitorBlockProduction_forwardInv hreads h).forward
  exact ⟨hfwd, performanceDistribution_of_forward hfwd⟩

/-- Two blocks a second apart on a chain whose timestamp is the height. -/
theorem timestamp_monitors_on_one_second_blocks :
    ∀ x ∈ (timestampMonitorBlocks 0 [.height 1 (some 1), .height 2 (some 2)]).blockTimes, ForwardSample x :=
  ((timestamp_monitors_record_85_or_whole_seconds 0 _ .skipped []).2 ⟨id, monotone_id⟩
    (by simp [Chain.ReportsHeight]) (by simp [Chain.ReportsLatest])).1

end SeiStressTest.Monitor
