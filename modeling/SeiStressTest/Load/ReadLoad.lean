import SeiStressTest.Load.EventLoop
import Mathlib.Algebra.Group.Prod
set_option autoImplicit false

/-!
# Load: the read load of `simple_blocktime_test.py`

    async def make_rpc_call(self, session, method, params=None):
        payload = {..., "id": self.request_count}
        self.request_count += 1
        try:
            async with session.post(self.rpc_url, json=payload) as response: ...
        except Exception as e:
            self.error_count += 1
            return None

    async def generate_read_load(self, session, requests_per_second=1000):
        while True:
            methods = [...]
            tasks = []
            for _ in range(10):
                method, params = methods[self.request_count % len(methods)]
                task = self.make_rpc_call(session, method, params)
                tasks.append(task)
            await asyncio.gather(*tasks, return_exceptions=True)
            await asyncio.sleep(delay * 10)

`self.make_rpc_call(...)` only creates a coroutine, and none of it runs before
the `gather`: the ten calls of a burst all read the same `request_count` and
send the same method.  A burst then adds ten to the counter, so when no other
call runs in between, the method index moves by `10 % 6 = 4` from one burst to
the next, and only three of the six methods are ever sent.  Over any run the
`k`-th burst sends the method at the counter it was created with
(`burstCounter`), whatever the monitor did before it.

The block monitor's own polls go through `make_rpc_call` too and share both
counters; every increment lies in an await-free segment, so no schedule loses
one (`gather_eq_add_pending`), and the reported `Total RPC requests` counts the
monitor's polls with the bursts.  The sleep only paces the loop and is not
modelled; the monitor cancels the task after some number of bursts.
-/

namespace SeiStressTest.Load

/-- `methods` of `generate_read_load`, by name. -/
def readMethods : List String :=
  ["eth_blockNumber", "eth_gasPrice", "net_version", "eth_chainId", "eth_syncing", "eth_getBalance"]

/-- `methods[self.request_count % len(methods)]`. -/
def readMethodAt (requestCount : ℕ) : String :=
  readMethods.get ⟨requestCount % readMethods.length, Nat.mod_lt _ (by decide)⟩

/-- `make_rpc_call` on `(self.request_count, self.error_count)`: the segment up
to the post bumps `request_count`, the one after it bumps `error_count` when the
post raised. -/
def makeRpcCall (raised : Bool) : Coroutine (ℕ × ℕ) :=
  [fun c => c + (1, 0), fun c => c + (0, if raised then 1 else 0)]

/-- One burst entered with the counters `c`: the methods of its ten calls,
chosen while the calls are created, and the counters after `gather` runs them
under `schedule` together with the monitor's calls in flight. -/
def readBurst (c : ℕ × ℕ) (raised : ℕ → Bool) (inFlight : List Bool) (schedule : List ℕ) :
    List String × (ℕ × ℕ) :=
  let calls := (List.range 10).map fun i => (readMethodAt c.1, makeRpcCall (raised i))
  (calls.map Prod.fst, gather (calls.map Prod.snd ++ inFlight.map makeRpcCall) schedule c)

/-- The monitor's calls that run between two bursts. -/
def runCalls (calls : List Bool) (c : ℕ × ℕ) : ℕ × ℕ :=
  calls.foldl (fun c raised => (makeRpcCall raised).finish c) c

/-- One pass of the `while True` loop, with what runs around it: which calls of
the burst raise, the monitor's calls in flight during its `gather`, the
schedule, and the monitor's calls completed before the next burst. -/
structure ReadRound where
  raised : ℕ → Bool
  inFlight : List Bool
  schedule : List ℕ
  between : List Bool

/-- The methods sent so far and the counters, after one more pass. -/
def readRound (s : List String × (ℕ × ℕ)) (r : ReadRound) : List String × (ℕ × ℕ) :=
  let b := readBurst s.2 r.raised r.inFlight r.schedule
  (s.1 ++ b.1, runCalls r.between b.2)

/-- `generate_read_load` from the counters `c0` until it is cancelled after
`rounds.length` bursts. -/
def generateReadLoad (c0 : ℕ × ℕ) (rounds : List ReadRound) : List String × (ℕ × ℕ) :=
  rounds.foldl readRound ([], c0)

/-- What a pass adds to the two counters: ten calls and the monitor's, and one
error per call that raised. -/
def ReadRound.added (r : ReadRound) : ℕ × ℕ :=
  (10 + r.inFlight.length + r.between.length,
    ((List.range 10).map r.raised ++ r.inFlight ++ r.between).count true)

/-- A pass during which the monitor makes no call. -/
def ReadRound.Quiet (r : ReadRound) : Prop := r.inFlight = [] ∧ r.between = []

/-- `request_count` when the `k`-th burst is created: the starting counter and
what the `k` passes before it added. -/
def burstCounter (c0 : ℕ) (rounds : List ReadRound) (k : ℕ) : ℕ :=
  c0 + ((rounds.take k).map fun r => r.added.1).sum

/-! ## One call, one burst -/

theorem makeRpcCall_allShift (raised : Bool) : ∀ seg ∈ makeRpcCall raised, IsShift seg := by
  simp only [makeRpcCall, List.mem_cons, List.mem_singleton, List.not_mem_nil, or_false]
  rintro seg (rfl | rfl) x <;> simp

theorem makeRpcCall_total (raised : Bool) :
    (makeRpcCall raised).total = (1, if raised then 1 else 0) := by
  simp [makeRpcCall, Coroutine.total]

theorem finish_makeRpcCall (raised : Bool) (c : ℕ × ℕ) :
    (makeRpcCall raised).finish c = c + (1, if raised then 1 else 0) := by
  rw [Coroutine.finish_eq _ (makeRpcCall_allShift raised), makeRpcCall_total]

/-- One more call adds one request, and one error when it raised. -/
theorem add_calls_cons (raised : Bool) (calls : List Bool) :
    ((1 : ℕ), if raised then 1 else 0) + (calls.length, calls.count true) =
      ((raised :: calls).length, (raised :: calls).count true) := by
  rw [Prod.mk_add_mk, List.length_cons, List.count_cons, Nat.add_comm 1, Nat.add_comm (ite _ _ _)]
  cases raised <;> rfl

theorem pending_makeRpcCalls (calls : List Bool) :
    pending (calls.map makeRpcCall) = (calls.length, calls.count true) := by
  induction calls with
  | nil => rfl
  | cons raised calls ih =>
    simp only [pending, List.map_map, List.map_cons, List.sum_cons, Function.comp_def] at ih ⊢
    rw [ih, makeRpcCall_total, add_calls_cons]

theorem runCalls_eq (calls : List Bool) (c : ℕ × ℕ) :
    runCalls calls c = c + (calls.length, calls.count true) := by
  induction calls generalizing c with
  | nil => simp [runCalls]
  | cons raised calls ih =>
    simp only [runCalls, List.foldl_cons] at ih ⊢
    rw [ih, finish_makeRpcCall, add_assoc, add_calls_cons]

/-- Step lemma for a burst, whatever the schedule: ten calls of the one method
the counter selected when the burst was created, and every increment of the
burst and of the monitor's calls in flight lands in the counters. -/
theorem readBurst_eq (c : ℕ × ℕ) (raised : ℕ → Bool) (inFlight : List Bool) (schedule : List ℕ) :
    readBurst c raised inFlight schedule =
      (List.replicate 10 (readMethodAt c.1),
        c + (10 + inFlight.length, ((List.range 10).map raised ++ inFlight).count true)) := by
  have hcalls : ((List.range 10).map fun i => (readMethodAt c.1, makeRpcCall (raised i))).map
      Prod.snd ++ inFlight.map makeRpcCall = ((List.range 10).map raised ++ inFlight).map makeRpcCall := by
    simp [Function.comp_def]
  have hall : AllShift (((List.range 10).map raised ++ inFlight).map makeRpcCall) := by
    simp only [AllShift, List.mem_map]
    rintro _ ⟨raised, -, rfl⟩
    exact makeRpcCall_allShift raised
  simp only [readBurst]
  rw [hcalls, gather_eq_add_pending _ hall, pending_makeRpcCalls]
  simp only [List.map_map, Function.comp_def, List.map_const', List.length_range, List.length_append,
    List.length_map]

/-- Step lemma for a pass: the burst's ten calls of one method, then the
counters moved by exactly what the pass added. -/
theorem readRound_eq (s : List String × (ℕ × ℕ)) (r : ReadRound) :
    readRound s r = (s.1 ++ List.replicate 10 (readMethodAt s.2.1), s.2 + r.added) := by
  simp only [readRound, readBurst_eq, runCalls_eq, ReadRound.added]
  congr 1
  simp only [Prod.ext_iff, Prod.fst_add, Prod.snd_add, List.count_append]
  omega

/-! ## Whole runs -/

/-- Run lemma: after any number of passes the counters have moved by the sum
of what each added. -/
theorem generateReadLoad_counters (c0 : ℕ × ℕ) :
    ∀ (rounds : List ReadRound) (s : List String × (ℕ × ℕ)),
      (rounds.foldl readRound s).2 = s.2 + (rounds.map ReadRound.added).sum
  | [], s => by simp
  | r :: rounds, s => by
    rw [List.foldl_cons, generateReadLoad_counters c0 rounds, readRound_eq, List.map_cons,
      List.sum_cons, add_assoc]

@[simp] theorem burstCounter_zero (c : ℕ) (rounds : List ReadRound) : burstCounter c rounds 0 = c := by
  simp [burstCounter]

theorem burstCounter_cons_succ (c : ℕ) (r : ReadRound) (rounds : List ReadRound) (k : ℕ) :
    burstCounter c (r :: rounds) (k + 1) = burstCounter (c + r.added.1) rounds k := by
  simp [burstCounter, Nat.add_assoc]

/-- Run lemma for the log: the `k`-th burst sends ten calls of the method at the
counter it was created with. -/
theorem generateReadLoad_log :
    ∀ (rounds : List ReadRound) (s : List String × (ℕ × ℕ)), (rounds.foldl readRound s).1 =
      s.1 ++ (List.range rounds.length).flatMap fun k =>
        List.replicate 10 (readMethodAt (burstCounter s.2.1 rounds k))
  | [], s => by simp
  | r :: rounds, s => by
    rw [List.foldl_cons, generateReadLoad_log rounds, readRound_eq, List.length_cons,
      List.range_succ_eq_map, List.flatMap_cons, List.flatMap_map]
    simp only [List.append_assoc, Prod.fst_add, burstCounter_zero, burstCounter_cons_succ]

theorem ReadRound.Quiet.added_fst {r : ReadRound} (h : r.Quiet) : r.added.1 = 10 := by
  simp [ReadRound.added, h.1, h.2]

/-- With no monitor call, the `k`-th burst is created at `c0 + 10 * k`. -/
theorem burstCounter_quiet {rounds : List ReadRound} (hquiet : ∀ r ∈ rounds, r.Quiet) (c : ℕ)
    {k : ℕ} (hk : k ≤ rounds.length) : burstCounter c rounds k = c + 10 * k := by
  have hmap : (rounds.take k).map (fun r => r.added.1) = List.replicate k 10 := by
    rw [List.eq_replicate_iff, List.length_map, List.length_take_of_le hk]
    refine ⟨rfl, fun n hn => ?_⟩
    obtain ⟨r, hr, rfl⟩ := List.mem_map.mp hn
    exact (hquiet r (List.mem_of_mem_take hr)).added_fst
  rw [burstCounter, hmap, List.sum_const_nat, Nat.mul_comm]

/-- The method depends only on the counter modulo six. -/
theorem readMethodAt_mod (n : ℕ) : readMethodAt n = readMethodAt (n % 6) := by
  simp [readMethodAt, readMethods, Nat.mod_mod]

/-- Ten calls move the method index by four, so it cycles with period three. -/
theorem readMethodAt_add_ten_mul (c k : ℕ) : readMethodAt (c + 10 * k) = readMethodAt (c + 4 * (k % 3)) := by
  rw [readMethodAt_mod, readMethodAt_mod (c + 4 * (k % 3))]
  congr 1
  omega

/-- The read load of `simple_blocktime_test.py`, over every run and every
schedule.  No increment of the two counters is lost: `request_count` grows by
ten per burst plus one per call of the monitor, `error_count` by one per call
that raised.  Each burst sends ten calls of the single method at the counter it
was created with, and when the monitor makes no call the `k`-th burst is
created at `c0 + 10 * k`, so the bursts only ever send three of the six
methods: the ones at `c0`, `c0 + 4` and `c0 + 2` modulo six. -/
theorem read_load_bursts_repeat_one_method (c0 : ℕ × ℕ) (rounds : List ReadRound) :
    (generateReadLoad c0 rounds).2 = c0 + (rounds.map ReadRound.added).sum ∧
      (generateReadLoad c0 rounds).1 = (List.range rounds.length).flatMap (fun k =>
        List.replicate 10 (readMethodAt (burstCounter c0.1 rounds k))) ∧
      ((∀ r ∈ rounds, r.Quiet) →
        (generateReadLoad c0 rounds).1 = (List.range rounds.length).flatMap (fun k =>
          List.replicate 10 (readMethodAt (c0.1 + 10 * k))) ∧
        ∀ m ∈ (generateReadLoad c0 rounds).1,
          m = readMethodAt c0.1 ∨ m = readMethodAt (c0.1 + 4) ∨ m = readMethodAt (c0.1 + 2)) := by
  have hlog : (generateReadLoad c0 rounds).1 = (List.range rounds.length).flatMap (fun k =>
      List.replicate 10 (readMethodAt (burstCounter c0.1 rounds k))) := generateReadLoad_log rounds ([], c0)
  refine ⟨generateReadLoad_counters c0 rounds _, hlog, fun hquiet => ?_⟩
  have hquietLog : (generateReadLoad c0 rounds).1 = (List.range rounds.length).flatMap (fun k =>
      List.replicate 10 (readMethodAt (c0.1 + 10 * k))) := by
    rw [hlog, List.flatMap_def, List.flatMap_def]
    exact congrArg List.flatten <| List.map_congr_left fun k hk => by
      simp only [burstCounter_quiet hquiet c0.1 (List.mem_range.mp hk).le]
  refine ⟨hquietLog, fun m hm => ?_⟩
  rw [hquietLog] at hm
  obtain ⟨k, -, hk⟩ := List.mem_flatMap.mp hm
  rw [List.eq_of_mem_replicate hk, readMethodAt_add_ten_mul]
  rcases (by omega : k % 3 = 0 ∨ k % 3 = 1 ∨ k % 3 = 2) with h | h | h <;> rw [h]
  · exact .inl rfl
  · exact .inr (.inl rfl)
  · refine .inr (.inr ?_)
    rw [readMethodAt_mod, readMethodAt_mod (c0.1 + 2)]
    congr 1
    dsimp only
    omega

/-- Three bursts from `request_count = 1`, where the second phase of `main`
starts its load, with no monitor call in between: ten `eth_gasPrice`, ten
`eth_getBalance`, ten `eth_chainId`. -/
theorem read_load_bursts_repeat_one_method_applies :
    (∀ r ∈ List.replicate 3 (⟨fun _ => false, [], [], []⟩ : ReadRound), r.Quiet) ∧
      (generateReadLoad (1, 0) (List.replicate 3 ⟨fun _ => false, [], [], []⟩)).1 =
        List.replicate 10 "eth_gasPrice" ++ List.replicate 10 "eth_getBalance" ++
          List.replicate 10 "eth_chainId" := by
  have hquiet : ∀ r ∈ List.replicate 3 (⟨fun _ => false, [], [], []⟩ : ReadRound), r.Quiet := by
    intro r hr
    rw [List.eq_of_mem_replicate hr]
    exact ⟨rfl, rfl⟩
  refine ⟨hquiet, ?_⟩
  rw [((read_load_bursts_repeat_one_method (1, 0) _).2.2 hquiet).1]
  rfl

end SeiStressTest.Load
