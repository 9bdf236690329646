import SeiStressTest.Monitor.Timestamp
import SeiStressTest.Load.ReadLoad
set_option autoImplicit false

/-!
# `monitor_block_production` of `simple_blocktime_test.py` under its read load

    result = await self.make_rpc_call(session, "eth_getBlockByNumber", ["latest", False])
    if not result or 'result' not in result:
        ...
        return
    ...
    load_task = None
    if generate_load:
        load_task = asyncio.create_task(self.generate_read_load(session, load_rps))
    try:
        while time.time() - start_time < duration_seconds:
            await asyncio.sleep(0.02)
            result = await self.make_rpc_call(session, "eth_getBlockByNumber", ["latest", False])
            ...
    finally:
        if load_task:
            load_task.cancel()
            ...
    ...
            if generate_load:
                print(f"  Total RPC requests: {self.request_count}")
                print(f"  Failed requests: {self.error_count}")

The monitor and the read load share `self.request_count` and
`self.error_count` through `make_rpc_call`.  The load writes nothing else, and
the monitor reads neither counter.  A pass of the loop is two segments of the
monitor's task: its call up to the post, then the response with the processing
of the block.  The load's calls are those its bursts made before
`load_task.cancel()`, each cut where the cancellation found it: a call whose
task had not started never runs, and one awaiting its post never reaches its
`except`, since `CancelledError` is not an `Exception`.  The event loop runs the
monitor and these calls under any schedule until the monitor returns; the
load's own segments (creating a burst, the sleep) touch neither the monitor's
state nor the counters.

By `gather_ownShift_onSnd` no schedule lets the load change what the monitor
records: the samples are those of the run without load over the same answers,
and the reported `Total RPC requests` counts the monitor's own calls with the
load's.
-/

namespace SeiStressTest

open Load Monitor

/-- What one `make_rpc_call(session, "eth_getBlockByNumber", ["latest", False])`
of the monitor does: it raises inside (`error_count += 1`, `None`), or it
returns a body, read as a `LatestPoll`. -/
inductive RpcPoll where
  | raised
  | answered (poll : LatestPoll)
  deriving DecidableEq, Repr

/-- What the monitor's loop makes of the call: `None` is skipped as a body
without `'result'` is. -/
def RpcPoll.toLatest : RpcPoll → LatestPoll
  | .raised => .skipped
  | .answered poll => poll

def RpcPoll.isRaised : RpcPoll → Bool
  | .raised => true
  | .answered _ => false

/-- One pass of the `while` loop after the sleep: `make_rpc_call` on the
counters, and with its response `simpleStep` on the monitor's locals and
`self.block_times`, `.error` once the loop has raised. -/
def pollPass (p : RpcPoll) : Coroutine (Except Unit SimpleState × (ℕ × ℕ)) :=
  List.zipWith (fun g seg x => (g x.1, seg x.2))
    [id, fun m => m >>= fun s => simpleStep s p.toLatest] (makeRpcCall p.isRaised)

/-- How far a call of a read-load burst got before `load_task.cancel()`. -/
inductive CallProgress where
  /-- its task had not started, so `make_rpc_call` never ran -/
  | notStarted
  /-- it was awaiting the post -/
  | cancelled
  /-- it returned, after raising inside or not -/
  | finished (raised : Bool)
  deriving DecidableEq, Repr

/-- The segments of `make_rpc_call` that the call ran. -/
def CallProgress.segments : CallProgress → Coroutine (ℕ × ℕ)
  | .notStarted => []
  | .cancelled => (makeRpcCall false).take 1
  | .finished raised => makeRpcCall raised

/-- What the call added to `(self.request_count, self.error_count)`. -/
def CallProgress.added : CallProgress → ℕ × ℕ
  | .notStarted => (0, 0)
  | .cancelled => (1, 0)
  | .finished raised => (1, if raised then 1 else 0)

/-- `monitor_block_production` from the counters `c0`, with the first call's
outcome, the outcomes of the loop's passes, and the read load's calls (none
when `generate_load` is false), interleaved under `schedule`.  It returns what
the final statistics print: `self.block_times` with the monitor's locals, and
the counters; `.ok none` is the early return and `.error` a raise. -/
def Loaded.monitorBlockProduction (c0 : ℕ × ℕ) (first : RpcPoll) (passes : List RpcPoll)
    (loadCalls : List CallProgress) (schedule : List ℕ) :
    Except Unit (Option (SimpleState × (ℕ × ℕ))) :=
  let c1 := (makeRpcCall first.isRaised).finish c0
  match first.toLatest with
  | .block n0 (some ts0) =>
    match gather (passes.flatMap pollPass :: (loadCalls.map CallProgress.segments).map Coroutine.onSnd)
        schedule (.ok ⟨n0, ts0, 0, []⟩, c1) with
    | (.ok s, c) => .ok (some (s, c))
    | (.error e, _) => .error e
  | .skipped => .ok none
  | _ => .error ()

/-! ## The monitor's task -/

theorem isOwnShift_of_mem_pollPasses (passes : List RpcPoll) :
    ∀ f ∈ passes.flatMap pollPass, IsOwnShift f := by
  intro f hf
  obtain ⟨p, -, hf⟩ := List.mem_flatMap.mp hf
  simp only [pollPass, makeRpcCall, List.zipWith, List.mem_cons, List.mem_singleton, List.not_mem_nil,
    or_false] at hf
  rcases hf with rfl | rfl
  · exact ⟨id, _, isShift_add _, rfl⟩
  · exact ⟨fun m => m >>= fun s => simpleStep s p.toLatest, _, isShift_add _, rfl⟩

theorem finish_pollPass (p : RpcPoll) (m : Except Unit SimpleState) (c : ℕ × ℕ) :
    (pollPass p).finish (m, c) =
      (m >>= fun s => simpleStep s p.toLatest, c + (1, if p.isRaised then 1 else 0)) := by
  simp [pollPass, makeRpcCall, Coroutine.finish, add_assoc]

/-- Run lemma for the monitor alone: its passes step its state in order, and
each adds one request and, when the call raised, one error. -/
theorem finish_pollPasses (passes : List RpcPoll) (m : Except Unit SimpleState) (c : ℕ × ℕ) :
    Coroutine.finish (passes.flatMap pollPass) (m, c) =
      (m >>= fun s => (passes.map RpcPoll.toLatest).foldlM simpleStep s,
        c + (passes.length, (passes.map RpcPoll.isRaised).count true)) := by
  induction passes generalizing m c with
  | nil => simp [Coroutine.finish]
  | cons p passes ih =>
    rw [List.flatMap_cons, Coroutine.finish_append, finish_pollPass, ih, bind_assoc]
    refine Prod.ext rfl ?_
    simp only [List.map_cons, List.length_cons]
    rw [add_assoc, ← List.length_map passes RpcPoll.isRaised, add_calls_cons, List.length_cons]

theorem finish_pollPasses_ok (passes : List RpcPoll) (s : SimpleState) (c : ℕ × ℕ) :
    Coroutine.finish (passes.flatMap pollPass) (.ok s, c) =
      ((passes.map RpcPoll.toLatest).foldlM simpleStep s,
        c + (passes.length, (passes.map RpcPoll.isRaised).count true)) :=
  finish_pollPasses passes (.ok s) c

/-! ## The read load's calls -/

theorem CallProgress.allShift_segments (loadCalls : List CallProgress) :
    AllShift (loadCalls.map CallProgress.segments) := by
  intro d hd
  obtain ⟨call, -, rfl⟩ := List.mem_map.mp hd
  intro seg hseg
  apply makeRpcCall_allShift (match call with | .finished raised => raised | _ => false)
  cases call with
  | notStarted => cases hseg
  | cancelled => exact List.mem_of_mem_take hseg
  | finished raised => exact hseg

theorem CallProgress.pending_segments (loadCalls : List CallProgress) :
    pending (loadCalls.map CallProgress.segments) = (loadCalls.map CallProgress.added).sum := by
  induction loadCalls with
  | nil => rfl
  | cons call loadCalls ih =>
    simp only [pending, List.map_map, Function.comp_def, List.map_cons, List.sum_cons] at ih ⊢
    rw [ih]
    congr 1
    cases call <;> simp [CallProgress.segments, CallProgress.added, makeRpcCall, Coroutine.total]

/-! ## The two tasks together -/

/-- `monitor_block_production` of `simple_blocktime_test.py` with the read load
running, for every interleaving and wherever the cancellation cuts the load.
It ends as the run without load over the same answers ends: it returns early,
raises, or records the same blocks and samples.  When it records them, each of
its calls and each call the load started is counted once in
`self.request_count`, and each that raised once in `self.error_count`.  So the
`Total RPC requests` it reports for the load includes the monitor's first call
and one per pass of its loop. -/
theorem monitor_under_load_records_the_samples_without_load (c0 : ℕ × ℕ) (first : RpcPoll)
    (passes : List RpcPoll) (loadCalls : List CallProgress) (schedule : List ℕ) :
    Loaded.monitorBlockProduction c0 first passes loadCalls schedule =
      (monitorBlockProduction first.toLatest (passes.map RpcPoll.toLatest)).map (Option.map fun s =>
        (s, c0 + (1 + passes.length, ((first :: passes).map RpcPoll.isRaised).count true) +
          (loadCalls.map CallProgress.added).sum)) := by
  rcases first with _ | ⟨_ | _ | ⟨n0, _ | ts0⟩⟩
  case answered.block.some =>
    simp only [Loaded.monitorBlockProduction, RpcPoll.toLatest, RpcPoll.isRaised, monitorBlockProduction]
    rw [gather_ownShift_onSnd _ (isOwnShift_of_mem_pollPasses passes) _
      (CallProgress.allShift_segments loadCalls), finish_pollPasses_ok, CallProgress.pending_segments,
      finish_makeRpcCall]
    cases (passes.map RpcPoll.toLatest).foldlM simpleStep ⟨n0, ts0, 0, []⟩ with
    | error e => rfl
    | ok s =>
      simp only [Except.map, Option.map_some', Except.ok.injEq, Option.some.injEq, Prod.mk.injEq, true_and,
        Prod.ext_iff, Prod.fst_add, Prod.snd_add, List.map_cons, RpcPoll.isRaised, List.count_cons,
        beq_iff_eq, Bool.false_eq_true, if_false]
      omega
  all_goals rfl

/-- The second phase of `main`, from reset counters: the first call, a pass
whose call raised and a pass that sees block 101, while the load started two
calls, one of which raised, and was cancelled before starting a third.  The
load reports `Total RPC requests: 5`, three of them the monitor's. -/
example : Loaded.monitorBlockProduction (0, 0) (.answered (.block 100 (some 1700000000)))
      [.raised, .answered (.block 101 (some 1700000001))]
      [.finished true, .cancelled, .notStarted] [1, 0, 2, 1, 0, 0] =
    .ok (some (⟨101, 1700000001, 1, [1000]⟩, (5, 2))) := rfl

end SeiStressTest
