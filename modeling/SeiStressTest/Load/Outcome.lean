import SeiStressTest.Load.Transaction
import Mathlib.Algebra.Group.Defs
set_option autoImplicit false

/-!
# Load: counting the outcome of each post

After `responses = await asyncio.gather(*tasks, return_exceptions=True)` a batch
coroutine walks the responses and bumps the shared `self.tx_results`:

    if isinstance(response, Exception):
        self.tx_results['failed'] += 1
    else:
        try:
            result = await response.json()
            if 'result' in result:
                self.tx_results['sent'] += 1
            else:
                self.tx_results['failed'] += 1
        except:
            self.tx_results['failed'] += 1

That is the body of `stress_test_blocktime.py` and `stress_test_20k_tps.py`
(`countOutcome`).  `stress_test_blocktime_fixed.py` adds, inside the same `try`,
`if 'error' in result: print(f"TX Error: {result['error']}")` after the failure
count (`countOutcomeFixed`); on a body that is not an object that indexing
raises, and the bare `except` counts the same response a second time.

Each body is a translation of the counters (`count o r = r + count o 0`): the
fact the event-loop model needs to show that no interleaving loses an update.
-/

namespace SeiStressTest.Load

/-- The two counters of `self.tx_results` that the load phase touches
(`'confirmed'` and `'pending'` are never written). -/
@[ext] structure TxResults where
  sent : ℕ
  failed : ℕ
  deriving DecidableEq, Repr

namespace TxResults

instance : Add TxResults := ⟨fun a b => ⟨a.sent + b.sent, a.failed + b.failed⟩⟩
instance : Zero TxResults := ⟨⟨0, 0⟩⟩

@[simp] theorem add_sent (a b : TxResults) : (a + b).sent = a.sent + b.sent := rfl
@[simp] theorem add_failed (a b : TxResults) : (a + b).failed = a.failed + b.failed := rfl
@[simp] theorem zero_sent : (0 : TxResults).sent = 0 := rfl
@[simp] theorem zero_failed : (0 : TxResults).failed = 0 := rfl

instance : AddCommMonoid TxResults where
  add_assoc a b c := TxResults.ext (Nat.add_assoc _ _ _) (Nat.add_assoc _ _ _)
  zero_add a := TxResults.ext (Nat.zero_add _) (Nat.zero_add _)
  add_zero a := TxResults.ext (Nat.add_zero _) (Nat.add_zero _)
  add_comm a b := TxResults.ext (Nat.add_comm _ _) (Nat.add_comm _ _)
  nsmul := nsmulRec

/-- `self.tx_results['sent'] += 1`. -/
def bumpSent (r : TxResults) : TxResults := { r with sent := r.sent + 1 }

/-- `self.tx_results['failed'] += 1`. -/
def bumpFailed (r : TxResults) : TxResults := { r with failed := r.failed + 1 }

@[simp] theorem bumpSent_eq (r : TxResults) : r.bumpSent = r + ⟨1, 0⟩ := rfl
@[simp] theorem bumpFailed_eq (r : TxResults) : r.bumpFailed = r + ⟨0, 1⟩ := rfl

end TxResults

open TxResults

/-- The node accepted the post: its body passes `'result' in result`. -/
def PostOutcome.isSent : PostOutcome → Bool
  | .body j => j.contains "result" == some true
  | _ => false

/-- The response loop's body in `stress_test_blocktime.py` and in
`send_transaction_batch_optimized`, for one response. -/
def countOutcome : PostOutcome → TxResults → TxResults
  | .raised, r => r.bumpFailed
  | .unreadable, r => r.bumpFailed
  | .body j, r =>
    match j.contains "result" with
    | some true => r.bumpSent
    | some false => r.bumpFailed
    | none => r.bumpFailed

/-- The response loop's body in `stress_test_blocktime_fixed.py`: the failure
branch also evaluates `'error' in result` and, when it holds, `result['error']`,
still inside the `try` whose bare `except` counts a failure. -/
def countOutcomeFixed : PostOutcome → TxResults → TxResults
  | .raised, r => r.bumpFailed
  | .unreadable, r => r.bumpFailed
  | .body j, r =>
    match j.contains "result" with
    | some true => r.bumpSent
    | some false =>
      match j.contains "error" with
      | some false => r.bumpFailed
      | some true =>
        match j.getItem "error" with
        | some _ => r.bumpFailed
        | none => r.bumpFailed.bumpFailed
      | none => r.bumpFailed.bumpFailed
    | none => r.bumpFailed

/-- The sibling body is a translation: one response adds the same amount to any
counters. -/
theorem countOutcome_eq_add (o : PostOutcome) (r : TxResults) :
    countOutcome o r = r + countOutcome o 0 := by
  cases o with
  | body j => cases h : j.contains "result" with
    | none => simp [countOutcome, h]
    | some b => cases b <;> simp [countOutcome, h]
  | _ => simp [countOutcome]

/-- The sibling body counts each response exactly once, as sent exactly when
the node accepted it. -/
theorem countOutcome_zero (o : PostOutcome) :
    countOutcome o 0 = if o.isSent then ⟨1, 0⟩ else ⟨0, 1⟩ := by
  cases o with
  | body j => cases h : j.contains "result" with
    | none => simp [countOutcome, PostOutcome.isSent, h]
    | some b => cases b <;> simp [countOutcome, PostOutcome.isSent, h]
  | _ => rfl

theorem countOutcomeFixed_eq_add (o : PostOutcome) (r : TxResults) :
    countOutcomeFixed o r = r + countOutcomeFixed o 0 := by
  cases o with
  | body j =>
    simp only [countOutcomeFixed]
    split <;> (try split) <;> (try split) <;> simp [add_assoc]
  | _ => simp [countOutcomeFixed]

/-- A rejected body that is not an object but contains `"error"`: an array
holding that string, or a string with it as a substring. -/
def PostOutcome.isDoubleCounted : PostOutcome → Bool
  | .body j => j.contains "result" == some false && j.contains "error" == some true && !j.isObj
  | _ => false

/-- The fixed body agrees with its siblings except on a double-counted body,
where it counts one response as two failures. -/
theorem countOutcomeFixed_zero (o : PostOutcome) :
    countOutcomeFixed o 0 = if o.isDoubleCounted then ⟨0, 2⟩ else countOutcome o 0 := by
  cases o with
  | body j =>
    cases hr : j.contains "result" with
    | none => simp [countOutcomeFixed, countOutcome, PostOutcome.isDoubleCounted, hr]
    | some b =>
      cases b with
      | true => simp [countOutcomeFixed, countOutcome, PostOutcome.isDoubleCounted, hr]
      | false =>
        cases he : j.contains "error" with
        | none =>
          have := Json.contains_isSome_iff_of_isSome "error" (by simp [hr] :
            (j.contains "result").isSome)
          simp [he] at this
        | some e =>
          cases e with
          | false => simp [countOutcomeFixed, countOutcome, PostOutcome.isDoubleCounted, hr, he]
          | true =>
            have hobj := Json.getItem_isSome_of_contains he
            cases hg : j.getItem "error" with
            | none =>
              simp only [hg, Option.isSome_none] at hobj
              simp [countOutcomeFixed, PostOutcome.isDoubleCounted, hr, he, hg, ← hobj]; rfl
            | some v =>
              simp only [hg, Option.isSome_some] at hobj
              simp [countOutcomeFixed, countOutcome, PostOutcome.isDoubleCounted, hr, he, hg, ← hobj]
  | _ => rfl

end SeiStressTest.Load
