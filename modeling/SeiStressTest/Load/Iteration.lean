import SeiStressTest.Load.Nonce
import SeiStressTest.Load.EventLoop
import Mathlib.Algebra.Order.Field.Rat
set_option autoImplicit false

/-!
# Load: one iteration of a load loop

All three load generators run the same iteration body: pick the senders with
`random.sample`, reserve each one's nonce range (`Load.Nonce`), create one batch
coroutine per sender, and `await asyncio.gather(*tasks)`.  `gather` wraps the
coroutines in tasks in list order, and each task's first step runs before any
response can arrive.  So the first segments (signing, then handing the posts to
the transport) run slot by slot, and only afterwards are the coroutines'
response segments interleaved by the event loop (`Load.EventLoop`).

A first segment that raises (a signature failed) makes the outer `gather`
raise, and with it the whole load phase.  The posts of the slots that did
return have been handed to the transport by then.

What the world decides is collected in a `Draw`: the sample, the recipients
`random.randint` picks, what each post resolves to, the interleaving, and how
long the `gather` takes.  A recipient is drawn only for a sampled sender, so an
empty account list still has draws: its iterations sample no sender and do
nothing but wait.
-/

namespace SeiStressTest.Load

/-- A value `random.sample(accounts, k)` can return: the entries at `k`
distinct positions, in the order drawn. -/
structure Sample (accounts : List Account) (k : ℕ) where
  positions : List (Fin accounts.length)
  nodup : positions.Nodup
  length_eq : positions.length = k

/-- The sampled accounts, `sending_accounts`. -/
def Sample.senders {accounts : List Account} {k : ℕ} (s : Sample accounts k) : List Account :=
  s.positions.map accounts.get

@[simp] theorem Sample.length_senders {accounts : List Account} {k : ℕ} (s : Sample accounts k) :
    s.senders.length = k := by
  simp [Sample.senders, s.length_eq]

/-- What the world supplies to one iteration. -/
structure Draw (accounts : List Account) (k : ℕ) where
  /-- `random.sample(self.accounts, k)` -/
  senders : Sample accounts k
  /-- `self.accounts[random.randint(0, len(self.accounts)-1)]`, the recipient of
  transaction `i` of slot `j` -/
  recipient : ℕ → ℕ → Account
  /-- each of the `k` slots draws its recipients from the account list -/
  recipient_mem : ∀ j < k, ∀ i, recipient j i ∈ accounts
  /-- what post `i` of slot `j` resolves to -/
  outcome : ℕ → ℕ → PostOutcome
  /-- the order in which the event loop resumes the batch coroutines -/
  schedule : List ℕ
  /-- clock time the `gather` of the iteration takes -/
  dispatch : ℚ

/-- The load phase between two iterations. -/
structure LoadState where
  /-- `time.time() - start_time` -/
  clock : ℚ
  /-- `last_batch_time - start_time` (read only by `stress_test_transactions_optimized`) -/
  lastBatchTime : ℚ
  nonceCounters : NonceCounters
  /-- the transactions signed so far, in order, with their iteration -/
  signed : List (ℕ × TxIntent)
  /-- the posts handed to the transport so far, in order, with their iteration -/
  posted : List (ℕ × TxIntent)
  txResults : TxResults
  /-- iterations completed -/
  iteration : ℕ

/-- The transactions a signing loop signed, whether or not it raised. -/
def signedOf : Except (List TxIntent) (List TxIntent) → List TxIntent
  | .ok txs => txs
  | .error txs => txs

/-- The posts a first segment hands to the transport: none if a signature raised. -/
def handed (postOrder : List TxIntent → List TxIntent) :
    Except (List TxIntent) (List TxIntent) → List TxIntent
  | .ok txs => postOrder txs
  | .error _ => []

/-- The first segment raised. -/
def raised : Except (List TxIntent) (List TxIntent) → Bool
  | .ok _ => false
  | .error _ => true

section Iteration

variable {accounts : List Account} {k : ℕ}

/-- The signing loops of the batch coroutines, slot `j` onwards, in `gather` order. -/
def batchSigns (signs : Signer) (d : Draw accounts k) (batchSize : ℕ) :
    ℕ → List (Account × ℕ) → List (Except (List TxIntent) (List TxIntent))
  | _, [] => []
  | j, r :: rest =>
    signBatch signs r.1 (d.recipient j) r.2 batchSize ::
      batchSigns signs d batchSize (j + 1) rest

/-- The response segments of the coroutines, slot `j` onwards: one per post,
each counting what that post resolved to. -/
def responseCoroutines (postOrder : List TxIntent → List TxIntent)
    (count : PostOutcome → TxResults → TxResults) (d : Draw accounts k) :
    ℕ → List (Except (List TxIntent) (List TxIntent)) → List (Coroutine TxResults)
  | _, [] => []
  | j, r :: rest =>
    (List.range (handed postOrder r).length).map (fun i => count (d.outcome j i)) ::
      responseCoroutines postOrder count d (j + 1) rest

/-- One iteration up to the end of its `gather`: `.error` with the state at the
moment the phase raised, or `.ok` with the state after every coroutine returned. -/
def dispatchIteration (signs : Signer) (postOrder : List TxIntent → List TxIntent)
    (count : PostOutcome → TxResults → TxResults)
    (batchSize : ℕ) (d : Draw accounts k) (s : LoadState) : Except LoadState LoadState :=
  let r := reserve batchSize s.nonceCounters d.senders.senders
  let firsts := batchSigns signs d batchSize 0 r.1
  let signed := s.signed ++ (firsts.flatMap signedOf).map (s.iteration, ·)
  let posted := s.posted ++ (firsts.flatMap (handed postOrder)).map (s.iteration, ·)
  if firsts.any raised then
    .error { s with nonceCounters := r.2, signed := signed, posted := posted }
  else
    .ok { s with
      nonceCounters := r.2
      signed := signed
      posted := posted
      txResults := gather (responseCoroutines postOrder count d 0 firsts) d.schedule s.txResults
      clock := s.clock + d.dispatch
      iteration := s.iteration + 1 }

/-! ## An iteration in which every signature returns -/

/-- The transactions of the slots `j` onwards, batch after batch. -/
def slotTxs (d : Draw accounts k) (batchSize : ℕ) : ℕ → List (Account × ℕ) → List TxIntent
  | _, [] => []
  | j, r :: rest =>
    batchTxs r.1 (d.recipient j) r.2 batchSize ++
      slotTxs d batchSize (j + 1) rest

/-- What the response segments of the slots `j, ..., j + n - 1` add in total. -/
def responsesTotal (count : PostOutcome → TxResults → TxResults) (d : Draw accounts k)
    (batchSize j n : ℕ) : TxResults :=
  ((List.range' j n).map fun slot =>
    ((List.range batchSize).map fun i => count (d.outcome slot i) 0).sum).sum

theorem slotTxs_keys (d : Draw accounts k) (batchSize : ℕ) :
    ∀ (j : ℕ) (starts : List (Account × ℕ)),
      (slotTxs d batchSize j starts).map TxIntent.key = reservedKeys batchSize starts
  | _, [] => rfl
  | j, r :: rest => by
    simp only [slotTxs, List.map_append, batchTxs_keys, slotTxs_keys d batchSize (j + 1) rest]
    simp [reservedKeys]

@[simp] theorem length_slotTxs (d : Draw accounts k) (batchSize : ℕ) :
    ∀ (j : ℕ) (starts : List (Account × ℕ)),
      (slotTxs d batchSize j starts).length = starts.length * batchSize
  | _, [] => by simp [slotTxs]
  | j, r :: rest => by
    simp [slotTxs, length_slotTxs d batchSize (j + 1) rest, Nat.succ_mul, Nat.add_comm]

theorem allShift_responseCoroutines (postOrder : List TxIntent → List TxIntent)
    {count : PostOutcome → TxResults → TxResults}
    (hcount : ∀ o, IsShift (count o)) (d : Draw accounts k) :
    ∀ (j : ℕ) (firsts : List (Except (List TxIntent) (List TxIntent))),
      AllShift (responseCoroutines postOrder count d j firsts)
  | _, [] => by simp [AllShift, responseCoroutines]
  | j, r :: rest => by
    intro c hc seg hseg
    simp only [responseCoroutines, List.mem_cons] at hc
    rcases hc with rfl | hc
    · obtain ⟨i, -, rfl⟩ := List.mem_map.mp hseg
      exact hcount _
    · exact allShift_responseCoroutines postOrder hcount d (j + 1) rest c hc seg hseg

section Whole

variable {signs : Signer} (hsigns : ∀ key tx, signs key tx = true)
variable {postOrder : List TxIntent → List TxIntent} (horder : ∀ txs, postOrder txs = txs)
variable (count : PostOutcome → TxResults → TxResults) (d : Draw accounts k) (batchSize : ℕ)
include hsigns

theorem batchSigns_of_signs : ∀ (j : ℕ) (starts : List (Account × ℕ)),
    (batchSigns signs d batchSize j starts).any raised = false ∧
      (batchSigns signs d batchSize j starts).flatMap signedOf = slotTxs d batchSize j starts
  | _, [] => ⟨rfl, rfl⟩
  | j, r :: rest => by
    obtain ⟨h₁, h₂⟩ := batchSigns_of_signs (j + 1) rest
    simp [batchSigns, slotTxs, signBatch_eq_ok hsigns, raised, signedOf, h₁, h₂]

include horder

theorem batchSigns_handed : ∀ (j : ℕ) (starts : List (Account × ℕ)),
    (batchSigns signs d batchSize j starts).flatMap (handed postOrder) = slotTxs d batchSize j starts
  | _, [] => rfl
  | j, r :: rest => by
    simp [batchSigns, slotTxs, signBatch_eq_ok hsigns, handed, horder,
      batchSigns_handed (j + 1) rest]

theorem pending_responseCoroutines : ∀ (j : ℕ) (starts : List (Account × ℕ)),
    pending (responseCoroutines postOrder count d j (batchSigns signs d batchSize j starts)) =
      responsesTotal count d batchSize j starts.length
  | _, [] => by simp [responseCoroutines, batchSigns, pending, responsesTotal]
  | j, r :: rest => by
    have ih := pending_responseCoroutines (j + 1) rest
    simp only [pending, responsesTotal] at ih ⊢
    simp [responseCoroutines, batchSigns, signBatch_eq_ok hsigns, handed, horder,
      Coroutine.total, ih, List.range'_succ, Function.comp_def]

end Whole

/-- Spec of an iteration in which every signature returns: the counters are
advanced by the reservation loop, every batch is signed and posted in slot
order, and `gather` adds every response's count, whatever the interleaving. -/
theorem dispatchIteration_eq_ok {signs : Signer} (hsigns : ∀ key tx, signs key tx = true)
    {postOrder : List TxIntent → List TxIntent} (horder : ∀ txs, postOrder txs = txs)
    {count : PostOutcome → TxResults → TxResults} (hcount : ∀ o, IsShift (count o))
    (batchSize : ℕ) (d : Draw accounts k) (s : LoadState) :
    dispatchIteration signs postOrder count batchSize d s =
      let r := reserve batchSize s.nonceCounters d.senders.senders
      .ok { s with
        nonceCounters := r.2
        signed := s.signed ++ (slotTxs d batchSize 0 r.1).map (s.iteration, ·)
        posted := s.posted ++ (slotTxs d batchSize 0 r.1).map (s.iteration, ·)
        txResults := s.txResults + responsesTotal count d batchSize 0 k
        clock := s.clock + d.dispatch
        iteration := s.iteration + 1 } := by
  set r := reserve batchSize s.nonceCounters d.senders.senders with hr
  obtain ⟨hraise, hsigned⟩ := batchSigns_of_signs hsigns d batchSize 0 r.1
  have hlen : r.1.length = k := by simp [hr]
  simp only [dispatchIteration, ← hr, hraise, hsigned, batchSigns_handed hsigns horder,
    Bool.false_eq_true, if_false, gather_eq_add_pending _ (allShift_responseCoroutines _ hcount d 0 _),
    pending_responseCoroutines hsigns horder, hlen]

end Iteration

end SeiStressTest.Load
