import SeiStressTest.Python
set_option autoImplicit false

/-!
# Load: accounts, transactions and the first segment of a batch coroutine

A batch coroutine (`send_transaction_batch` in `stress_test_blocktime.py` and
`stress_test_blocktime_fixed.py`, `send_transaction_batch_optimized` in
`stress_test_20k_tps.py`) runs, up to its first `await`, a loop that builds the
transactions `nonce_start + i` and signs each.  The first two create each post
in the same pass; the optimized one creates them afterwards, sub-batch by
sub-batch.  The posts reach the transport when `asyncio.gather` schedules them,
in creation order.

Signing is the external capability `Account.sign_transaction`; it either returns
or raises (an absent or malformed key, a malformed field).  A raise ends the
coroutine before its `gather`, so none of its posts is ever sent: the signing
loop yields `.ok signed` or `.error signedPrefix`.
-/

namespace SeiStressTest.Load

/-- An entry of `stress_test_accounts.json`. -/
structure Account where
  address : String
  privateKey : String
  deriving DecidableEq, Repr, Inhabited

/-- The transaction dict a batch coroutine builds and signs. -/
structure TxIntent where
  sender : String
  recipient : String
  value : ℕ
  gas : ℕ
  gasPrice : ℕ
  nonce : ℕ
  chainId : ℕ
  deriving DecidableEq, Repr

/-- `self.web3.to_wei(0.0001, 'ether')`. -/
def transferValue : ℕ := 100000000000000

/-- `self.web3.to_wei('10', 'gwei')`. -/
def transferGasPrice : ℕ := 10000000000

/-- `'gas': 21000`. -/
def transferGas : ℕ := 21000

/-- `'chainId': 713714`. -/
def seiChainId : ℕ := 713714

/-- The transaction with nonce `nonce` from `fromAccount` to `recipient`. -/
def buildTx (fromAccount recipient : Account) (nonce : ℕ) : TxIntent :=
  { sender := fromAccount.address, recipient := recipient.address, value := transferValue,
    gas := transferGas, gasPrice := transferGasPrice, nonce := nonce, chainId := seiChainId }

/-- The `(sender address, nonce)` pair that identifies a transaction to the node. -/
def TxIntent.key (tx : TxIntent) : String × ℕ := (tx.sender, tx.nonce)

/-- The loop's transactions: nonces `nonce_start + i` for `i < batch_size`, the
`i`-th to `recipients i`, the account `random.randint` drew for it. -/
def batchTxs (fromAccount : Account) (recipients : ℕ → Account)
    (nonceStart batchSize : ℕ) : List TxIntent :=
  (List.range batchSize).map fun i => buildTx fromAccount (recipients i) (nonceStart + i)

theorem batchTxs_keys (fromAccount : Account) (recipients : ℕ → Account)
    (nonceStart batchSize : ℕ) :
    (batchTxs fromAccount recipients nonceStart batchSize).map TxIntent.key =
      (List.range' nonceStart batchSize).map (fromAccount.address, ·) := by
  simp [batchTxs, TxIntent.key, buildTx, List.range'_eq_map_range, Function.comp_def]

@[simp] theorem length_batchTxs (fromAccount : Account) (recipients : ℕ → Account)
    (nonceStart batchSize : ℕ) :
    (batchTxs fromAccount recipients nonceStart batchSize).length = batchSize := by
  simp [batchTxs]

/-! ## Signing -/

/-- Whether `Account.sign_transaction(tx, key)` returns (`true`) or raises. -/
abbrev Signer := String → TxIntent → Bool

/-- The signing loop: `.ok` with every transaction when each signature returns,
`.error` with the prefix signed before the first one that raises. -/
def signAll (signs : Signer) (key : String) : List TxIntent → Except (List TxIntent) (List TxIntent)
  | [] => .ok []
  | tx :: rest =>
    if signs key tx then
      match signAll signs key rest with
      | .ok done => .ok (tx :: done)
      | .error done => .error (tx :: done)
    else .error []

theorem signAll_eq_ok_of_forall {signs : Signer} {key : String} :
    ∀ {txs : List TxIntent}, (∀ tx ∈ txs, signs key tx) → signAll signs key txs = .ok txs
  | [], _ => rfl
  | tx :: rest, h => by
    simp [signAll, h tx (List.mem_cons_self _ _),
      signAll_eq_ok_of_forall fun t ht => h t (List.mem_cons_of_mem _ ht)]

/-- A signer that refuses every transaction signs nothing of a non-empty batch. -/
theorem signAll_eq_error_nil {signs : Signer} {key : String} (h : ∀ tx, signs key tx = false) :
    ∀ {txs : List TxIntent}, txs ≠ [] → signAll signs key txs = .error []
  | [], hne => absurd rfl hne
  | tx :: _, _ => by simp [signAll, h tx]

/-- A signing loop that returns returns the transactions themselves. -/
theorem eq_of_signAll_eq_ok {signs : Signer} {key : String} :
    ∀ {txs done : List TxIntent}, signAll signs key txs = .ok done → done = txs
  | [], _, h => by cases h; rfl
  | tx :: rest, done, h => by
    simp only [signAll] at h
    split at h
    · split at h
      · rename_i hrest
        cases h
        rw [eq_of_signAll_eq_ok hrest]
      · cases h
    · cases h

/-- A signing loop that raises has signed a strict prefix of the batch. -/
theorem signAll_error_prefix {signs : Signer} {key : String} :
    ∀ {txs done : List TxIntent}, signAll signs key txs = .error done →
      done <+: txs ∧ done.length < txs.length
  | [], _, h => by cases h
  | tx :: rest, done, h => by
    simp only [signAll] at h
    split at h
    · split at h
      · cases h
      · rename_i hrest
        cases h
        obtain ⟨hp, hl⟩ := signAll_error_prefix hrest
        exact ⟨List.cons_prefix_cons.mpr ⟨rfl, hp⟩, by simpa using hl⟩
    · cases h
      simp

/-! ## The batch coroutines -/

/-- The signing loop of a batch coroutine (the same in all three scripts). -/
def signBatch (signs : Signer) (fromAccount : Account) (recipients : ℕ → Account)
    (nonceStart batchSize : ℕ) : Except (List TxIntent) (List TxIntent) :=
  signAll signs fromAccount.privateKey (batchTxs fromAccount recipients nonceStart batchSize)

theorem signBatch_eq_ok {signs : Signer} (h : ∀ key tx, signs key tx = true)
    (fromAccount : Account) (recipients : ℕ → Account) (nonceStart batchSize : ℕ) :
    signBatch signs fromAccount recipients nonceStart batchSize =
      .ok (batchTxs fromAccount recipients nonceStart batchSize) :=
  signAll_eq_ok_of_forall fun tx _ => h _ tx

/-- `sub_batch_size = 20` in `send_transaction_batch_optimized`. -/
def subBatchSize : ℕ := 20

/-- The posts of `send_transaction_batch`: one is created in each pass of the
signing loop, so they are handed over in signing order. -/
def sendTransactionBatchPosts (signed : List TxIntent) : List TxIntent := signed

theorem sendTransactionBatchPosts_eq (signed : List TxIntent) :
    sendTransactionBatchPosts signed = signed := rfl

/-- The posts of `send_transaction_batch_optimized`: sub-batch by sub-batch over
`range(0, len(transactions), sub_batch_size)`. -/
def sendTransactionBatchOptimizedPosts (transactions : List TxIntent) : List TxIntent :=
  (rangeStep transactions.length subBatchSize).flatMap fun i => slice transactions i subBatchSize

/-- The sub-batch slicing posts every signed transaction once, in signing order. -/
theorem sendTransactionBatchOptimizedPosts_eq (transactions : List TxIntent) :
    sendTransactionBatchOptimizedPosts transactions = transactions :=
  flatMap_slice_rangeStep transactions (by decide)

/-! ## Outcomes -/

/-- What one post resolves to, as the coroutine sees it after
`asyncio.gather(..., return_exceptions=True)` and `await response.json()`. -/
inductive PostOutcome where
  /-- the post raised; `gather` returned the exception object -/
  | raised
  /-- a response whose `.json()` raised: unreadable body or wrong content type -/
  | unreadable
  /-- a response whose body parsed to this value -/
  | body (j : Json)
  deriving Repr, Inhabited

/-- An answer the node accepted into its pool: `{"result": <tx hash>}`. -/
def PostOutcome.accepted (hash : String) : PostOutcome :=
  .body (.obj [("result", .str hash)])

end SeiStressTest.Load
