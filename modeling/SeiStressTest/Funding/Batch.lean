import SeiStressTest.Load.Transaction
set_option autoImplicit false

/-!
# Funding: `fund_stress_test_accounts_20k.py`

`fund_all_accounts` walks the account list in slices of 20 over
`range(0, total_accounts, batch_size)`, hands each slice to
`fund_accounts_batch` with the running funder nonce, and advances the nonce by
the slice's length.  `fund_accounts_batch` signs, for the `i`-th account of its
slice, a transfer with nonce `start_nonce + i`, gathers the posts, and counts
each response as successful or failed.

The funder key is the script's constant and every field of the transaction is
built by the script, so signing is total here; `w3.eth.chain_id` and
`get_transaction_count` are what the node answers (`chainId`, `n0`).  Each
post may raise, return an unreadable body, or return any JSON.

The account at position `p` is funded with nonce `n0 + p`, and every post is
counted exactly once: the failure branch's `response.get` raises on a body that
is not an object, before its increment, and the `except` counts it instead.
-/

namespace SeiStressTest.Funding

open Load (Account PostOutcome)

/-- `w3.to_wei(AMOUNT_PER_ACCOUNT, 'ether')` with `AMOUNT_PER_ACCOUNT = 0.1`. -/
def amountWei : ℕ := 100000000000000000

/-- The transaction dict `fund_accounts_batch` signs with the funder's key. -/
structure FundingTx where
  nonce : ℕ
  /-- the `'to'` field -/
  toAddress : String
  value : ℕ
  gas : ℕ
  gasPrice : ℕ
  chainId : ℕ
  deriving DecidableEq, Repr

/-- The funding transaction of `account` with nonce `nonce`. -/
def fundingTx (chainId nonce : ℕ) (account : Account) : FundingTx :=
  { nonce := nonce, toAddress := account.address, value := amountWei, gas := 21000,
    gasPrice := Load.transferGasPrice, chainId := chainId }

/-- One pass of the response loop: the outcome of a post added to
`(successful, failed)`. -/
def countFunding : PostOutcome → ℕ × ℕ → ℕ × ℕ
  | .raised, (successful, failed) => (successful, failed + 1)
  | .unreadable, (successful, failed) => (successful, failed + 1)
  | .body response, (successful, failed) =>
    match response.contains "result" with
    | some true => (successful + 1, failed)
    | some false =>
      match response.get "error" (.str "Unknown error") with
      | some _ => (successful, failed + 1)
      | none => (successful, failed + 1)
    | none => (successful, failed + 1)

/-- `fund_accounts_batch(accounts_to_fund, start_nonce, batch_size)`: the
transactions signed, in order, and the pair it returns; post `i` resolves to
`outcome i`. -/
def fundAccountsBatch (chainId : ℕ) (outcome : ℕ → PostOutcome) (accountsToFund : List Account)
    (startNonce batchSize : ℕ) : List FundingTx × (ℕ × ℕ) :=
  let signed := (accountsToFund.take batchSize).enum.map fun p => fundingTx chainId (startNonce + p.1) p.2
  (signed, ((List.range signed.length).map outcome).foldl (fun acc o => countFunding o acc) (0, 0))

/-- `batch_size = 20` in `fund_all_accounts`. -/
def fundingBatchSize : ℕ := 20

/-- The locals of `fund_all_accounts` between two slices. -/
structure FundingState where
  /-- every transaction signed so far, in order -/
  signed : List FundingTx
  nonce : ℕ
  totalSuccessful : ℕ
  totalFailed : ℕ

/-- The body of the slice loop for the slice starting at `i`. -/
def fundSlice (chainId : ℕ) (outcomes : ℕ → ℕ → PostOutcome) (testAccounts : List Account)
    (s : FundingState) (i : ℕ) : FundingState :=
  let batch := slice testAccounts i fundingBatchSize
  let r := fundAccountsBatch chainId (outcomes i) batch s.nonce batch.length
  { signed := s.signed ++ r.1, nonce := s.nonce + batch.length,
    totalSuccessful := s.totalSuccessful + r.2.1, totalFailed := s.totalFailed + r.2.2 }

/-- `fund_all_accounts(test_accounts)` with the funder's pending nonce `n0`;
the posts of the slice starting at `i` resolve to `outcomes i`. -/
def fundAllAccounts (chainId n0 : ℕ) (outcomes : ℕ → ℕ → PostOutcome)
    (testAccounts : List Account) : FundingState :=
  (rangeStep testAccounts.length fundingBatchSize).foldl (fundSlice chainId outcomes testAccounts)
    ⟨[], n0, 0, 0⟩

/-- What funding is meant to sign: the account at position `p` with nonce `n0 + p`. -/
def fundingPlan (chainId n0 : ℕ) (testAccounts : List Account) : List FundingTx :=
  testAccounts.enum.map fun p => fundingTx chainId (n0 + p.1) p.2

/-! ## One batch -/

/-- Every response adds one to exactly one of the two counts. -/
theorem countFunding_total (o : PostOutcome) (acc : ℕ × ℕ) :
    (countFunding o acc).1 + (countFunding o acc).2 = acc.1 + acc.2 + 1 := by
  obtain ⟨successful, failed⟩ := acc
  cases o with
  | body response =>
    simp only [countFunding]
    split
    · omega
    · split <;> omega
    · omega
  | _ => simp only [countFunding]; omega

theorem foldl_countFunding_total (outcomes : List PostOutcome) (acc : ℕ × ℕ) :
    (outcomes.foldl (fun acc o => countFunding o acc) acc).1 +
      (outcomes.foldl (fun acc o => countFunding o acc) acc).2 = acc.1 + acc.2 + outcomes.length := by
  induction outcomes generalizing acc with
  | nil => rfl
  | cons o outcomes ih =>
    rw [List.foldl_cons, ih, countFunding_total, List.length_cons]
    omega

/-- A batch signs its whole slice, nonces counting up from `start_nonce`, and
counts each post once. -/
theorem fundAccountsBatch_spec (chainId : ℕ) (outcome : ℕ → PostOutcome) (batch : List Account)
    (startNonce : ℕ) :
    (fundAccountsBatch chainId outcome batch startNonce batch.length).1 =
        batch.enum.map (fun p => fundingTx chainId (startNonce + p.1) p.2) ∧
      (fundAccountsBatch chainId outcome batch startNonce batch.length).2.1 +
        (fundAccountsBatch chainId outcome batch startNonce batch.length).2.2 = batch.length := by
  refine ⟨by simp [fundAccountsBatch], ?_⟩
  simp only [fundAccountsBatch]
  rw [foldl_countFunding_total]
  simp

/-! ## The slice loop -/

/-- The slice of the plan starting at `i`: the slice of the accounts, funded
from nonce `n0 + i`. -/
theorem slice_fundingPlan (chainId n0 : ℕ) (testAccounts : List Account) (i size : ℕ) :
    slice (fundingPlan chainId n0 testAccounts) i size =
      (slice testAccounts i size).enum.map fun p => fundingTx chainId (n0 + i + p.1) p.2 := by
  have hplan : slice testAccounts.enum i size = (slice testAccounts i size).enum.map
      (Prod.map (· + i) id) := by
    rw [List.enum_eq_enumFrom, slice_enumFrom, Nat.zero_add, List.enumFrom_eq_map_enum]
  rw [fundingPlan, slice_map, hplan, List.map_map]
  congr 1
  funext p
  simp [Nat.add_assoc, Nat.add_comm i]

/-- One pass of the slice loop, entered with the nonce `n0 + min i L`: it
signs the plan's slice at `i` and counts that slice's posts. -/
theorem fundSlice_spec (chainId n0 : ℕ) (outcomes : ℕ → ℕ → PostOutcome)
    (testAccounts : List Account) (s : FundingState) (i : ℕ)
    (hnonce : s.nonce = n0 + min i testAccounts.length) :
    let s' := fundSlice chainId outcomes testAccounts s i
    s'.signed = s.signed ++ slice (fundingPlan chainId n0 testAccounts) i fundingBatchSize ∧
      s'.nonce = n0 + min (i + fundingBatchSize) testAccounts.length ∧
      s'.totalSuccessful + s'.totalFailed =
        s.totalSuccessful + s.totalFailed + (slice testAccounts i fundingBatchSize).length := by
  obtain ⟨hsigned, htotal⟩ := fundAccountsBatch_spec chainId (outcomes i)
    (slice testAccounts i fundingBatchSize) s.nonce
  have hlen : (slice testAccounts i fundingBatchSize).length =
      min fundingBatchSize (testAccounts.length - i) := by
    simp only [slice, List.length_take, List.length_drop]
  refine ⟨?_, ?_, ?_⟩
  · simp only [fundSlice, hsigned, slice_fundingPlan]
    by_cases hi : i < testAccounts.length
    · rw [hnonce, Nat.min_eq_left (Nat.le_of_lt hi)]
    · have hnil : slice testAccounts i fundingBatchSize = [] := by
        simp [slice, List.drop_eq_nil_of_le (Nat.le_of_not_lt hi)]
      simp [hnil]
  · show s.nonce + (slice testAccounts i fundingBatchSize).length = _
    rw [hlen, hnonce]
    simp only [fundingBatchSize]
    omega
  · simp only [fundSlice]
    omega

/-- Run lemma: the slices at `i, i + 20, ...` sign the plan's slices there and
count their posts. -/
theorem foldl_fundSlice (chainId n0 : ℕ) (outcomes : ℕ → ℕ → PostOutcome)
    (testAccounts : List Account) (k : ℕ) :
    ∀ (i : ℕ) (s : FundingState), s.nonce = n0 + min i testAccounts.length →
      let s' := (List.range' i k fundingBatchSize).foldl (fundSlice chainId outcomes testAccounts) s
      s'.signed = s.signed ++ (List.range' i k fundingBatchSize).flatMap
          (fun j => slice (fundingPlan chainId n0 testAccounts) j fundingBatchSize) ∧
        s'.totalSuccessful + s'.totalFailed = s.totalSuccessful + s.totalFailed +
          ((List.range' i k fundingBatchSize).flatMap fun j => slice testAccounts j fundingBatchSize).length := by
  induction k with
  | zero => intro i s _; simp
  | succ k ih =>
    intro i s hnonce
    obtain ⟨hsigned, hnonce', htotal⟩ := fundSlice_spec chainId n0 outcomes testAccounts s i hnonce
    obtain ⟨hsigned'', htotal''⟩ := ih (i + fundingBatchSize) _ hnonce'
    simp only [List.range'_succ, List.foldl_cons, List.flatMap_cons, List.length_append]
    refine ⟨by rw [hsigned'', hsigned, List.append_assoc], by rw [htotal'', htotal]; omega⟩

/-- `fund_all_accounts`, whatever each post resolves to: the account at position
`p` is funded once, with nonce `n0 + p`, so the nonces used are exactly
`n0, ..., n0 + L - 1`, and the returned counts add up to `L`. -/
theorem fund_all_accounts_uses_each_nonce_once (chainId n0 : ℕ) (outcomes : ℕ → ℕ → PostOutcome)
    (testAccounts : List Account) :
    (fundAllAccounts chainId n0 outcomes testAccounts).signed = fundingPlan chainId n0 testAccounts ∧
      (fundAllAccounts chainId n0 outcomes testAccounts).signed.map FundingTx.nonce =
        List.range' n0 testAccounts.length ∧
      (fundAllAccounts chainId n0 outcomes testAccounts).totalSuccessful +
        (fundAllAccounts chainId n0 outcomes testAccounts).totalFailed = testAccounts.length := by
  obtain ⟨hsigned, htotal⟩ := foldl_fundSlice chainId n0 outcomes testAccounts
    ((testAccounts.length + fundingBatchSize - 1) / fundingBatchSize) 0 ⟨[], n0, 0, 0⟩ (by simp)
  have hplan : (fundingPlan chainId n0 testAccounts).length = testAccounts.length := by
    simp [fundingPlan]
  have hsigned' : (fundAllAccounts chainId n0 outcomes testAccounts).signed =
      fundingPlan chainId n0 testAccounts := by
    rw [fundAllAccounts, rangeStep, hsigned, List.nil_append, ← hplan]
    exact flatMap_slice_rangeStep _ (by decide)
  refine ⟨hsigned', ?_, ?_⟩
  · rw [hsigned']
    simp only [fundingPlan, fundingTx, List.map_map, Function.comp_def, List.range'_eq_map_range,
      ← List.enum_map_fst]
  · rw [fundAllAccounts, rangeStep, htotal]
    simpa using congrArg List.length (flatMap_slice_rangeStep testAccounts (by decide : 0 < fundingBatchSize))

end SeiStressTest.Funding
