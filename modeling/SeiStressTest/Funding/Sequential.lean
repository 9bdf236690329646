import SeiStressTest.Funding.Batch
import Mathlib.Tactic.NormNum
set_option autoImplicit false

/-!
# Funding: `fund_stress_test_accounts.py`

The sequential funder.  `main` checks the funder's balance against
`len(test_accounts) * AMOUNT_PER_ACCOUNT` plus a gas buffer of `0.01` ETH per
account and returns at once when it is short.  Otherwise it reads the funder's
pending nonce and calls, for the `i`-th account,

    tx_hash = fund_account(account['address'], AMOUNT_PER_ACCOUNT, nonce + i)
    if tx_hash:
        successful += 1
        tx_hashes.append(tx_hash)
    else:
        failed += 1

`fund_account` builds and signs the same transfer as the batched funder
(`fundingTx`), sends it, and returns the hash, or `None` when anything in its
`try` raised.  It ends by waiting for the receipts of `tx_hashes[-5:]`.

With enough balance the account at position `p` is funded with nonce `n0 + p`:
the plan `fund_all_accounts` of `fund_stress_test_accounts_20k.py` signs too.
The balance is an exact `Decimal` (`from_wei`), and Python compares a `Decimal`
with a float exactly, so the threshold is the binary64 value of
`len * 0.1 + 0.01 * len` (`totalWithGas`).  At the script's `NUM_ACCOUNTS = 50`
that value is exactly 5.5 ETH; at other lengths it can differ from
`len * 11/100` (three accounts need `0.33000000000000007`).
-/

namespace SeiStressTest.Funding

open Load (Account)

/-- What `w3.eth.send_raw_transaction` does with one transfer. -/
inductive SendOutcome where
  | raised
  /-- the returned hash, as the bytes of `HexBytes` -/
  | hash (txHash : String)
  deriving DecidableEq, Repr

/-- `fund_account(to_address, amount_eth, nonce)`: the transaction it signs and
what it returns, `None` when the send raised. -/
def fundAccount (chainId : ℕ) (account : Account) (nonce : ℕ) (o : SendOutcome) :
    FundingTx × Option String :=
  (fundingTx chainId nonce account,
    match o with
    | .raised => none
    | .hash txHash => some txHash)

/-- `if tx_hash:`: a `HexBytes` is true when it is not empty. -/
def hashTruthy : Option String → Bool
  | some txHash => !txHash.isEmpty
  | none => false

/-- The locals of `main`'s funding loop. -/
structure SequentialState where
  /-- every transaction signed so far, in order -/
  signed : List FundingTx
  successful : ℕ
  failed : ℕ
  txHashes : List String

/-- One pass of the loop, for the account at position `i`. -/
def fundStep (chainId n0 : ℕ) (outcome : ℕ → SendOutcome) (s : SequentialState)
    (p : ℕ × Account) : SequentialState :=
  let r := fundAccount chainId p.2 (n0 + p.1) (outcome p.1)
  let s := { s with signed := s.signed ++ [r.1] }
  match r.2, hashTruthy r.2 with
  | some txHash, true => { s with successful := s.successful + 1, txHashes := s.txHashes ++ [txHash] }
  | _, _ => { s with failed := s.failed + 1 }

/-- `NUM_ACCOUNTS`, the number of accounts `main` generates. -/
def numAccounts : ℕ := 50

/-- `total_with_gas = total_required + gas_buffer`, with `total_required =
len(test_accounts) * AMOUNT_PER_ACCOUNT` and `gas_buffer = 0.01 *
len(test_accounts)`, in binary64. -/
def totalWithGas (numAccounts : ℕ) : Double :=
  (Double.mul (.ofNat numAccounts) (.ofRatio 1 10)).add (Double.mul (.ofRatio 1 100) (.ofNat numAccounts))

/-- `balance_eth < total_with_gas`: the exact balance in ETH against the float. -/
def insufficientBalance (balanceWei numAccounts : ℕ) : Prop :=
  (balanceWei : ℚ) / 10 ^ 18 < (totalWithGas numAccounts).toRat

instance (balanceWei numAccounts : ℕ) : Decidable (insufficientBalance balanceWei numAccounts) :=
  inferInstanceAs (Decidable (_ < _))

/-- `main` from the funder's balance and pending nonce `n0`: the funding loop,
or nothing when the balance is short. -/
def fundMain (balanceWei chainId n0 : ℕ) (outcome : ℕ → SendOutcome) (testAccounts : List Account) :
    SequentialState :=
  if insufficientBalance balanceWei testAccounts.length then ⟨[], 0, 0, []⟩
  else testAccounts.enum.foldl (fundStep chainId n0 outcome) ⟨[], 0, 0, []⟩

/-- `Sample confirmations: {confirmed}/5`: the receipts of `tx_hashes[-5:]`
with `status == 1`; `receiptStatus` is `None` when the wait raises. -/
def sampleConfirmations (receiptStatus : String → Option ℕ) (txHashes : List String) : ℕ :=
  (lastN txHashes 5).countP fun txHash => receiptStatus txHash == some 1

/-- For the accounts `main` generates, the float sum is exactly 5.5 ETH:
`0.11` ETH per account. -/
theorem totalWithGas_numAccounts : (totalWithGas numAccounts).toRat = numAccounts * (11 / 100) := by
  rw [show totalWithGas numAccounts = ⟨6192449487634432, -50⟩ by decide]
  norm_num [Double.toRat, numAccounts]

/-- Three accounts would need `0.33000000000000007` ETH, not `0.33`. -/
example : (totalWithGas 3).toRat = 5944751508129056 / 2 ^ 54 := by
  rw [show totalWithGas 3 = ⟨5944751508129056, -54⟩ by decide]
  norm_num [Double.toRat]

/-! ## The loop -/

/-- Step lemma: a pass signs the account's transfer and counts it once, and it
keeps a hash exactly when it counts a success. -/
theorem fundStep_spec (chainId n0 : ℕ) (outcome : ℕ → SendOutcome) {s : SequentialState}
    (hs : s.txHashes.length = s.successful) (p : ℕ × Account) :
    let s' := fundStep chainId n0 outcome s p
    s'.signed = s.signed ++ [fundingTx chainId (n0 + p.1) p.2] ∧
      s'.successful + s'.failed = s.successful + s.failed + 1 ∧ s'.txHashes.length = s'.successful := by
  dsimp only [fundStep]
  split
  · refine ⟨rfl, by dsimp only; omega, ?_⟩
    simp only [List.length_append, List.length_singleton, hs]
  · exact ⟨rfl, by dsimp only; omega, hs⟩

/-- Run lemma: the loop over `enumerate(test_accounts)` signs the plan's
transfers in order and counts each once. -/
theorem foldl_fundStep (chainId n0 : ℕ) (outcome : ℕ → SendOutcome) :
    ∀ (ps : List (ℕ × Account)) {s : SequentialState}, s.txHashes.length = s.successful →
      let s' := ps.foldl (fundStep chainId n0 outcome) s
      s'.signed = s.signed ++ ps.map (fun p => fundingTx chainId (n0 + p.1) p.2) ∧
        s'.successful + s'.failed = s.successful + s.failed + ps.length ∧
        s'.txHashes.length = s'.successful
  | [], s, hs => ⟨by simp, rfl, hs⟩
  | p :: ps, s, hs => by
    obtain ⟨hsigned, htotal, hhashes⟩ := fundStep_spec chainId n0 outcome hs p
    obtain ⟨hsigned', htotal', hhashes'⟩ := foldl_fundStep chainId n0 outcome ps hhashes
    simp only [List.foldl_cons, List.map_cons, List.length_cons]
    exact ⟨by rw [hsigned', hsigned, List.append_assoc, List.singleton_append], by omega, hhashes'⟩

end SeiStressTest.Funding
