import SeiStressTest.Load.Transaction
import Mathlib.Data.List.Nodup
set_option autoImplicit false

/-!
# Load: nonce reservation

Each iteration of a load loop hands every selected account the current value
of `nonce_counters[address]` as its batch's `nonce_start` and advances the
counter by the per-sender batch size, all before any batch coroutine runs:

    for account in sending_accounts:
        task = self.send_transaction_batch(session, account,
                   nonce_counters[account['address']], batch_size)
        nonce_counters[account['address']] += batch_size

The reservation is sequential, so even an account list that repeats an address
(two entries selected in the same iteration) gets disjoint ranges.  The nonce
law below is the invariant that says so: for every address, the nonces issued
so far are exactly `c0[a], ..., nonce_counters[a] - 1`, in increasing order.
-/

namespace SeiStressTest.Load

/-- `nonce_counters`: the next nonce of every address. -/
abbrev NonceCounters := String → ℕ

/-- `nonce_counters[addr] += n`. -/
def advance (c : NonceCounters) (addr : String) (n : ℕ) : NonceCounters :=
  Function.update c addr (c addr + n)

@[simp] theorem advance_self (c : NonceCounters) (addr : String) (n : ℕ) :
    advance c addr n addr = c addr + n := by
  simp [advance]

@[simp] theorem advance_of_ne (c : NonceCounters) {addr x : String} (n : ℕ) (h : x ≠ addr) :
    advance c addr n x = c x := by
  simp [advance, h]

/-- The reservation loop of one iteration: the `nonce_start` of each selected
account's batch, in selection order, and the advanced counters. -/
def reserve (batchSize : ℕ) : NonceCounters → List Account → List (Account × ℕ) × NonceCounters
  | c, [] => ([], c)
  | c, a :: rest =>
    let r := reserve batchSize (advance c a.address batchSize) rest
    ((a, c a.address) :: r.1, r.2)

@[simp] theorem length_reserve (batchSize : ℕ) (c : NonceCounters) (senders : List Account) :
    (reserve batchSize c senders).1.length = senders.length := by
  induction senders generalizing c <;> simp [reserve, *]

/-- The `(address, nonce)` pairs a list of reservations hands out, batch after
batch and, within a batch, in nonce order. -/
def reservedKeys (batchSize : ℕ) (starts : List (Account × ℕ)) : List (String × ℕ) :=
  starts.flatMap fun r => (List.range' r.2 batchSize).map (r.1.address, ·)

/-- The nonces issued for `addr`, in issue order. -/
def noncesOf (addr : String) (keys : List (String × ℕ)) : List ℕ :=
  (keys.filter (·.1 == addr)).map (·.2)

@[simp] theorem noncesOf_nil (addr : String) : noncesOf addr [] = [] := rfl

@[simp] theorem noncesOf_append (addr : String) (k₁ k₂ : List (String × ℕ)) :
    noncesOf addr (k₁ ++ k₂) = noncesOf addr k₁ ++ noncesOf addr k₂ := by
  simp [noncesOf]

theorem noncesOf_range' (addr a : String) (s n : ℕ) :
    noncesOf addr ((List.range' s n).map (a, ·)) = if a = addr then List.range' s n else [] := by
  by_cases h : a = addr
  · subst h
    simp [noncesOf, List.filter_map, Function.comp_def, List.map_map]
  · simp [noncesOf, List.filter_map, Function.comp_def, h]

/-- Pairs whose nonces are distinct address by address are distinct. -/
theorem nodup_of_noncesOf_nodup {keys : List (String × ℕ)}
    (h : ∀ addr, (noncesOf addr keys).Nodup) : keys.Nodup := by
  induction keys with
  | nil => exact List.nodup_nil
  | cons k rest ih =>
    have hk := h k.1
    simp only [noncesOf, List.filter_cons, beq_self_eq_true, if_true, List.map_cons,
      List.nodup_cons, List.mem_map, List.mem_filter] at hk
    refine List.nodup_cons.mpr ⟨fun hmem => hk.1 ⟨k, ⟨hmem, by simp⟩, rfl⟩, ih fun addr => ?_⟩
    exact (h addr).sublist ((List.sublist_cons_self k rest).filter _ |>.map _)

/-- The nonce law relative to the initial counters `c0`: for every address the
counter never went below its start, and the nonces issued so far are exactly
`c0 addr, c0 addr + 1, ..., c addr - 1`, in that order. -/
def NonceLaw (c0 c : NonceCounters) (keys : List (String × ℕ)) : Prop :=
  ∀ addr, c0 addr ≤ c addr ∧ noncesOf addr keys = List.range' (c0 addr) (c addr - c0 addr)

theorem nonceLaw_nil (c0 : NonceCounters) : NonceLaw c0 c0 [] := by
  intro addr
  simp

section Law

variable {c0 c : NonceCounters} {keys : List (String × ℕ)}

/-- Step lemma: one reservation extends the address's range by exactly the
batch it hands out, and leaves every other address alone. -/
theorem nonceLaw_advance (h : NonceLaw c0 c keys) (addr : String) (n : ℕ) :
    NonceLaw c0 (advance c addr n) (keys ++ (List.range' (c addr) n).map (addr, ·)) := by
  intro x
  obtain ⟨hle, hx⟩ := h x
  rw [noncesOf_append, noncesOf_range', hx]
  by_cases hxa : x = addr
  · subst hxa
    have hsplit : c0 x + (c x - c0 x) = c x := by omega
    have hlen : c x + n - c0 x = n + (c x - c0 x) := by omega
    refine ⟨by simp; omega, ?_⟩
    rw [if_pos rfl, advance_self, hlen, ← List.range'_append_1 (c0 x) (c x - c0 x) n, hsplit]
  · simp [Ne.symm hxa, advance_of_ne _ _ hxa, hle]

/-- The law survives a whole iteration's reservation loop. -/
theorem nonceLaw_reserve (h : NonceLaw c0 c keys) (batchSize : ℕ) (senders : List Account) :
    NonceLaw c0 (reserve batchSize c senders).2
      (keys ++ reservedKeys batchSize (reserve batchSize c senders).1) := by
  induction senders generalizing c keys with
  | nil => simpa [reserve, reservedKeys] using h
  | cons a rest ih =>
    have := ih (nonceLaw_advance h a.address batchSize)
    simpa [reserve, reservedKeys] using this

/-- Under the law, the issued pairs are pairwise distinct. -/
theorem nodup_of_nonceLaw (h : NonceLaw c0 c keys) : keys.Nodup := by
  apply nodup_of_noncesOf_nodup
  intro addr
  rw [(h addr).2]
  exact List.nodup_range' _ _

/-- Under the law, each address's nonces are issued in strictly increasing order. -/
theorem noncesOf_sorted_of_nonceLaw (h : NonceLaw c0 c keys) (addr : String) :
    (noncesOf addr keys).Pairwise (· < ·) := by
  rw [(h addr).2]
  exact List.pairwise_lt_range' _ _

end Law

/-- The counter of `addr` after one iteration's loop: one batch per time the
address was selected, a repeated address counting once per selected entry. -/
theorem reserve_counter (batchSize : ℕ) (c : NonceCounters) (senders : List Account)
    (addr : String) :
    (reserve batchSize c senders).2 addr =
      c addr + batchSize * (senders.map Account.address).count addr := by
  induction senders generalizing c with
  | nil => simp [reserve]
  | cons a rest ih =>
    simp only [reserve, ih, List.map_cons, List.count_cons]
    by_cases hx : addr = a.address
    · subst hx
      simp [Nat.mul_add]
      omega
    · simp [advance_of_ne _ _ hx, Ne.symm hx]

end SeiStressTest.Load
