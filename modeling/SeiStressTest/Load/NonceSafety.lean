import SeiStressTest.Load.Phase
set_option autoImplicit false

/-!
# Load: nonce safety of the load phase

The nonce law of `Load.Nonce` is carried through whole runs of the three load
loops.  When every signature returns, a run of any length ends in a state where:

* every signed transaction was posted, exactly once and in signing order;
* for every address, the nonces signed for it are exactly
  `c0[a], ..., nonce_counters[a] - 1` in increasing order, so the signed
  `(address, nonce)` pairs are pairwise distinct;
* `nonce_counters[a] - c0[a]` is the per-sender batch size times the number of
  times `a` was selected;
* the transactions were handed over iteration by iteration.

A phase whose rate is zero raises before its loop from the initial state, so
the guarantee holds of the state it raises with too.

An account list that repeats an address can select it twice in one iteration.
A selection is therefore counted per selected entry (`selections`), which is the
number of iterations that selected the address once the list's addresses are
distinct (`selections_eq_of_nodup`).
-/

namespace SeiStressTest.Load

section Guarantee

variable {accounts : List Account} {k : ℕ}

/-- How often `a` was selected in the first `n` draws, one count per selected
entry of the account list. -/
def selections (env : ℕ → Draw accounts k) (n : ℕ) (a : String) : ℕ :=
  ((List.range n).map fun i => ((env i).senders.senders.map Account.address).count a).sum

/-- The iterations among the first `n` whose sample contains `a`. -/
def iterationsSelecting (env : ℕ → Draw accounts k) (n : ℕ) (a : String) : ℕ :=
  ((List.range n).filter fun i => a ∈ (env i).senders.senders.map Account.address).length

/-- The nonce guarantee of a state reached after `s.iteration` iterations. -/
structure NonceGuarantee (c0 : NonceCounters) (batchSize : ℕ) (env : ℕ → Draw accounts k)
    (s : LoadState) : Prop where
  posted_eq_signed : s.posted = s.signed
  law : NonceLaw c0 s.nonceCounters (s.signed.map fun p => p.2.key)
  counter : ∀ a, s.nonceCounters a = c0 a + batchSize * selections env s.iteration a
  ordered : (s.signed.map Prod.fst).Pairwise (· ≤ ·)
  tagged : ∀ p ∈ s.signed, p.1 < s.iteration

theorem nonceGuarantee_initial (c0 : NonceCounters) (batchSize : ℕ) (env : ℕ → Draw accounts k) :
    NonceGuarantee c0 batchSize env (.initial c0) where
  posted_eq_signed := rfl
  law := nonceLaw_nil c0
  counter a := by simp [LoadState.initial, selections]
  ordered := List.Pairwise.nil
  tagged p hp := by simp [LoadState.initial] at hp

theorem selections_succ (env : ℕ → Draw accounts k) (n : ℕ) (a : String) :
    selections env (n + 1) a =
      selections env n a + ((env n).senders.senders.map Account.address).count a := by
  simp [selections, List.range_succ]

/-- Step lemma: an iteration in which every signature returns keeps the guarantee. -/
theorem nonceGuarantee_dispatch {signs : Signer} (hsigns : ∀ key tx, signs key tx = true)
    {postOrder : List TxIntent → List TxIntent} (horder : ∀ txs, postOrder txs = txs)
    {count : PostOutcome → TxResults → TxResults} (hcount : ∀ o, IsShift (count o))
    {c0 : NonceCounters} {batchSize : ℕ} {env : ℕ → Draw accounts k} {s : LoadState}
    (h : NonceGuarantee c0 batchSize env s) :
    ∃ s', dispatchIteration signs postOrder count batchSize (env s.iteration) s = .ok s' ∧
      NonceGuarantee c0 batchSize env s' ∧ s'.clock = s.clock + (env s.iteration).dispatch ∧
      s'.lastBatchTime = s.lastBatchTime := by
  rw [dispatchIteration_eq_ok hsigns horder hcount]
  refine ⟨_, rfl, ⟨by simp [h.posted_eq_signed], ?_, ?_, ?_, ?_⟩, rfl, rfl⟩
  · simpa [slotTxs_keys, Function.comp_def] using nonceLaw_reserve h.law batchSize _
  · intro a
    simp [reserve_counter, h.counter, selections_succ, Nat.mul_add, Nat.add_assoc]
  · simp only [List.map_append, List.map_map, Function.comp_def, List.pairwise_append]
    refine ⟨h.ordered, by simp [List.pairwise_map], ?_⟩
    simp only [List.mem_map]
    rintro _ ⟨p, hp, rfl⟩ _ ⟨_, _, rfl⟩
    exact Nat.le_of_lt (h.tagged p hp)
  · intro p hp
    simp only [List.mem_append, List.mem_map] at hp
    rcases hp with hp | ⟨_, _, rfl⟩
    · exact Nat.lt_succ_of_lt (h.tagged p hp)
    · exact Nat.lt_succ_self _

/-- With distinct addresses in the account list, a sample never holds an
address twice, and selections are iterations. -/
theorem selections_eq_of_nodup (hnd : (accounts.map Account.address).Nodup)
    (env : ℕ → Draw accounts k) (n : ℕ) (a : String) :
    selections env n a = iterationsSelecting env n a := by
  have hsample : ∀ i, ((env i).senders.senders.map Account.address).Nodup := by
    intro i
    simp only [Sample.senders, List.map_map]
    refine (env i).senders.nodup.map_on fun x _ y _ hxy => ?_
    have hget : accounts.get x = accounts.get y :=
      List.inj_on_of_nodup_map hnd (List.get_mem _ _ _) (List.get_mem _ _ _) hxy
    exact (hnd.of_map _).get_inj_iff.mp hget
  induction n with
  | zero => rfl
  | succ n ih =>
    simp only [selections_succ, ih, iterationsSelecting, List.range_succ, List.filter_append,
      List.length_append]
    by_cases ha : a ∈ (env n).senders.senders.map Account.address
    · simp [-List.mem_map, List.count_eq_one_of_mem (hsample n) ha, ha, List.filter_cons]
    · simp [-List.mem_map, List.count_eq_zero_of_not_mem ha, ha, List.filter_cons]

/-! ## What the guarantee says -/

variable {c0 : NonceCounters} {batchSize : ℕ} {env : ℕ → Draw accounts k} {s : LoadState}

/-- The signed `(address, nonce)` pairs are pairwise distinct. -/
theorem NonceGuarantee.nodup (h : NonceGuarantee c0 batchSize env s) :
    (s.signed.map fun p => p.2.key).Nodup :=
  nodup_of_nonceLaw h.law

/-- The nonce advance of every address, one batch per selection. -/
theorem NonceGuarantee.advance (h : NonceGuarantee c0 batchSize env s) (a : String) :
    s.nonceCounters a - c0 a = batchSize * selections env s.iteration a := by
  rw [h.counter a]
  omega

/-- With distinct addresses in the account list, one batch per iteration that
selected the address. -/
theorem NonceGuarantee.counter_of_nodup (h : NonceGuarantee c0 batchSize env s)
    (hnd : (accounts.map Account.address).Nodup) (a : String) :
    s.nonceCounters a = c0 a + batchSize * iterationsSelecting env s.iteration a := by
  rw [h.counter a, selections_eq_of_nodup hnd]

end Guarantee

/-! ## The three load loops -/

section Loops

variable {signs : Signer} (hsigns : ∀ key tx, signs key tx = true)
variable (accounts : List Account) (c0 : NonceCounters) (tpsTarget duration : ℚ) (fuel : ℕ)
include hsigns

theorem stressPass_nonceGuarantee {k : ℕ} {count : PostOutcome → TxResults → TxResults}
    (hcount : ∀ o, IsShift (count o)) (batchDelay : ℚ) {c0 : NonceCounters}
    {env : ℕ → Draw accounts k} {s : LoadState} (h : NonceGuarantee c0 (transactionsPerBatch / k) env s) :
    ∃ s', stressPass signs count batchDelay (env s.iteration) s = .ok s' ∧
      NonceGuarantee c0 (transactionsPerBatch / k) env s' := by
  obtain ⟨s', hs', hg, -⟩ := nonceGuarantee_dispatch hsigns sendTransactionBatchPosts_eq hcount h
  exact ⟨{ s' with clock := asyncioSleep batchDelay s'.clock },
    by simp [stressPass, hs', Except.map], { hg with }⟩

theorem optimizedPass_nonceGuarantee {k : ℕ} (batchInterval : ℚ) (txsPerAccount : ℕ)
    {c0 : NonceCounters} {env : ℕ → Draw accounts k} {s : LoadState}
    (h : NonceGuarantee c0 txsPerAccount env s) :
    ∃ s', optimizedPass signs batchInterval txsPerAccount (env s.iteration) s = .ok s' ∧
      NonceGuarantee c0 txsPerAccount env s' := by
  have hw : NonceGuarantee c0 txsPerAccount env (waitForWindow batchInterval s) := { h with }
  obtain ⟨s', hs', hg, -⟩ :=
    nonceGuarantee_dispatch hsigns sendTransactionBatchOptimizedPosts_eq countOutcome_eq_add hw
  rw [waitForWindow_iteration] at hs'
  exact ⟨{ s' with lastBatchTime := s'.clock }, by simp [optimizedPass, hs', Except.map],
    { hg with }⟩

theorem blocktime_nonceGuarantee (env : ℕ → Draw accounts (min 50 accounts.length)) :
    ∃ s, Blocktime.stressTestTransactions signs accounts tpsTarget duration env fuel =
        (if tpsTarget = 0 then .error s else .ok s) ∧
      NonceGuarantee (fun _ => 0) (transactionsPerBatch / min 50 accounts.length) env s :=
  loadPhase_preserves _ _ (Blocktime.stressTestTransactions_eq env) (nonceGuarantee_initial _ _ env)
    fun _ hs _ => stressPass_nonceGuarantee hsigns accounts countOutcome_eq_add _ hs

theorem fixed_nonceGuarantee (env : ℕ → Draw accounts (min 50 accounts.length)) :
    ∃ s, Fixed.stressTestTransactions signs accounts c0 tpsTarget duration env fuel =
        (if tpsTarget = 0 then .error s else .ok s) ∧
      NonceGuarantee c0 (transactionsPerBatch / min 50 accounts.length) env s :=
  loadPhase_preserves _ _ (Fixed.stressTestTransactions_eq env) (nonceGuarantee_initial _ _ env)
    fun _ hs _ => stressPass_nonceGuarantee hsigns accounts countOutcomeFixed_eq_add _ hs

theorem tps20k_nonceGuarantee (env : ℕ → Draw accounts (min 100 accounts.length)) :
    ∃ s, Tps20k.stressTestTransactionsOptimized signs accounts c0 tpsTarget duration env fuel =
        (if tpsTarget = 0 ∨ accounts = [] then .error s else .ok s) ∧
      NonceGuarantee c0 (transactionsPerBatchOptimized / min 100 accounts.length) env s :=
  loadPhase_preserves _ _ (Tps20k.stressTestTransactionsOptimized_eq env) (nonceGuarantee_initial _ _ env)
    fun _ hs _ => optimizedPass_nonceGuarantee hsigns accounts _ _ hs

end Loops

/-- An iteration of the fixed loop on a list that holds `0xA` twice, both
entries sampled and every post raising. -/
def repeatedAddressDraw : Draw [⟨"0xA", "k"⟩, ⟨"0xA", "k"⟩] (min 50 2) :=
  ⟨⟨[⟨0, by decide⟩, ⟨1, by decide⟩], by decide, rfl⟩, fun _ _ => ⟨"0xA", "k"⟩,
    fun _ _ _ => List.mem_cons_self _ _, fun _ _ => .raised, [], 0⟩

/-- An iteration of the fixed loop on `[0xA]`, every post raising. -/
def singleAddressDraw : Draw [⟨"0xA", "k"⟩] (min 50 1) :=
  ⟨⟨[⟨0, by decide⟩], by decide, rfl⟩, fun _ _ => ⟨"0xA", "k"⟩, fun _ _ _ => List.mem_cons_self _ _,
    fun _ _ => .raised, [], 0⟩

end SeiStressTest.Load
