import SeiStressTest.Load.Phase
set_option autoImplicit false

/-!
# Load: what the counters say after a load phase

`self.tx_results` is shared by every batch coroutine of every iteration.  Each
response segment adds a fixed amount (`Load.Outcome`), so whatever the event
loop interleaves, the counters after a run are the sum of what every response
counted (`Counted`).

In `stress_test_blocktime.py` and `stress_test_20k_tps.py` each post adds one
to exactly one counter: after any run in which every signature returns,
`sent + failed` is the number of transactions signed, and `sent` the number of
posts whose body passes `'result' in result`.  In `stress_test_blocktime_fixed.py`
a rejected body that is not an object but contains `"error"` is counted twice.
-/

namespace SeiStressTest.Load

/-! ## What one response counts -/

namespace TxResults

@[simp] theorem sum_sent (l : List TxResults) : l.sum.sent = (l.map sent).sum := by
  induction l with
  | nil => rfl
  | cons r l ih => simp [ih]

@[simp] theorem sum_failed (l : List TxResults) : l.sum.failed = (l.map failed).sum := by
  induction l with
  | nil => rfl
  | cons r l ih => simp [ih]

end TxResults

theorem countOutcome_sent (o : PostOutcome) : (countOutcome o 0).sent = o.isSent.toNat := by
  rw [countOutcome_zero]
  cases o.isSent <;> rfl

theorem countOutcome_failed (o : PostOutcome) : (countOutcome o 0).failed = (!o.isSent).toNat := by
  rw [countOutcome_zero]
  cases o.isSent <;> rfl

theorem PostOutcome.isSent_eq_false_of_isDoubleCounted {o : PostOutcome}
    (h : o.isDoubleCounted = true) : o.isSent = false := by
  cases o with
  | body j =>
    simp only [PostOutcome.isDoubleCounted, Bool.and_eq_true, beq_iff_eq] at h
    simp [PostOutcome.isSent, h.1.1]
  | _ => rfl

theorem countOutcomeFixed_sent (o : PostOutcome) : (countOutcomeFixed o 0).sent = o.isSent.toNat := by
  rw [countOutcomeFixed_zero]
  split
  · simp [PostOutcome.isSent_eq_false_of_isDoubleCounted ‹_›]
  · exact countOutcome_sent o

/-- The fixed body counts a double-counted response as a second failure. -/
theorem countOutcomeFixed_failed (o : PostOutcome) :
    (countOutcomeFixed o 0).failed = (!o.isSent).toNat + o.isDoubleCounted.toNat := by
  rw [countOutcomeFixed_zero]
  split
  · simp [*, PostOutcome.isSent_eq_false_of_isDoubleCounted ‹_›]
  · simp [*, countOutcome_failed]

theorem countOutcome_of_isSent {o : PostOutcome} (h : o.isSent = true) :
    countOutcome o 0 = ⟨1, 0⟩ := by
  simp [countOutcome_zero, h]

theorem countOutcomeFixed_of_isSent {o : PostOutcome} (h : o.isSent = true) :
    countOutcomeFixed o 0 = ⟨1, 0⟩ := by
  have hd : o.isDoubleCounted = false := by
    cases hd : o.isDoubleCounted
    · rfl
    · simp [PostOutcome.isSent_eq_false_of_isDoubleCounted hd] at h
  simp [countOutcomeFixed_zero, hd, countOutcome_of_isSent h]

/-! ## What one iteration counts -/

section Iteration

variable {accounts : List Account} {k : ℕ}

/-- The sum of `w` over the posts of an iteration, `batchSize` for each of its
`k` slots. -/
def overPosts (w : PostOutcome → ℕ) (d : Draw accounts k) (batchSize : ℕ) : ℕ :=
  ((List.range k).map fun j => ((List.range batchSize).map fun t => w (d.outcome j t)).sum).sum

/-- How many posts of an iteration resolve to an outcome satisfying `p`. -/
def postsWhere (p : PostOutcome → Bool) (d : Draw accounts k) (batchSize : ℕ) : ℕ :=
  overPosts (fun o => (p o).toNat) d batchSize

theorem overPosts_add (w v : PostOutcome → ℕ) (d : Draw accounts k) (batchSize : ℕ) :
    overPosts (fun o => w o + v o) d batchSize = overPosts w d batchSize + overPosts v d batchSize := by
  simp [overPosts, List.sum_map_add]

theorem overPosts_const (c : ℕ) (d : Draw accounts k) (batchSize : ℕ) :
    overPosts (fun _ => c) d batchSize = k * (batchSize * c) := by
  simp [overPosts]

/-- Every post either satisfies `p` or not. -/
theorem postsWhere_add_not (p : PostOutcome → Bool) (d : Draw accounts k) (batchSize : ℕ) :
    postsWhere p d batchSize + postsWhere (fun o => !p o) d batchSize = k * batchSize := by
  have hsplit : ∀ o, (p o).toNat + (!p o).toNat = 1 := fun o => by cases p o <;> rfl
  rw [postsWhere, postsWhere, ← overPosts_add, funext hsplit, overPosts_const, Nat.mul_one]

theorem responsesTotal_sent (count : PostOutcome → TxResults → TxResults) (d : Draw accounts k)
    (batchSize : ℕ) :
    (responsesTotal count d batchSize 0 k).sent = overPosts (fun o => (count o 0).sent) d batchSize := by
  simp [responsesTotal, overPosts, List.range_eq_range', Function.comp_def]

theorem responsesTotal_failed (count : PostOutcome → TxResults → TxResults) (d : Draw accounts k)
    (batchSize : ℕ) :
    (responsesTotal count d batchSize 0 k).failed =
      overPosts (fun o => (count o 0).failed) d batchSize := by
  simp [responsesTotal, overPosts, List.range_eq_range', Function.comp_def]

/-- An iteration whose posts all count `c` counts `k * batchSize` times `c`. -/
theorem responsesTotal_const {count : PostOutcome → TxResults → TxResults} {c : TxResults}
    {d : Draw accounts k} {batchSize : ℕ} (h : ∀ j t, count (d.outcome j t) 0 = c) :
    responsesTotal count d batchSize 0 k = ⟨k * (batchSize * c.sent), k * (batchSize * c.failed)⟩ := by
  ext
  · simp [responsesTotal_sent, overPosts, h]
  · simp [responsesTotal_failed, overPosts, h]

/-- An iteration of accepted posts counts one sent per post. -/
theorem responsesTotal_of_accepted {count : PostOutcome → TxResults → TxResults}
    (hcount : ∀ o, o.isSent = true → count o 0 = ⟨1, 0⟩) {d : Draw accounts k}
    (hacc : ∀ j t, (d.outcome j t).isSent = true) (batchSize : ℕ) :
    responsesTotal count d batchSize 0 k = ⟨k * batchSize, 0⟩ := by
  rw [responsesTotal_const fun j t => hcount _ (hacc j t)]
  simp

/-- The sibling body counts each post of an iteration once, as sent exactly
when accepted. -/
theorem responsesTotal_countOutcome (d : Draw accounts k) (batchSize : ℕ) :
    (responsesTotal countOutcome d batchSize 0 k).sent = postsWhere PostOutcome.isSent d batchSize ∧
      (responsesTotal countOutcome d batchSize 0 k).sent +
        (responsesTotal countOutcome d batchSize 0 k).failed = k * batchSize := by
  simp only [responsesTotal_sent, responsesTotal_failed, countOutcome_sent, countOutcome_failed]
  exact ⟨rfl, postsWhere_add_not _ _ _⟩

/-- The fixed body counts the double-counted posts of an iteration twice. -/
theorem responsesTotal_countOutcomeFixed (d : Draw accounts k) (batchSize : ℕ) :
    (responsesTotal countOutcomeFixed d batchSize 0 k).sent =
        postsWhere PostOutcome.isSent d batchSize ∧
      (responsesTotal countOutcomeFixed d batchSize 0 k).sent +
          (responsesTotal countOutcomeFixed d batchSize 0 k).failed =
        k * batchSize + postsWhere PostOutcome.isDoubleCounted d batchSize := by
  simp only [responsesTotal_sent, responsesTotal_failed, countOutcomeFixed_sent,
    countOutcomeFixed_failed, overPosts_add]
  refine ⟨rfl, ?_⟩
  rw [← Nat.add_assoc]
  exact congrArg (· + _) (postsWhere_add_not _ _ _)

end Iteration

/-! ## What a run counts -/

section Run

variable {accounts : List Account} {k : ℕ}

/-- The posts of the first `n` iterations whose outcome satisfies `p`. -/
def postsSoFar (p : PostOutcome → Bool) (env : ℕ → Draw accounts k) (batchSize n : ℕ) : ℕ :=
  ((List.range n).map fun i => postsWhere p (env i) batchSize).sum

/-- The counters after `s.iteration` iterations of batch size `batchSize`
counted by `count`: every iteration signed `k * batchSize` transactions, and
the counters hold the sum of what every response counted. -/
structure Counted (count : PostOutcome → TxResults → TxResults) (env : ℕ → Draw accounts k)
    (batchSize : ℕ) (s : LoadState) : Prop where
  signed_length : s.signed.length = s.iteration * (k * batchSize)
  txResults_eq : s.txResults =
    ((List.range s.iteration).map fun i => responsesTotal count (env i) batchSize 0 k).sum

variable {count : PostOutcome → TxResults → TxResults} {env : ℕ → Draw accounts k} {batchSize : ℕ}

theorem counted_initial (c0 : NonceCounters) : Counted count env batchSize (.initial c0) :=
  ⟨(Nat.zero_mul _).symm, rfl⟩

/-- Step lemma: an iteration that signs a full batch per slot and adds its
responses keeps the invariant. -/
theorem Counted.next {s s' : LoadState} (h : Counted count env batchSize s)
    (hit : s'.iteration = s.iteration + 1)
    (hsigned : s'.signed.length = s.signed.length + k * batchSize)
    (hres : s'.txResults = s.txResults + responsesTotal count (env s.iteration) batchSize 0 k) :
    Counted count env batchSize s' where
  signed_length := by rw [hsigned, h.signed_length, hit, Nat.succ_mul]
  txResults_eq := by
    rw [hres, h.txResults_eq, hit, List.range_succ, List.map_append, List.sum_append]
    simp

theorem Counted.sent_eq {s : LoadState} (h : Counted count env batchSize s) {p : PostOutcome → Bool}
    (hsent : ∀ d : Draw accounts k,
      (responsesTotal count d batchSize 0 k).sent = postsWhere p d batchSize) :
    s.txResults.sent = postsSoFar p env batchSize s.iteration := by
  simp [h.txResults_eq, postsSoFar, Function.comp_def, hsent]

theorem Counted.sent_add_failed {s : LoadState} (h : Counted count env batchSize s)
    (extra : Draw accounts k → ℕ)
    (htotal : ∀ d : Draw accounts k, (responsesTotal count d batchSize 0 k).sent +
      (responsesTotal count d batchSize 0 k).failed = k * batchSize + extra d) :
    s.txResults.sent + s.txResults.failed =
      s.signed.length + ((List.range s.iteration).map fun i => extra (env i)).sum := by
  rw [h.txResults_eq, TxResults.sum_sent, TxResults.sum_failed, List.map_map, List.map_map,
    ← List.sum_map_add]
  simp [Function.comp_def, htotal, List.sum_map_add, h.signed_length]

end Run

/-! ## The three load loops -/

section Loops

variable {signs : Signer} (hsigns : ∀ key tx, signs key tx = true)
variable (accounts : List Account) (c0 : NonceCounters) (tpsTarget duration : ℚ) (fuel : ℕ)
include hsigns

theorem stressPass_counted {k : ℕ} {count : PostOutcome → TxResults → TxResults}
    (hcount : ∀ o, IsShift (count o)) (batchDelay : ℚ) {env : ℕ → Draw accounts k} {s : LoadState}
    (h : Counted count env (transactionsPerBatch / k) s) :
    ∃ s', stressPass signs count batchDelay (env s.iteration) s = .ok s' ∧
      Counted count env (transactionsPerBatch / k) s' :=
  ⟨_, stressPass_eq_ok hsigns hcount batchDelay _ s, h.next rfl (by simp) rfl⟩

theorem optimizedPass_counted {k : ℕ} (batchInterval : ℚ) (txsPerAccount : ℕ)
    {env : ℕ → Draw accounts k} {s : LoadState} (h : Counted countOutcome env txsPerAccount s) :
    ∃ s', optimizedPass signs batchInterval txsPerAccount (env s.iteration) s = .ok s' ∧
      Counted countOutcome env txsPerAccount s' :=
  ⟨_, optimizedPass_eq_ok hsigns batchInterval txsPerAccount _ s, h.next rfl (by simp) rfl⟩

theorem blocktime_counted (env : ℕ → Draw accounts (min 50 accounts.length)) :
    ∃ s, Blocktime.stressTestTransactions signs accounts tpsTarget duration env fuel =
        (if tpsTarget = 0 then .error s else .ok s) ∧
      Counted countOutcome env (transactionsPerBatch / min 50 accounts.length) s :=
  loadPhase_preserves _ _ (Blocktime.stressTestTransactions_eq env) (counted_initial _)
    fun _ hs _ => stressPass_counted hsigns accounts countOutcome_eq_add _ hs

theorem fixed_counted (env : ℕ → Draw accounts (min 50 accounts.length)) :
    ∃ s, Fixed.stressTestTransactions signs accounts c0 tpsTarget duration env fuel =
        (if tpsTarget = 0 then .error s else .ok s) ∧
      Counted countOutcomeFixed env (transactionsPerBatch / min 50 accounts.length) s :=
  loadPhase_preserves _ _ (Fixed.stressTestTransactions_eq env) (counted_initial _)
    fun _ hs _ => stressPass_counted hsigns accounts countOutcomeFixed_eq_add _ hs

theorem tps20k_counted (env : ℕ → Draw accounts (min 100 accounts.length)) :
    ∃ s, Tps20k.stressTestTransactionsOptimized signs accounts c0 tpsTarget duration env fuel =
        (if tpsTarget = 0 ∨ accounts = [] then .error s else .ok s) ∧
      Counted countOutcome env (transactionsPerBatchOptimized / min 100 accounts.length) s :=
  loadPhase_preserves _ _ (Tps20k.stressTestTransactionsOptimized_eq env) (counted_initial _)
    fun _ hs _ => optimizedPass_counted hsigns accounts _ _ hs

end Loops

/-- The draw of a one-account list in which every post resolves to `o` and the
`gather` takes `dispatch`. -/
def constantDraw (a : Account) (o : PostOutcome) (dispatch : ℚ) : Draw [a] 1 :=
  ⟨⟨[⟨0, Nat.zero_lt_one⟩], List.nodup_singleton _, rfl⟩, fun _ _ => a,
    fun _ _ _ => List.mem_singleton_self a, fun _ _ => o, [], dispatch⟩

/-- One iteration of the fixed loop in which the node answers every post with
the JSON string `"rate limit error"`: 1000 transactions signed, 2000 failures. -/
theorem fixed_counts_error_string_twice :
    ∃ s, Fixed.stressTestTransactions (fun _ _ => true) [⟨"0xA", "k"⟩] (fun _ => 0) 1000 1
        (fun _ => constantDraw ⟨"0xA", "k"⟩ (.body (.str "rate limit error")) 0) 1 = .ok s ∧
      s.signed.length = 1000 ∧ s.txResults = ⟨0, 2000⟩ := by
  refine ⟨?final, ?runs, ?signed, ?counted⟩
  case runs =>
    rw [Fixed.stressTestTransactions_eq, if_neg (by norm_num), loadLoop_one,
      if_pos (by norm_num [LoadState.initial]), stressPass_eq_ok (fun _ _ => rfl) countOutcomeFixed_eq_add]
    exact rfl
  case signed => simp [transactionsPerBatch, LoadState.initial]
  case counted =>
    dsimp only
    rw [responsesTotal_const (c := ⟨0, 2⟩) fun _ _ => rfl]
    rfl

end SeiStressTest.Load
