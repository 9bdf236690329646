import Mathlib.Data.List.Infix
import Mathlib.Data.List.Range
import Mathlib.Algebra.Order.Field.Rat
set_option autoImplicit false

/-!
# Python: the parts of the language the scripts' results depend on

Two groups.  First, response bodies and the operators applied to them.

Every RPC answer reaches the harness through `await response.json()`, that is
`json.loads` of the body: an object, an array, a string, a number, a boolean or
`null`.  The batch coroutines then test it with `'result' in result`, the fixed
load generator indexes it with `result['error']`, and the funding script calls
`response.get('error', ...)`.  These are Python operators whose meaning depends
on the container kind, and each raises on a value of the wrong kind.  They are
modelled as `Option`-valued functions, `none` standing for the exception.

JSON numbers are kept as integers: no operator below reads a number's value,
only that it is a number.

Second, the list operations the loops are written with: `range(0, n, step)`,
the slice `xs[i:i+size]`, and indexing `xs[i]`, negative indices included.  The
one fact proved about the first two is that walking a list in slices of
`range(0, len(xs), size)` visits every element once, in order.

Third, the arithmetic the monitors do on `perf_counter` readings: true
division and `statistics.mean`, both of which can raise.  Floats are read as
rationals there.

Last, binary64 arithmetic where a result depends on rounding: the funder
compares an exact `Decimal` balance with the float `len * 0.1 + 0.01 * len`.
A `Double` is a non-negative value `mantissa * 2 ^ exponent`; the literal, the
products and the sum are each rounded to 53 bits, to nearest with ties to even,
as IEEE 754 does.  Subnormals and overflow are not modelled: the values involved
are far inside the normal range.
-/

namespace SeiStressTest

/-- A parsed response body, as `json.loads` returns it. -/
inductive Json where
  | null
  | bool (b : Bool)
  | num (x : Int)
  | str (s : String)
  | arr (items : List Json)
  | obj (fields : List (String × Json))
  deriving Repr, Inhabited

namespace Json

/-- Python's `body == key` for a string `key`: true only for an equal JSON string. -/
def eqStr : Json → String → Bool
  | .str s, key => s == key
  | _, _ => false

/-- Python's `key in body`: key membership for a dict, element equality for a
list, substring for a str; a number, a boolean or `None` raises `TypeError`. -/
def contains (body : Json) (key : String) : Option Bool :=
  match body with
  | .obj fields => some (fields.any fun f => f.1 == key)
  | .arr items => some (items.any fun j => j.eqStr key)
  | .str s => some (decide (key.toList <:+: s.toList))
  | _ => none

/-- Python's `body[key]` for a string `key`: the last binding of a dict (a
duplicated key keeps its last value in `json.loads`); `KeyError` on a dict
without it, `TypeError` on every other kind. -/
def getItem (body : Json) (key : String) : Option Json :=
  match body with
  | .obj fields => (fields.reverse.find? fun f => f.1 == key).map (·.2)
  | _ => none

/-- Python's `body.get(key, default)`: only a dict has the method. -/
def get (body : Json) (key : String) (default : Json) : Option Json :=
  match body with
  | .obj fields => some (((fields.reverse.find? fun f => f.1 == key).map (·.2)).getD default)
  | _ => none

/-- The body is a JSON object. -/
def isObj : Json → Bool
  | .obj _ => true
  | _ => false

theorem contains_isSome_iff (body : Json) (key : String) :
    (body.contains key).isSome ↔
      (body.isObj ∨ (∃ items, body = .arr items) ∨ ∃ s, body = .str s) := by
  cases body <;> simp [contains, isObj]

/-- Whether `in` raises depends on the container kind only, not on the key. -/
theorem contains_isSome_iff_of_isSome {body : Json} {key : String} (key' : String)
    (h : (body.contains key).isSome) : (body.contains key').isSome := by
  cases body <;> simp_all [contains]

/-- On an object, `in` is key membership. -/
theorem contains_obj (fields : List (String × Json)) (key : String) :
    (Json.obj fields).contains key = some (fields.any fun f => f.1 == key) := rfl

/-- Indexing by a key that `in` found succeeds on an object and fails on
every other kind: the asymmetry the fixed generator trips over. -/
theorem getItem_isSome_of_contains {body : Json} {key : String}
    (h : body.contains key = some true) : (body.getItem key).isSome = body.isObj := by
  cases body with
  | obj fields =>
    simp only [contains, Option.some.injEq, List.any_eq_true] at h
    obtain ⟨f, hf, hk⟩ := h
    have hfind : ((fields.reverse.find? fun f => f.1 == key)).isSome := by
      rw [List.find?_isSome]
      exact ⟨f, List.mem_reverse.mpr hf, hk⟩
    simpa [getItem, isObj] using hfind
  | _ => simp [getItem, isObj]

end Json

/-! ## Ranges, slices and indexing -/

/-- `range(0, stop, step)`: `0, step, 2*step, ...` below `stop`. -/
def rangeStep (stop step : ℕ) : List ℕ :=
  List.range' 0 ((stop + step - 1) / step) step

/-- The slice `xs[i:i+size]`. -/
def slice {α : Type} (xs : List α) (i size : ℕ) : List α :=
  (xs.drop i).take size

/-- Slices taken at `i, i+size, ...`, `k` of them, cover `xs[i:]` as soon as
they reach the end of the list. -/
theorem flatMap_slice_range' {α : Type} (xs : List α) (size : ℕ) :
    ∀ (k i : ℕ), xs.length ≤ i + k * size →
      (List.range' i k size).flatMap (fun j => slice xs j size) = xs.drop i := by
  intro k
  induction k with
  | zero =>
    intro i h
    simp [List.drop_eq_nil_of_le (by omega : xs.length ≤ i)]
  | succ k ih =>
    intro i h
    rw [List.range'_succ, List.flatMap_cons, ih (i + size) (by rw [Nat.succ_mul] at h; omega),
      slice, ← List.drop_drop, List.take_append_drop]

/-- Walking a list slice by slice over `range(0, len(xs), size)` gives the
list back: nothing is skipped or repeated, and the order is kept. -/
theorem flatMap_slice_rangeStep {α : Type} (xs : List α) {size : ℕ} (hsize : 0 < size) :
    (rangeStep xs.length size).flatMap (fun i => slice xs i size) = xs := by
  have hcover : xs.length ≤ 0 + (xs.length + size - 1) / size * size := by
    have := Nat.div_add_mod (xs.length + size - 1) size
    have := Nat.mod_lt (xs.length + size - 1) hsize
    rw [Nat.zero_add, Nat.mul_comm]
    omega
  simpa using flatMap_slice_range' xs size _ 0 hcover

theorem slice_map {α β : Type} (f : α → β) (xs : List α) (i size : ℕ) :
    slice (xs.map f) i size = (slice xs i size).map f := by
  simp [slice]

/-- A slice of `enumerate(xs, k)` is the slice of `xs` enumerated from where
it starts. -/
theorem slice_enumFrom {α : Type} : ∀ (xs : List α) (k i size : ℕ),
    slice (xs.enumFrom k) i size = (slice xs i size).enumFrom (k + i)
  | [], _, _, _ => by simp [slice]
  | _ :: _, _, 0, 0 => by simp [slice]
  | x :: xs, k, 0, size + 1 => by
    have := slice_enumFrom xs (k + 1) 0 size
    simp only [slice, List.drop_zero, Nat.add_zero] at this ⊢
    simp [this]
  | x :: xs, k, i + 1, size => by
    have := slice_enumFrom xs (k + 1) i size
    simp only [slice, List.drop_succ_cons, List.enumFrom_cons] at this ⊢
    rw [this, Nat.add_right_comm, Nat.add_assoc]

/-- Python's `xs[i]` for an integer `i`: a negative index counts from the end;
`IndexError` (`none`) outside `[-len(xs), len(xs))`. -/
def getIndex {α : Type} (xs : List α) (i : ℤ) : Option α :=
  if i < 0 then
    if i.natAbs ≤ xs.length then xs.get? (xs.length - i.natAbs) else none
  else xs.get? i.toNat

theorem getIndex_natCast {α : Type} (xs : List α) (i : ℕ) : getIndex xs i = xs[i]? := by
  simp [getIndex, Int.not_lt.mpr (Int.natCast_nonneg i)]

theorem getIndex_of_nonneg {α : Type} (xs : List α) {i : ℤ} (h : 0 ≤ i) :
    getIndex xs i = xs[i.toNat]? := by
  simp [getIndex, Int.not_lt.mpr h]

theorem getIndex_natCast_of_lt {α : Type} {xs : List α} {i : ℕ} (h : i < xs.length) :
    getIndex xs i = some xs[i] := by
  rw [getIndex_natCast, List.getElem?_eq_getElem h]

/-- `xs[-1]` is the last element of a non-empty list. -/
theorem getIndex_neg_one {α : Type} {xs : List α} (h : xs ≠ []) :
    getIndex xs (-1) = xs[xs.length - 1]? := by
  have := List.length_pos.mpr h
  simp [getIndex, this, h]

/-- `sorted(xs)` is core's merge sort with `<=`; its result is ordered. -/
theorem pairwise_mergeSort_le {α : Type} [LinearOrder α] (xs : List α) :
    (xs.mergeSort fun a b => decide (a ≤ b)).Pairwise (· ≤ ·) := by
  have := @List.sorted_mergeSort α (fun a b => decide (a ≤ b))
    (fun _ _ _ hab hbc => by simp only [decide_eq_true_eq] at *; exact le_trans hab hbc)
    (fun a b => by simpa only [Bool.or_eq_true, decide_eq_true_eq] using le_total a b) xs
  exact this.imp fun h => by simpa using h

/-- A loop that appends `f x` for every `x` returns once every `f x` does. -/
theorem mapM_eq_some_map {α β : Type} {f : α → Option β} {g : α → β} :
    ∀ (xs : List α), (∀ x ∈ xs, f x = some (g x)) → xs.mapM f = some (xs.map g)
  | [], _ => rfl
  | x :: xs, h => by
    rw [List.mapM_cons, h x (List.mem_cons_self _ _),
      mapM_eq_some_map xs fun y hy => h y (List.mem_cons_of_mem _ hy)]
    rfl

/-! ## Division and means -/

/-- Python's `a / b`: `ZeroDivisionError` (`none`) when `b` is zero. -/
def trueDiv (a b : ℚ) : Option ℚ := if b = 0 then none else some (a / b)

theorem trueDiv_of_ne_zero (a : ℚ) {b : ℚ} (h : b ≠ 0) : trueDiv a b = some (a / b) := if_neg h

@[simp] theorem trueDiv_zero (a : ℚ) : trueDiv a 0 = none := if_pos rfl

/-- `statistics.mean(xs)`: `StatisticsError` (`none`) on an empty list. -/
def mean (xs : List ℚ) : Option ℚ := if xs = [] then none else some (xs.sum / xs.length)

theorem mean_isSome_iff (xs : List ℚ) : (mean xs).isSome ↔ xs ≠ [] := by
  by_cases h : xs = [] <;> simp [mean, h]

/-- The slice `xs[-n:]` for `n > 0`: the last `n` elements, all of them when
there are fewer. -/
def lastN {α : Type} (xs : List α) (n : ℕ) : List α := xs.drop (xs.length - n)

theorem lastN_ne_nil {α : Type} {xs : List α} {n : ℕ} (h : xs ≠ []) (hn : 0 < n) :
    lastN xs n ≠ [] := by
  have := List.length_pos.mpr h
  simp [lastN, List.drop_eq_nil_iff]
  omega

/-! ## Binary64 -/

/-- `n.bit_length()`: the number of binary digits of `n`. -/
def bitLength (n : ℕ) : ℕ := go n n
where
  /-- halve until zero; `n` halvings always suffice -/
  go : ℕ → ℕ → ℕ
  | 0, _ => 0
  | fuel + 1, n => if n = 0 then 0 else go fuel (n / 2) + 1

/-- A finite non-negative binary64 value, `mantissa * 2 ^ exponent`. -/
structure Double where
  mantissa : ℕ
  exponent : ℤ
  deriving DecidableEq, Repr

/-- The exact value of a double. -/
def Double.toRat (x : Double) : ℚ := x.mantissa * 2 ^ x.exponent

/-- `n * 2 ^ e` rounded to a 53-bit mantissa, to nearest, ties to even. -/
def roundBits (n : ℕ) (e : ℤ) : Double :=
  let s := bitLength n - 53
  let q := n / 2 ^ s
  let r := n % 2 ^ s
  ⟨if 2 * r < 2 ^ s ∨ (2 * r = 2 ^ s ∧ q % 2 = 0) then q else q + 1, e + s⟩

/-- The double nearest `a / b`, as the literal `0.1` is `ofRatio 1 10`: the
quotient is taken to at least 55 bits, with a last bit that is set when the
division was inexact, so that a tie is only rounded as one when it is one. -/
def Double.ofRatio (a b : ℕ) : Double :=
  let k := 54 + bitLength b
  roundBits (2 * (a * 2 ^ k / b) + if a * 2 ^ k % b = 0 then 0 else 1) (-(k + 1 : ℕ))

/-- `float(n)`. -/
def Double.ofNat (n : ℕ) : Double := roundBits n 0

/-- `x * y`: the exact product, rounded once. -/
def Double.mul (x y : Double) : Double :=
  roundBits (x.mantissa * y.mantissa) (x.exponent + y.exponent)

/-- `x + y`: the exact sum, aligned to the smaller exponent, rounded once. -/
def Double.add (x y : Double) : Double :=
  let e := min x.exponent y.exponent
  roundBits (x.mantissa * 2 ^ (x.exponent - e).toNat + y.mantissa * 2 ^ (y.exponent - e).toNat) e

end SeiStressTest
