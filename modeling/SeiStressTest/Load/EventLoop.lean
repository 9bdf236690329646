import SeiStressTest.Load.Outcome
import Mathlib.Algebra.BigOperators.Group.List
set_option autoImplicit false

/-!
# Load: the asyncio event loop

The event loop runs one coroutine at a time, and a coroutine gives the loop up
only at an `await`.  Between two awaits it runs an atomic segment.  A coroutine
is therefore modelled as the list of segments it has left, and an execution as
a schedule: the sequence of coroutines the loop resumes.  Any schedule is
allowed, which over-approximates what asyncio's ready queue can produce.
`asyncio.gather` returns only once every coroutine has finished.

When every segment of one coroutine commutes with every segment of another,
no schedule can tell them apart from running the coroutines one after the
other (`gather_eq_serial`).  Two cases of it are used.  Each
`self.tx_results[...] += 1` is a read, an addition and a write with no `await`
between them, so it lies inside one segment.  When every segment adds a fixed
amount to the shared counters (`IsShift`), the counters after `gather` are the
initial ones plus the sum of all segments, for every schedule: no increment is
lost.  Coroutines that write disjoint parts of the state leave each part as it
would be if each ran alone.
-/

namespace SeiStressTest.Load

/-- A coroutine: the atomic segments it still has to run, one per stretch
between two awaits. -/
abbrev Coroutine (σ : Type) := List (σ → σ)

/-- The shared state and the coroutines that have not finished. -/
structure Loop (σ : Type) where
  shared : σ
  ready : List (Coroutine σ)

namespace Loop

variable {σ : Type}

/-- One turn: the loop resumes coroutine `i`, which runs up to its next await.
A finished coroutine, or an index past the end, leaves everything unchanged. -/
def turn (l : Loop σ) (i : ℕ) : Loop σ :=
  match l.ready.get? i with
  | some (seg :: rest) => ⟨seg l.shared, l.ready.set i rest⟩
  | _ => l

/-- The loop follows a schedule. -/
def run (l : Loop σ) (schedule : List ℕ) : Loop σ := schedule.foldl turn l

@[simp] theorem run_nil (l : Loop σ) : l.run [] = l := rfl

@[simp] theorem run_cons (l : Loop σ) (i : ℕ) (schedule : List ℕ) :
    l.run (i :: schedule) = (l.turn i).run schedule := rfl

end Loop

/-- Run a coroutine's remaining segments to the end. -/
def Coroutine.finish {σ : Type} (c : Coroutine σ) (x : σ) : σ := c.foldl (fun x seg => seg x) x

@[simp] theorem Coroutine.finish_singleton {σ : Type} (seg : σ → σ) (x : σ) :
    Coroutine.finish [seg] x = seg x := rfl

@[simp] theorem Coroutine.finish_append {σ : Type} (c d : Coroutine σ) (x : σ) :
    Coroutine.finish (c ++ d) x = d.finish (c.finish x) := List.foldl_append _ _ _ _

/-- `await asyncio.gather(*coros)`: the schedule runs, then whatever it left
unfinished runs to the end, since `gather` waits for every coroutine. -/
def gather {σ : Type} (coros : List (Coroutine σ)) (schedule : List ℕ) (x : σ) : σ :=
  let l := Loop.run ⟨x, coros⟩ schedule
  l.ready.foldl (fun x c => c.finish x) l.shared

/-! ## Segments that commute -/

section Commuting

variable {σ : Type}

/-- Every segment of `c` commutes with every segment of `d`. -/
def Commuting (c d : Coroutine σ) : Prop := ∀ f ∈ c, ∀ g ∈ d, Function.Commute f g

/-- The coroutines run to the end one after the other, in list order. -/
def serial (cs : List (Coroutine σ)) (x : σ) : σ := cs.foldl (fun x c => c.finish x) x

@[simp] theorem serial_nil (x : σ) : serial [] x = x := rfl

@[simp] theorem serial_cons (c : Coroutine σ) (cs : List (Coroutine σ)) (x : σ) :
    serial (c :: cs) x = serial cs (c.finish x) := rfl

/-- A segment that commutes with each segment of `c` commutes with all of `c`. -/
theorem Coroutine.finish_commute {f : σ → σ} {c : Coroutine σ} (h : ∀ g ∈ c, Function.Commute f g)
    (x : σ) : c.finish (f x) = f (c.finish x) := by
  induction c generalizing x with
  | nil => rfl
  | cons g rest ih =>
    show Coroutine.finish rest (g (f x)) = f (Coroutine.finish rest (g x))
    rw [← h g (List.mem_cons_self _ _) x, ih fun g' hg' => h g' (List.mem_cons_of_mem _ hg')]

/-- Running the first segment of the `i`-th coroutine ahead of the coroutines
before it changes nothing, since it commutes with all of their segments. -/
theorem serial_set {cs : List (Coroutine σ)} (hcs : cs.Pairwise Commuting) {i : ℕ} {seg : σ → σ}
    {rest : Coroutine σ} (h : cs.get? i = some (seg :: rest)) (x : σ) :
    serial (cs.set i rest) (seg x) = serial cs x := by
  induction cs generalizing i x with
  | nil => simp at h
  | cons c cs ih =>
    rw [List.pairwise_cons] at hcs
    cases i with
    | zero =>
      cases Option.some.inj h
      rfl
    | succ i =>
      simp only [List.get?_cons_succ] at h
      have hc : ∀ g ∈ c, Function.Commute seg g := fun g hg =>
        (hcs.1 _ (List.get?_mem h) g hg seg (List.mem_cons_self _ _)).symm
      rw [List.set_cons_succ, serial_cons, Coroutine.finish_commute hc, ih hcs.2 h, serial_cons]

theorem pairwise_commuting_set {cs : List (Coroutine σ)} (hcs : cs.Pairwise Commuting) {i : ℕ}
    {seg : σ → σ} {rest : Coroutine σ} (h : cs.get? i = some (seg :: rest)) :
    (cs.set i rest).Pairwise Commuting := by
  induction cs generalizing i with
  | nil => simp at h
  | cons c cs ih =>
    rw [List.pairwise_cons] at hcs
    cases i with
    | zero =>
      cases Option.some.inj h
      exact List.pairwise_cons.mpr
        ⟨fun d hd f hf => hcs.1 d hd f (List.mem_cons_of_mem _ hf), hcs.2⟩
    | succ i =>
      simp only [List.get?_cons_succ] at h
      refine List.pairwise_cons.mpr ⟨fun d hd => ?_, ih hcs.2 h⟩
      rcases List.mem_or_eq_of_mem_set hd with hd | rfl
      · exact hcs.1 d hd
      · exact fun f hf g hg => hcs.1 _ (List.get?_mem h) f hf g (List.mem_cons_of_mem _ hg)

/-- Step lemma: a turn keeps the coroutines commuting and does not change what
running them one after the other gives. -/
theorem Loop.turn_serial (l : Loop σ) (h : l.ready.Pairwise Commuting) (i : ℕ) :
    (l.turn i).ready.Pairwise Commuting ∧
      serial (l.turn i).ready (l.turn i).shared = serial l.ready l.shared := by
  unfold Loop.turn
  split
  · rename_i seg rest hi
    exact ⟨pairwise_commuting_set h hi, serial_set h hi l.shared⟩
  · exact ⟨h, rfl⟩

/-- Run lemma: so does a whole schedule. -/
theorem Loop.run_serial :
    ∀ (schedule : List ℕ) (l : Loop σ), l.ready.Pairwise Commuting →
      serial (l.run schedule).ready (l.run schedule).shared = serial l.ready l.shared
  | [], _, _ => rfl
  | i :: schedule, l, h => by
    obtain ⟨h', heq⟩ := l.turn_serial h i
    rw [Loop.run_cons, Loop.run_serial schedule _ h', heq]

/-- When the segments of any two of the coroutines commute, every schedule of
`gather` gives what running them one after the other gives. -/
theorem gather_eq_serial (coros : List (Coroutine σ)) (h : coros.Pairwise Commuting)
    (schedule : List ℕ) (x : σ) : gather coros schedule x = serial coros x :=
  Loop.run_serial schedule ⟨x, coros⟩ h

end Commuting

/-! ## Segments that add a fixed amount -/

section Shift

variable {σ : Type} [AddCommMonoid σ]

/-- A segment that adds the same amount to whatever state it finds. -/
def IsShift (f : σ → σ) : Prop := ∀ x, f x = x + f 0

/-- What a coroutine adds in total. -/
def Coroutine.total (c : Coroutine σ) : σ := (c.map fun seg => seg 0).sum

/-- What every unfinished coroutine still has to add. -/
def pending (cs : List (Coroutine σ)) : σ := (cs.map Coroutine.total).sum

/-- Every segment of every coroutine adds a fixed amount. -/
def AllShift (cs : List (Coroutine σ)) : Prop := ∀ c ∈ cs, ∀ seg ∈ c, IsShift seg

@[simp] theorem Coroutine.total_cons (seg : σ → σ) (rest : Coroutine σ) :
    Coroutine.total (seg :: rest) = seg 0 + Coroutine.total rest := by
  simp [Coroutine.total]

theorem isShift_add (a : σ) : IsShift (· + a) := fun x => show x + a = x + (0 + a) by rw [zero_add]

theorem IsShift.commute {f g : σ → σ} (hf : IsShift f) (hg : IsShift g) : Function.Commute f g :=
  fun x => by rw [hf (g x), hg x, hg (f x), hf x, add_right_comm]

theorem AllShift.pairwise_commuting {cs : List (Coroutine σ)} (hall : AllShift cs) :
    cs.Pairwise Commuting :=
  List.pairwise_of_forall_mem_list fun c hc d hd f hf g hg => (hall c hc f hf).commute (hall d hd g hg)

theorem Coroutine.finish_eq (c : Coroutine σ) (h : ∀ seg ∈ c, IsShift seg) (x : σ) :
    c.finish x = x + c.total := by
  induction c generalizing x with
  | nil => simp [Coroutine.finish, Coroutine.total]
  | cons seg rest ih =>
    have hrest := ih (fun s hs => h s (List.mem_cons_of_mem _ hs))
    simp only [Coroutine.finish, List.foldl_cons] at hrest ⊢
    rw [hrest, h seg (List.mem_cons_self _ _), Coroutine.total_cons, add_assoc]

theorem serial_eq_add_pending (cs : List (Coroutine σ)) (hall : AllShift cs) (x : σ) :
    serial cs x = x + pending cs := by
  induction cs generalizing x with
  | nil => simp [pending]
  | cons c cs ih =>
    rw [serial_cons, ih (fun c' hc' => hall c' (List.mem_cons_of_mem _ hc')),
      Coroutine.finish_eq c (hall c (List.mem_cons_self _ _))]
    simp [pending, add_assoc]

/-- No update is lost: whatever the interleaving, `gather` leaves the shared
state increased by exactly the sum of every segment's amount. -/
theorem gather_eq_add_pending (coros : List (Coroutine σ)) (hall : AllShift coros)
    (schedule : List ℕ) (x : σ) :
    gather coros schedule x = x + pending coros := by
  rw [gather_eq_serial _ hall.pairwise_commuting, serial_eq_add_pending _ hall]

end Shift

/-! ## Coroutines with disjoint footprints

`run_full_test` gathers the load phase, which writes only `self.tx_results`,
with a block monitor, which writes only `self.block_times`.  Each of the two
acts on its own component of the state, and then no schedule can make one see
the other: `gather` leaves each component as its coroutine alone would. -/

section Disjoint

variable {σ τ : Type}

/-- A coroutine on the first component of a pair of states. -/
def Coroutine.onFst (c : Coroutine σ) : Coroutine (σ × τ) := c.map fun seg x => (seg x.1, x.2)

/-- A coroutine on the second component of a pair of states. -/
def Coroutine.onSnd (c : Coroutine τ) : Coroutine (σ × τ) := c.map fun seg x => (x.1, seg x.2)

theorem Coroutine.finish_onFst (c : Coroutine σ) (x : σ) (y : τ) :
    (c.onFst : Coroutine (σ × τ)).finish (x, y) = (c.finish x, y) := by
  induction c generalizing x with
  | nil => rfl
  | cons seg rest ih => exact ih (seg x)

theorem Coroutine.finish_onSnd (c : Coroutine τ) (x : σ) (y : τ) :
    (c.onSnd : Coroutine (σ × τ)).finish (x, y) = (x, c.finish y) := by
  induction c generalizing y with
  | nil => rfl
  | cons seg rest ih => exact ih (seg y)

theorem commuting_onFst_onSnd (a : Coroutine σ) (b : Coroutine τ) : Commuting a.onFst b.onSnd := by
  simp only [Commuting, Coroutine.onFst, Coroutine.onSnd, List.mem_map]
  rintro _ ⟨f, -, rfl⟩ _ ⟨g, -, rfl⟩ x
  rfl

theorem serial_map_onSnd (ds : List (Coroutine τ)) (a : σ) (y : τ) :
    serial (ds.map Coroutine.onSnd) (a, y) = (a, serial ds y) := by
  induction ds generalizing y with
  | nil => rfl
  | cons d ds ih => rw [List.map_cons, serial_cons, Coroutine.finish_onSnd, ih, serial_cons]

/-- Non-interference: whatever the schedule, `gather` of two coroutines with
disjoint footprints leaves each component as that coroutine alone leaves it. -/
theorem gather_onFst_onSnd (a : Coroutine σ) (b : Coroutine τ) (schedule : List ℕ) (x : σ) (y : τ) :
    gather [a.onFst, b.onSnd] schedule (x, y) = (a.finish x, b.finish y) := by
  rw [gather_eq_serial _ (List.pairwise_pair.mpr (commuting_onFst_onSnd a b)), serial_cons, serial_cons,
    serial_nil, Coroutine.finish_onFst, Coroutine.finish_onSnd]

end Disjoint

/-! ## A task with its own state beside shared counters

The block monitor of `simple_blocktime_test.py` keeps its locals and
`self.block_times` to itself, and shares `self.request_count` and
`self.error_count` with the calls of the read load, which write nothing else.
Each of its segments updates its own part without reading the counters and adds
a fixed amount to them; each segment of a call only adds. -/

section Own

variable {σ τ : Type} [AddCommMonoid τ]

/-- A segment that updates the first component without reading the second,
and adds a fixed amount to the second. -/
def IsOwnShift (f : σ × τ → σ × τ) : Prop :=
  ∃ (g : σ → σ) (s : τ → τ), IsShift s ∧ f = fun x => (g x.1, s x.2)

theorem isOwnShift_of_mem_onSnd {d : Coroutine τ} (hd : ∀ t ∈ d, IsShift t) :
    ∀ f ∈ (d.onSnd : Coroutine (σ × τ)), IsOwnShift f := by
  intro f hf
  obtain ⟨t, ht, rfl⟩ := List.mem_map.mp hf
  exact ⟨id, t, hd t ht, rfl⟩

theorem IsOwnShift.commute_onSnd {f : σ × τ → σ × τ} (hf : IsOwnShift f) {t : τ → τ} (ht : IsShift t) :
    Function.Commute f (fun x => (x.1, t x.2)) := by
  obtain ⟨g, s, hs, rfl⟩ := hf
  exact fun x => Prod.ext rfl (hs.commute ht x.2)

theorem commuting_onSnd {c : Coroutine (σ × τ)} (hc : ∀ f ∈ c, IsOwnShift f) {d : Coroutine τ}
    (hd : ∀ t ∈ d, IsShift t) : Commuting c d.onSnd := by
  intro f hf h hh
  obtain ⟨t, ht, rfl⟩ := List.mem_map.mp hh
  exact (hc f hf).commute_onSnd (hd t ht)

/-- A task with its own state beside the counters, gathered with tasks that
only add to the counters: whatever the schedule, its own state ends as it would
alone, and every amount of every task lands in the counters. -/
theorem gather_ownShift_onSnd (c : Coroutine (σ × τ)) (hc : ∀ f ∈ c, IsOwnShift f)
    (ds : List (Coroutine τ)) (hds : AllShift ds) (schedule : List ℕ) (x : σ × τ) :
    gather (c :: ds.map Coroutine.onSnd) schedule x = ((c.finish x).1, (c.finish x).2 + pending ds) := by
  have hpair : (c :: ds.map Coroutine.onSnd).Pairwise Commuting := by
    refine List.pairwise_cons.mpr ⟨fun d' hd' => ?_, List.pairwise_map.mpr ?_⟩
    · obtain ⟨d, hd, rfl⟩ := List.mem_map.mp hd'
      exact commuting_onSnd hc (hds d hd)
    · exact List.pairwise_of_forall_mem_list fun d hd d' hd' =>
        commuting_onSnd (isOwnShift_of_mem_onSnd (hds d hd)) (hds d' hd')
  rw [gather_eq_serial _ hpair, serial_cons]
  obtain ⟨a, y⟩ := c.finish x
  rw [serial_map_onSnd, serial_eq_add_pending _ hds]

end Own

end SeiStressTest.Load
