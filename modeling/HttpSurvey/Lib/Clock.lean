/-
Readings of a clock that never goes back, and how much of the time between two readings can have been
measured by windows in between.

A program that reads the clock is one in `EStateM`, with the number of the readings taken so far as its
state: an exception keeps that number. Windows that follow one another have at most the length of the
interval around them (`Sequential.sum_le`), also when each length is truncated to a unit
(`Sequential.sum_tdiv_le`). For windows of several processes, a `Watch` holds which windows are open and
what has been charged for those that were closed; as long as no two windows of a set of processes are
open at a time, the charges of the set are at most the time that has passed (`Within`).
-/
import Mathlib.Algebra.BigOperators.Group.Finset.Basic
import Mathlib.Algebra.BigOperators.Group.List.Basic
import Mathlib.Algebra.Order.BigOperators.Group.Finset
import Mathlib.Tactic

namespace HttpSurvey.Lib

/-! ## Reading the clock -/

/-- The next reading of the clock. -/
def now {ε : Type} (clock : Nat → Int) : EStateM ε Nat Int := fun n => .ok (clock n) (n + 1)

/-- An operation that reads no clock. -/
def perform {ε α : Type} : Except ε α → EStateM ε Nat α
  | .ok a => fun n => .ok a n
  | .error e => fun n => .error e n

/-- A handler that goes on with `b`: the number of readings is kept. -/
theorem tryCatch_run {ε α β : Type} (x : EStateM ε Nat α) (f : α → β) (b : β) (n : Nat) :
    (tryCatch (x >>= fun a => pure (f a)) fun _ => pure b : EStateM ε Nat β) n =
      match x n with
      | .ok a n' => .ok (f a) n'
      | .error _ n' => .ok b n' := by
  simp only [tryCatch, tryCatchThe, MonadExceptOf.tryCatch, EStateM.tryCatch, bind, EStateM.bind]
  cases x n <;> rfl

/-- `duration_cast<milliseconds>` of nanoseconds, which truncates. -/
def toMilliseconds (ns : Int) : Int := ns.tdiv 1000000

theorem toMilliseconds_ne_zero {ns : Int} (h : 0 ≤ ns) : toMilliseconds ns ≠ 0 ↔ 1000000 ≤ ns := by
  unfold toMilliseconds
  rw [Int.tdiv_eq_ediv_of_nonneg h]
  omega

/-! ## Windows in sequence -/

/-- The windows follow one another between `a` and `b`. -/
def Sequential : Int → List (Int × Int) → Int → Prop
  | a, [], b => a ≤ b
  | a, w :: ws, b => a ≤ w.1 ∧ w.1 ≤ w.2 ∧ Sequential w.2 ws b

/-- What is in sequence after a later time is in sequence. -/
theorem Sequential.mono_left {ws : List (Int × Int)} {a a' b : Int} (h : Sequential a' ws b) (ha : a ≤ a') :
    Sequential a ws b := by
  cases ws with
  | nil => exact le_trans ha h
  | cons w ws => exact ⟨le_trans ha h.1, h.2⟩

/-- Windows in sequence have at most the length of the interval. -/
theorem Sequential.sum_le : ∀ {ws : List (Int × Int)} {a b : Int}, Sequential a ws b →
    (ws.map fun w => w.2 - w.1).sum ≤ b - a
  | [], a, b, h => by
    change (0 : Int) ≤ b - a
    have hle : a ≤ b := h
    omega
  | w :: ws, a, b, h => by
    have hrest := Sequential.sum_le h.2.2
    have hfirst := h.1
    rw [List.map_cons, List.sum_cons]
    omega

theorem Sequential.mem_le : ∀ {ws : List (Int × Int)} {a b : Int}, Sequential a ws b → ∀ w ∈ ws, w.1 ≤ w.2
  | _ :: _, _, _, h, w, hw => by
    rcases List.mem_cons.1 hw with rfl | hw
    · exact h.2.1
    · exact Sequential.mem_le h.2.2 w hw

/-- The lengths in whole units are at most the lengths. -/
theorem mul_sum_tdiv_le (unit : Int) : ∀ {ws : List (Int × Int)}, (∀ w ∈ ws, w.1 ≤ w.2) →
    unit * (ws.map fun w => (w.2 - w.1).tdiv unit).sum ≤ (ws.map fun w => w.2 - w.1).sum
  | [], _ => by simp
  | w :: ws, h => by
    have hw := h w List.mem_cons_self
    have hwindow : unit * (w.2 - w.1).tdiv unit ≤ w.2 - w.1 := Int.mul_tdiv_self_le (by omega)
    have hrest := mul_sum_tdiv_le unit fun w' hw' => h w' (List.mem_cons_of_mem w hw')
    rw [List.map_cons, List.sum_cons, List.map_cons, List.sum_cons, mul_add]
    omega

/-- Windows in sequence, each truncated to whole units, have at most the length of the interval
truncated to whole units. -/
theorem Sequential.sum_tdiv_le {unit : Int} (hunit : 0 < unit) {ws : List (Int × Int)} {a b : Int}
    (h : Sequential a ws b) : (ws.map fun w => (w.2 - w.1).tdiv unit).sum ≤ (b - a).tdiv unit := by
  apply Int.le_tdiv_of_mul_le hunit
  have htrunc := mul_sum_tdiv_le unit h.mem_le
  have hsum := h.sum_le
  rw [mul_comm]
  omega

/-- A sum of truncated lengths is not negative. -/
theorem Sequential.sum_tdiv_nonneg {unit : Int} (hunit : 0 < unit) {ws : List (Int × Int)} {a b : Int}
    (h : Sequential a ws b) : 0 ≤ (ws.map fun w => (w.2 - w.1).tdiv unit).sum := by
  apply List.sum_nonneg
  intro d hd
  obtain ⟨w, hw, rfl⟩ := List.mem_map.1 hd
  have hle := h.mem_le w hw
  exact Int.tdiv_nonneg (by omega) hunit.le

/-! ## Windows of several processes -/

/-- The time, the start of the window that a process has open, and what has been charged for the windows
that it has closed. -/
@[ext] structure Watch (ι : Type) where
  clock : Int
  opened : ι → Option Int
  charged : ι → Int

namespace Watch

variable {ι : Type}

def tick (w : Watch ι) (time : Int) : Watch ι := { w with clock := time }

section Steps

variable [DecidableEq ι]

/-- Process `i` opens a window. -/
def start (w : Watch ι) (i : ι) : Watch ι := { w with opened := Function.update w.opened i (some w.clock) }

/-- Process `i` closes its window and is charged for it. -/
def stop (w : Watch ι) (i : ι) (charge : Int) : Watch ι :=
  { w with
    opened := Function.update w.opened i none
    charged := Function.update w.charged i (w.charged i + charge) }

variable (w : Watch ι) {i j : ι}

@[simp] theorem start_opened_self : (w.start i).opened i = some w.clock := Function.update_self ..

theorem start_opened_of_ne (h : j ≠ i) : (w.start i).opened j = w.opened j := Function.update_of_ne h ..

@[simp] theorem stop_opened_self (charge : Int) : (w.stop i charge).opened i = none := Function.update_self ..

theorem stop_opened_of_ne (charge : Int) (h : j ≠ i) : (w.stop i charge).opened j = w.opened j :=
  Function.update_of_ne h ..

@[simp] theorem stop_charged_self (charge : Int) : (w.stop i charge).charged i = w.charged i + charge :=
  Function.update_self ..

theorem stop_charged_of_ne (charge : Int) (h : j ≠ i) : (w.stop i charge).charged j = w.charged j :=
  Function.update_of_ne h ..

end Steps

/-- One window at a time is open among the processes `A`, and what they have been charged is at most the
time from `origin` to the start of that window, or to now. -/
structure Within (origin : Int) (A : Finset ι) (w : Watch ι) : Prop where
  alone : ∀ i ∈ A, ∀ j ∈ A, ∀ a b, w.opened i = some a → w.opened j = some b → i = j
  begun : ∀ i ∈ A, ∀ a, w.opened i = some a → a ≤ w.clock ∧ ∑ j ∈ A, w.charged j ≤ a - origin
  passed : ∑ j ∈ A, w.charged j ≤ w.clock - origin
  nonneg : ∀ i ∈ A, 0 ≤ w.charged i

variable {origin : Int} {A : Finset ι} {w : Watch ι} {i : ι}

theorem Within.tick (h : Within origin A w) {time : Int} (hle : w.clock ≤ time) :
    Within origin A (w.tick time) := by
  refine ⟨h.alone, fun i hi a ha => ?_, ?_, h.nonneg⟩
  · exact ⟨(h.begun i hi a ha).1.trans hle, (h.begun i hi a ha).2⟩
  · have hpassed := h.passed
    change ∑ j ∈ A, w.charged j ≤ time - origin
    omega

variable [DecidableEq ι]

/-- A process of `A` may open a window when no other has one open. -/
theorem Within.start (h : Within origin A w) (hfree : i ∈ A → ∀ j ∈ A, w.opened j = none) :
    Within origin A (w.start i) := by
  have hother : ∀ j ∈ A, ∀ a, (w.start i).opened j = some a → j ≠ i → w.opened j = some a := by
    intro j _ a ha hne
    rwa [w.start_opened_of_ne hne] at ha
  refine ⟨fun j hj k hk a b ha hb => ?_, fun j hj a ha => ?_, h.passed, h.nonneg⟩
  · by_cases hji : j = i
    · by_cases hki : k = i
      · rw [hji, hki]
      · have hopen := hother k hk b hb hki
        rw [hfree (hji ▸ hj) k hk] at hopen
        cases hopen
    · have hopen := hother j hj a ha hji
      by_cases hki : k = i
      · rw [hfree (hki ▸ hk) j hj] at hopen
        cases hopen
      · exact h.alone j hj k hk a b hopen (hother k hk b hb hki)
  · by_cases hji : j = i
    · subst hji
      rw [w.start_opened_self] at ha
      cases ha
      exact ⟨le_rfl, h.passed⟩
    · exact h.begun j hj a (hother j hj a ha hji)

/-- The window that is closed is charged with its length at most. -/
theorem Within.stop (h : Within origin A w) {a charge : Int} (hopen : w.opened i = some a)
    (hcharge : a ≤ w.clock → 0 ≤ charge ∧ charge ≤ w.clock - a) : Within origin A (w.stop i charge) := by
  have hother : ∀ j ∈ A, ∀ b, (w.stop i charge).opened j = some b → j ≠ i ∧ w.opened j = some b := by
    intro j _ b hb
    by_cases hji : j = i
    · subst hji
      rw [w.stop_opened_self] at hb
      cases hb
    · exact ⟨hji, by rwa [w.stop_opened_of_ne charge hji] at hb⟩
  by_cases hi : i ∈ A
  · have hbegun := h.begun i hi a hopen
    have hlength := hcharge hbegun.1
    have hsum : ∑ j ∈ A, (w.stop i charge).charged j = ∑ j ∈ A, w.charged j + charge := by
      rw [Watch.stop, Finset.sum_update_of_mem hi, Finset.sdiff_singleton_eq_erase,
        ← Finset.add_sum_erase A w.charged hi]
      ring
    -- the window that is closed was the only one open
    have hnone : ∀ j ∈ A, ∀ b, (w.stop i charge).opened j ≠ some b := by
      intro j hj b hb
      exact (hother j hj b hb).1 (h.alone j hj i hi b a (hother j hj b hb).2 hopen)
    refine ⟨fun j hj _ _ b _ hb => absurd hb (hnone j hj b), fun j hj b hb => absurd hb (hnone j hj b), ?_, ?_⟩
    · rw [hsum]
      change _ ≤ w.clock - origin
      omega
    · intro j hj
      have hnonneg := h.nonneg j hj
      by_cases hji : j = i
      · subst hji
        rw [w.stop_charged_self]
        omega
      · rwa [w.stop_charged_of_ne charge hji]
  · have hne : ∀ j ∈ A, j ≠ i := by
      rintro j hj rfl
      exact hi hj
    have hcharged : ∀ j ∈ A, (w.stop i charge).charged j = w.charged j :=
      fun j hj => w.stop_charged_of_ne charge (hne j hj)
    have hsum : ∑ j ∈ A, (w.stop i charge).charged j = ∑ j ∈ A, w.charged j := Finset.sum_congr rfl hcharged
    refine ⟨fun j hj k hk b c hb hc => ?_, fun j hj b hb => ?_, ?_, fun j hj => ?_⟩
    · exact h.alone j hj k hk b c (hother j hj b hb).2 (hother k hk c hc).2
    · rw [hsum]
      exact h.begun j hj b (hother j hj b hb).2
    · rw [hsum]
      exact h.passed
    · rw [hcharged j hj]
      exact h.nonneg j hj

end Watch

end HttpSurvey.Lib
