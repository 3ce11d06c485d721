/-
Threads over a shared memory: each thread has a local state and takes atomic steps that read and
write the memory, and the machine interleaves them freely.

`those` is the set of threads whose local state passes a test. A memory cell that a thread raises at
the step at which it comes to pass the test holds, in every reachable state, the value that belongs to
the total weight of that set (`Tracks.reachable`); so a load of the cell is a look at the set.
-/
import HttpSurvey.Lib.Machine
import Mathlib.Algebra.BigOperators.Group.Finset.Basic
import Mathlib.Data.Fintype.Basic

namespace HttpSurvey.Lib

/-- The shared memory and the threads' local states. -/
structure Threads (ι μ lo : Type) where
  shared : μ
  own : ι → lo

namespace Threads

variable {ι μ lo ω : Type}

/-- The threads whose local state passes a test. -/
def those [Fintype ι] (p : ι → lo → Bool) (s : Threads ι μ lo) : Finset ι := Finset.univ.filter fun i => p i (s.own i)

@[simp] theorem mem_those [Fintype ι] {p : ι → lo → Bool} {s : Threads ι μ lo} {i : ι} :
    i ∈ those p s ↔ p i (s.own i) = true := by
  simp [those]

variable [DecidableEq ι]

/-- Thread `i` has gone on to the local state `l` and left the memory as `m`. -/
def advance (s : Threads ι μ lo) (i : ι) (m : μ) (l : lo) : Threads ι μ lo := ⟨m, Function.update s.own i l⟩

@[simp] theorem advance_shared (s : Threads ι μ lo) (i : ι) (m : μ) (l : lo) : (s.advance i m l).shared = m := rfl

@[simp] theorem advance_own_self (s : Threads ι μ lo) (i : ι) (m : μ) (l : lo) : (s.advance i m l).own i = l :=
  Function.update_self ..

theorem advance_own_of_ne (s : Threads ι μ lo) {i j : ι} (h : j ≠ i) (m : μ) (l : lo) :
    (s.advance i m l).own j = s.own j :=
  Function.update_of_ne h ..

/-- The machine of the threads that take the atomic steps `step`. -/
def interleave (step : ι → μ → lo → ω → Option (μ × lo)) (shared : μ) (own : ι → lo) :
    Machine (Threads ι μ lo) (ι × ω) where
  init := ⟨shared, own⟩
  next s a := (step a.1 s.shared (s.own a.1) a.2).map fun r => s.advance a.1 r.1 r.2

variable {step : ι → μ → lo → ω → Option (μ × lo)} {m₀ : μ} {l₀ : ι → lo}

theorem next_eq_some {s s' : Threads ι μ lo} {i : ι} {o : ω} :
    (interleave step m₀ l₀).next s (i, o) = some s' ↔
      ∃ m l, step i s.shared (s.own i) o = some (m, l) ∧ s' = s.advance i m l := by
  simp only [interleave, Option.map_eq_some_iff, Prod.exists]
  constructor
  · rintro ⟨m, l, h, rfl⟩
    exact ⟨m, l, h, rfl⟩
  · rintro ⟨m, l, h, rfl⟩
    exact ⟨m, l, h, rfl⟩

/-- What holds of the memory and of every thread initially, and is kept by the step of one thread for
itself and for the others, holds in every reachable state. -/
theorem reachable_forall (P : μ → ι → lo → Prop) (h0 : ∀ i, P m₀ i (l₀ i))
    (hself : ∀ i m l o m' l', (P m i l) → step i m l o = some (m', l') → P m' i l')
    (hother : ∀ i j m l o m' l' k, j ≠ i → P m i l → P m j k → step i m l o = some (m', l') → P m' j k)
    {s : Threads ι μ lo} (h : (interleave step m₀ l₀).Reachable s) : ∀ i, P s.shared i (s.own i) := by
  refine Machine.inv (fun s => ∀ i, P s.shared i (s.own i)) h0 ?_ h
  rintro s ⟨i, o⟩ s' hs hn j
  obtain ⟨m, l, hstep, rfl⟩ := next_eq_some.1 hn
  by_cases hj : j = i
  · subst hj
    rw [advance_own_self]
    exact hself j _ _ o m l (hs j) hstep
  · rw [advance_own_of_ne _ hj]
    exact hother i j _ _ o m l _ hj (hs i) (hs j) hstep

variable [Fintype ι]

theorem those_same {p : ι → lo → Bool} {s : Threads ι μ lo} {i : ι} {m : μ} {l : lo}
    (h : p i l = p i (s.own i)) : those p (s.advance i m l) = those p s := by
  ext j
  rw [mem_those, mem_those]
  by_cases hj : j = i
  · subst hj
    rw [advance_own_self, h]
  · rw [advance_own_of_ne _ hj]

theorem those_insert {p : ι → lo → Bool} {s : Threads ι μ lo} {i : ι} {m : μ} {l : lo}
    (h : p i l = true) : those p (s.advance i m l) = insert i (those p s) := by
  ext j
  rw [mem_those, Finset.mem_insert, mem_those]
  by_cases hj : j = i
  · subst hj
    rw [advance_own_self]
    exact iff_of_true h (.inl rfl)
  · rw [advance_own_of_ne _ hj]
    exact ⟨.inr, fun h => h.resolve_left hj⟩

/-- The cell `cell` is raised by the weight `w i` of a thread when it comes to pass the test `p`, and
by nothing else; `val n` is what the cell holds when the weights raised so far add up to `n`. -/
structure Tracks {β : Type} (step : ι → μ → lo → ω → Option (μ × lo)) (cell : μ → β) (p : ι → lo → Bool)
    (w : ι → Nat) (val : Nat → β) : Prop where
  same : ∀ i m l o m' l', step i m l o = some (m', l') → p i l' = p i l → cell m' = cell m
  raise : ∀ i m l o m' l', step i m l o = some (m', l') → p i l = false → p i l' = true →
    ∀ n, cell m = val n → cell m' = val (n + w i)
  stays : ∀ i m l o m' l', step i m l o = some (m', l') → p i l = true → p i l' = true

/-- A cell that tracks a test holds the total weight of the threads that pass it. -/
theorem Tracks.reachable {β : Type} {cell : μ → β} {p : ι → lo → Bool} {w : ι → Nat} {val : Nat → β}
    (h : Tracks step cell p w val) (hcell : cell m₀ = val 0) (hp : ∀ i, p i (l₀ i) = false)
    {s : Threads ι μ lo} (hs : (interleave step m₀ l₀).Reachable s) :
    cell s.shared = val (∑ i ∈ those p s, w i) := by
  refine Machine.inv (fun s => cell s.shared = val (∑ i ∈ those p s, w i)) ?_ ?_ hs
  · have hempty : those p (interleave step m₀ l₀).init = ∅ := by
      ext i
      rw [mem_those]
      simp [interleave, hp]
    rw [hempty, Finset.sum_empty]
    exact hcell
  · rintro s ⟨i, o⟩ s' hs hn
    obtain ⟨m, l, hstep, rfl⟩ := next_eq_some.1 hn
    by_cases hsame : p i l = p i (s.own i)
    · rw [those_same hsame]
      exact (h.same i _ _ o m l hstep hsame).trans hs
    · -- the thread comes to pass the test: a thread that passes it goes on passing it
      have hbefore : p i (s.own i) = false := by
        by_contra hp'
        rw [Bool.not_eq_false] at hp'
        exact hsame ((h.stays i _ _ o m l hstep hp').trans hp'.symm)
      have hafter : p i l = true := by
        rw [hbefore] at hsame
        exact Bool.eq_true_of_not_eq_false hsame
      have hnew : i ∉ those p s := by
        rw [mem_those, hbefore]
        exact Bool.false_ne_true
      rw [those_insert hafter, Finset.sum_insert hnew, Nat.add_comm]
      exact h.raise i _ _ o m l hstep hbefore hafter _ hs

/-- A thread that passes a tracked test goes on passing it. -/
theorem Tracks.mono {β : Type} {cell : μ → β} {p : ι → lo → Bool} {w : ι → Nat} {val : Nat → β}
    (h : Tracks step cell p w val) {s s' : Threads ι μ lo} {a : ι × ω}
    (hn : (interleave step m₀ l₀).next s a = some s') : those p s ⊆ those p s' := by
  obtain ⟨i, o⟩ := a
  obtain ⟨m, l, hstep, rfl⟩ := next_eq_some.1 hn
  intro j hj
  rw [mem_those] at hj ⊢
  by_cases hji : j = i
  · subst hji
    rw [advance_own_self]
    exact h.stays j _ _ o m l hstep hj
  · rwa [advance_own_of_ne _ hji]

end Threads

end HttpSurvey.Lib
