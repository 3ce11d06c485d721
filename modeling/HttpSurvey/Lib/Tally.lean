/-
Totals over the local states of a family of processes. A counter that every process raises as it
goes is tied to the local states by one equation, "counter = tally of what each local state has
contributed"; `tally_update` says how the right-hand side moves when one process takes a step.
-/
import Mathlib.Algebra.BigOperators.Ring.Finset
import Mathlib.Algebra.Order.BigOperators.Group.Finset
import Mathlib.Data.Fintype.BigOperators
import Mathlib.Tactic

namespace HttpSurvey.Lib

variable {ι σ : Type} [Fintype ι]

/-- The sum of the contributions `w i (f i)` of the local states `f`. -/
def tally (w : ι → σ → Nat) (f : ι → σ) : Nat := ∑ i, w i (f i)

/-- The number of processes whose local state has the flag `p`. -/
def count (p : ι → σ → Bool) (f : ι → σ) : Nat := tally (fun i x => (p i x).toNat) f

theorem tally_update [DecidableEq ι] (w : ι → σ → Nat) (f : ι → σ) (i : ι) (x : σ) :
    tally w (Function.update f i x) + w i (f i) = tally w f + w i x := by
  unfold tally
  rw [← Finset.add_sum_erase _ _ (Finset.mem_univ i),
    ← Finset.add_sum_erase _ (fun j => w j (f j)) (Finset.mem_univ i), Function.update_self]
  have hrest : ∑ j ∈ Finset.univ.erase i, w j (Function.update f i x j) =
      ∑ j ∈ Finset.univ.erase i, w j (f j) :=
    Finset.sum_congr rfl fun j hj => by rw [Function.update_of_ne (Finset.ne_of_mem_erase hj)]
  omega

/-- A step that moves the contribution of process `i` up by `d` moves the tally up by `d`. -/
theorem tally_update_add [DecidableEq ι] {w : ι → σ → Nat} {f : ι → σ} {i : ι} {x : σ} {d : Nat}
    (h : w i x = w i (f i) + d) : tally w (Function.update f i x) = tally w f + d := by
  have := tally_update w f i x
  omega

/-- A step that keeps the contribution of process `i` keeps the tally. -/
theorem tally_update_same [DecidableEq ι] {w : ι → σ → Nat} {f : ι → σ} {i : ι} {x : σ}
    (h : w i x = w i (f i)) : tally w (Function.update f i x) = tally w f :=
  tally_update_add (d := 0) h

theorem tally_eq_zero {w : ι → σ → Nat} {f : ι → σ} (h : ∀ i, w i (f i) = 0) : tally w f = 0 :=
  Finset.sum_eq_zero fun i _ => h i

theorem count_le_card (p : ι → σ → Bool) (f : ι → σ) : count p f ≤ Fintype.card ι := by
  calc count p f ≤ ∑ _i : ι, 1 := Finset.sum_le_sum fun i _ => Bool.toNat_le _
    _ = Fintype.card ι := by simp

/-- All processes have the flag exactly when their number is that of the processes. -/
theorem count_eq_card {p : ι → σ → Bool} {f : ι → σ} :
    count p f = Fintype.card ι ↔ ∀ i, p i (f i) = true := by
  have hcard : Fintype.card ι = ∑ _i : ι, 1 := by simp
  unfold count tally
  rw [hcard, Finset.sum_eq_sum_iff_of_le fun i _ => Bool.toNat_le _]
  simp

/-- Of the processes with the flag `p`, those with `q` and those without. -/
theorem count_and_add_count_not (p : ι → σ → Bool) (q : ι → Bool) (f : ι → σ) :
    count (fun i x => p i x && q i) f + count (fun i x => p i x && !q i) f = count p f := by
  unfold count tally
  rw [← Finset.sum_add_distrib]
  refine Finset.sum_congr rfl fun i _ => ?_
  change (p i (f i) && q i).toNat + (p i (f i) && !q i).toNat = (p i (f i)).toNat
  cases p i (f i) <;> cases q i <;> rfl

/-! ## Totals over a list -/

/-- Replacing an entry of a list moves the total of its contributions. -/
theorem sum_map_set {α : Type} (w : α → Nat) : ∀ {l : List α} {k : Nat} {a : α} (b : α), l[k]? = some a →
    ((l.set k b).map w).sum + w a = (l.map w).sum + w b
  | x :: l, 0, a, b, h => by
    simp only [List.getElem?_cons_zero, Option.some.injEq] at h
    subst h
    simp only [List.set_cons_zero, List.map_cons, List.sum_cons]
    omega
  | x :: l, k + 1, a, b, h => by
    have ih := sum_map_set w (l := l) (k := k) b (by simpa using h)
    simp only [List.set_cons_succ, List.map_cons, List.sum_cons]
    omega

/-- An entry that moves its contribution up by `d` moves the total up by `d`. -/
theorem sum_map_set_add {α : Type} {w : α → Nat} {l : List α} {k : Nat} {a b : α} {d : Nat}
    (h : l[k]? = some a) (hw : w b = w a + d) : ((l.set k b).map w).sum = (l.map w).sum + d := by
  have := sum_map_set w b h
  omega

end HttpSurvey.Lib
