/-
Labelled machines: an initial state and a step function that refuses the labels it does not
enable. Runs are lists of labels; every property of runs below follows from one of two induction
rules, `Machine.inv` (what every step keeps holds in every reachable state) and `Machine.alongInv`
(the same over runs all of whose steps meet a condition).
-/
import Mathlib.Data.List.Infix
import Mathlib.Tactic

namespace HttpSurvey.Lib

/-- An initial state and a step that is `none` on a label it does not enable. -/
structure Machine (σ α : Type) where
  init : σ
  next : σ → α → Option σ

namespace Machine

variable {σ α : Type} (M : Machine σ α)

/-- The state after the labels `as`, when each of them is enabled in its turn. -/
def exec : σ → List α → Option σ
  | s, [] => some s
  | s, a :: as => (M.next s a).bind fun s' => exec s' as

/-- A run from the initial state. -/
def run (as : List α) : Option σ := M.exec M.init as

/-- The end of some run. -/
def Reachable (s : σ) : Prop := ∃ as, M.run as = some s

/-- A label is enabled. -/
def Enabled (s : σ) (a : α) : Prop := (M.next s a).isSome

/-- No label is enabled. -/
def Stuck (s : σ) : Prop := ∀ a, M.next s a = none

/-- Every step of the run of `as` from `s` meets `G`, a condition on the state before the step
and its label. -/
def Along (G : σ → α → Prop) : σ → List α → Prop
  | _, [] => True
  | s, a :: as => G s a ∧ ∀ s', M.next s a = some s' → Along G s' as

variable {M}

@[simp] theorem exec_nil (s : σ) : M.exec s [] = some s := rfl

theorem exec_cons {s t : σ} {a : α} {as : List α} :
    M.exec s (a :: as) = some t ↔ ∃ s', M.next s a = some s' ∧ M.exec s' as = some t := by
  simp [exec, Option.bind_eq_some_iff]

theorem exec_append {s t : σ} {as bs : List α} :
    M.exec s (as ++ bs) = some t ↔ ∃ u, M.exec s as = some u ∧ M.exec u bs = some t := by
  induction as generalizing s with
  | nil => simp
  | cons a as ih =>
    rw [List.cons_append, exec_cons]
    constructor
    · rintro ⟨s', hs, h⟩
      obtain ⟨u, hu, ht⟩ := ih.1 h
      exact ⟨u, exec_cons.2 ⟨s', hs, hu⟩, ht⟩
    · rintro ⟨u, hu, ht⟩
      obtain ⟨s', hs, hu⟩ := exec_cons.1 hu
      exact ⟨s', hs, ih.2 ⟨u, hu, ht⟩⟩

theorem exec_snoc {s t : σ} {as : List α} {a : α} :
    M.exec s (as ++ [a]) = some t ↔ ∃ u, M.exec s as = some u ∧ M.next u a = some t := by
  rw [exec_append]
  simp [exec_cons]

/-- A run whose end passes a test. -/
theorem exists_run {as : List α} {p : σ → Bool} (h : (M.run as).any p = true) :
    ∃ t, M.run as = some t ∧ p t = true := by
  cases ht : M.run as with
  | none => rw [ht] at h; cases h
  | some t => exact ⟨t, rfl, by rwa [ht] at h⟩

/-! ## Runs without a condition -/

/-- What every step keeps is kept by every run. -/
theorem execInv (P : σ → Prop) (hstep : ∀ s a s', P s → M.next s a = some s' → P s') :
    ∀ (as : List α) (s t : σ), P s → M.exec s as = some t → P t
  | [], s, t, hs, h => by cases h; exact hs
  | a :: as, s, t, hs, h => by
    obtain ⟨s', hn, h⟩ := exec_cons.1 h
    exact execInv P hstep as s' t (hstep s a s' hs hn) h

/-- What holds initially and is kept by every step holds in every reachable state. -/
theorem inv (P : σ → Prop) (h0 : P M.init) (hstep : ∀ s a s', P s → M.next s a = some s' → P s')
    {s : σ} (h : M.Reachable s) : P s := by
  obtain ⟨as, h⟩ := h
  exact execInv P hstep as _ s h0 h

theorem Reachable.next {s s' : σ} {a : α} (h : M.Reachable s) (hn : M.next s a = some s') : M.Reachable s' := by
  obtain ⟨as, hs⟩ := h
  exact ⟨as ++ [a], exec_snoc.2 ⟨s, hs, hn⟩⟩

/-- A machine whose steps are, as far as `f` sees, steps of `N` or none reaches what `N` reaches. -/
theorem reachable_map {τ β : Type} {N : Machine τ β} (f : σ → τ) (h0 : f M.init = N.init)
    (hstep : ∀ s a s', M.next s a = some s' → f s' = f s ∨ ∃ b, N.next (f s) b = some (f s')) {s : σ}
    (h : M.Reachable s) : N.Reachable (f s) := by
  refine M.inv (fun s => N.Reachable (f s)) ⟨[], by rw [h0]; rfl⟩ (fun s a s' hs hn => ?_) h
  rcases hstep s a s' hn with hsame | ⟨b, hb⟩
  · rw [hsame]
    exact hs
  · exact hs.next hb

/-- Every prefix of a run is a run. -/
theorem exec_prefix {s t : σ} {as bs : List α} (h : M.exec s as = some t) (hp : bs <+: as) :
    ∃ u, M.exec s bs = some u := by
  obtain ⟨cs, rfl⟩ := hp
  obtain ⟨u, hu, -⟩ := exec_append.1 h
  exact ⟨u, hu⟩

/-- Two machines whose steps on the same labels are related, both refused or both taken, have related
runs. -/
theorem exec_rel {τ : Type} {N : Machine τ α} (R : σ → τ → Prop)
    (hstep : ∀ s t a, R s t → Option.Rel R (M.next s a) (N.next t a)) :
    ∀ (as : List α) (s : σ) (t : τ), R s t → Option.Rel R (M.exec s as) (N.exec t as) := by
  intro as
  induction as with
  | nil => exact fun s t h => .some h
  | cons a as ih =>
    intro s t h
    have hrel := hstep s t a h
    unfold exec
    generalize M.next s a = s' at hrel
    generalize N.next t a = t' at hrel
    cases hrel with
    | none => exact .none
    | some h' => exact ih _ _ h'

/-! ## What a run has done -/

/-- What holds of the empty run and is kept when a run takes one more step holds of every run. -/
theorem historyInv (P : List α → σ → Prop) (h0 : P [] M.init)
    (hstep : ∀ as s a s', M.run as = some s → P as s → M.next s a = some s' → P (as ++ [a]) s') :
    ∀ {as : List α} {s : σ}, M.run as = some s → P as s := by
  intro as
  induction as using List.reverseRecOn with
  | nil =>
    intro s h
    cases h
    exact h0
  | append_singleton as a ih =>
    intro s h
    obtain ⟨u, hu, hn⟩ := exec_snoc.1 h
    exact hstep as u a s hu (ih hu) hn

/-- The label `a` is taken in the run `as`, from the state `u`. -/
def TakenFrom (M : Machine σ α) (as : List α) (a : α) (u : σ) : Prop :=
  ∃ bs, bs ++ [a] <+: as ∧ M.run bs = some u

theorem TakenFrom.last {as : List α} {a : α} {u : σ} (h : M.run as = some u) : M.TakenFrom (as ++ [a]) a u :=
  ⟨as, List.prefix_refl _, h⟩

theorem TakenFrom.snoc {as : List α} {a : α} {u : σ} (h : M.TakenFrom as a u) (b : α) :
    M.TakenFrom (as ++ [b]) a u := by
  obtain ⟨bs, hb, hu⟩ := h
  exact ⟨bs, hb.trans (List.prefix_append _ _), hu⟩

theorem TakenFrom.reachable {as : List α} {a : α} {u : σ} (h : M.TakenFrom as a u) : M.Reachable u := by
  obtain ⟨bs, -, hu⟩ := h
  exact ⟨bs, hu⟩

/-! ## Runs whose steps meet a condition -/

theorem along_append {G : σ → α → Prop} {s : σ} {as bs : List α} :
    M.Along G s (as ++ bs) ↔ M.Along G s as ∧ ∀ u, M.exec s as = some u → M.Along G u bs := by
  induction as generalizing s with
  | nil => simp [Along]
  | cons a as ih =>
    simp only [List.cons_append, Along, exec_cons]
    constructor
    · rintro ⟨hg, h⟩
      refine ⟨⟨hg, fun s' hs' => (ih.1 (h s' hs')).1⟩, ?_⟩
      rintro u ⟨s', hs', hu⟩
      exact (ih.1 (h s' hs')).2 u hu
    · rintro ⟨⟨hg, h⟩, hb⟩
      exact ⟨hg, fun s' hs' => ih.2 ⟨h s' hs', fun u hu => hb u ⟨s', hs', hu⟩⟩⟩

/-- A condition that every step of a run meets, wherever the run is cut before it, holds along it. -/
theorem along_of_prefixes {G : σ → α → Prop} : ∀ {as : List α} {s : σ},
    (∀ bs a, bs ++ [a] <+: as → ∀ u, M.exec s bs = some u → G u a) → M.Along G s as
  | [], _, _ => trivial
  | a :: as, s, h => by
    refine ⟨h [] a ⟨as, rfl⟩ s rfl, fun s' hs' => along_of_prefixes fun bs b hb u hu => ?_⟩
    exact h (a :: bs) b ((List.prefix_cons_inj a).2 hb) u (exec_cons.2 ⟨s', hs', hu⟩)

theorem along_prefix {G : σ → α → Prop} {s : σ} {as bs : List α} (h : M.Along G s as) (hb : bs <+: as) :
    M.Along G s bs := by
  obtain ⟨cs, rfl⟩ := hb
  exact (along_append.1 h).1

/-- Whether the steps of a run meet a decidable condition is decided by running it. -/
instance decidableAlong {G : σ → α → Prop} [∀ s a, Decidable (G s a)] :
    ∀ (s : σ) (as : List α), Decidable (M.Along G s as)
  | _, [] => isTrue trivial
  | s, a :: as =>
    match h : M.next s a with
    | none => decidable_of_iff (G s a) ⟨fun hg => ⟨hg, by simp [h]⟩, And.left⟩
    | some s' =>
      have := decidableAlong (G := G) s' as
      decidable_of_iff (G s a ∧ M.Along G s' as) (by simp [Along, h])

/-- What a step keeps when it meets `G` is kept by every run whose steps all meet `G`. -/
theorem alongInv {G : σ → α → Prop} (P : σ → Prop)
    (hstep : ∀ s a s', G s a → P s → M.next s a = some s' → P s') :
    ∀ (as : List α) (s t : σ), M.Along G s as → P s → M.exec s as = some t → P t
  | [], s, t, _, hs, h => by cases h; exact hs
  | a :: as, s, t, hG, hs, h => by
    obtain ⟨s', hn, h⟩ := exec_cons.1 h
    exact alongInv P hstep as s' t (hG.2 s' hn) (hstep s a s' hG.1 hs hn) h

/-- Along a run whose steps meet `G` and keep `P`, every step meets what `G` and `P` imply of a step
that is taken. -/
theorem along_of_inv {G H : σ → α → Prop} (P : σ → Prop)
    (hstep : ∀ s a s', G s a → P s → M.next s a = some s' → P s')
    (hH : ∀ s a s', G s a → P s → M.next s a = some s' → H s a) :
    ∀ (as : List α) (s t : σ), M.exec s as = some t → M.Along G s as → P s → M.Along H s as
  | [], _, _, _, _, _ => trivial
  | a :: as, s, t, h, hG, hs => by
    obtain ⟨s', hn, h⟩ := exec_cons.1 h
    refine ⟨hH s a s' hG.1 hs hn, fun s'' hn' => ?_⟩
    rw [hn] at hn'
    cases hn'
    exact along_of_inv P hstep hH as s' t h (hG.2 s' hn) (hstep s a s' hG.1 hs hn)

end Machine

end HttpSurvey.Lib
