/-
The completion protocol of `concurrent_drogon_client`, over every interleaving of the workers and
the callbacks: `quit()` is never called before every request has been sent and accounted for, it
has been called by the time everything has come to rest, and at any `quit()` the failure counter
and the printed number of successes are exact.

`completed_requests++` and the later comparison are separate steps, so the invariant says what the
counters are in terms of the callbacks, and that a full counter always has a callback between its
increment and its comparison until somebody has quit.
-/
import HttpSurvey.Drogon.ConcurrentClient

namespace HttpSurvey.Drogon

open HttpSurvey.Lib

variable {T R : Nat} {reply : Fin T × Fin R → Reply}

/-! ## The counters and the callbacks -/

/-- The callbacks that have counted themselves as completed. -/
def counted (s : Client T R) : Nat := count (fun _ c => c.isCounted) s.callback

/-- The callbacks that have performed their update without having seen a 200. -/
def failedUpdates (reply : Fin T × Fin R → Reply) (s : Client T R) : Nat :=
  count (fun k c => c.isUpdated && !(reply k).saw200) s.callback

/-- The invariant of the completion protocol. -/
structure Inv (reply : Fin T × Fin R → Reply) (s : Client T R) : Prop where
  completed : s.completedRequests = counted s
  failed : s.failedRequests = failedUpdates reply s
  sent : Sent s
  quitting : ∀ k, s.callback k = .quitting → s.completedRequests = T * R
  quits : 0 < s.quits → s.completedRequests = T * R
  pending : s.completedRequests = T * R →
    0 < s.quits ∨ ∃ k, s.callback k = .counted ∨ s.callback k = .quitting

theorem Callback.isUpdated_of_isCounted {c : Callback} (h : c.isCounted = true) : c.isUpdated = true := by
  cases c <;> simp_all [isCounted, isUpdated]

theorem counted_le (s : Client T R) : counted s ≤ T * R := by
  have := count_le_card (fun _ c => c.isCounted) s.callback
  rwa [Fintype.card_prod, Fintype.card_fin, Fintype.card_fin] at this

/-- A full counter means that every callback has counted itself. -/
theorem counted_full {s : Client T R} (h : counted s = T * R) (k : Fin T × Fin R) :
    (s.callback k).isCounted = true := by
  have hcard : counted s = Fintype.card (Fin T × Fin R) := by
    rw [h, Fintype.card_prod, Fintype.card_fin, Fintype.card_fin]
  exact count_eq_card.1 hcard k

theorem quitTest_iff (hfit : T * R ≤ intMax) {n : Nat} :
    quitTest n R T = true ↔ n = T * R := by
  have hcast : (R : Int) * (T : Int) = ((T * R : Nat) : Int) := by push_cast; ring
  unfold quitTest
  rw [hcast, toSize_natCast (intMax_lt_sizeMod hfit), beq_iff_eq]

/-! ## Each step keeps the invariant -/

theorem inv_start (hpos : 0 < T * R) : Inv reply (start : Client T R) := by
  refine ⟨?_, ?_, sent_start, fun k h => ?_, fun h => absurd h (lt_irrefl 0), fun h => ?_⟩
  · exact (tally_eq_zero fun _ => rfl).symm
  · exact (tally_eq_zero fun _ => rfl).symm
  · cases h
  · have : (0 : Nat) = T * R := h
    omega

/-- A callback that moves to `c` moves the tally by as much as its own flag. -/
theorem counted_update {s : Client T R} {k : Fin T × Fin R} {c : Callback} {d : Nat}
    (h : c.isCounted.toNat = (s.callback k).isCounted.toNat + d) :
    count (fun _ c => c.isCounted) (Function.update s.callback k c) = counted s + d :=
  tally_update_add h

theorem failedUpdates_update {s : Client T R} {k : Fin T × Fin R} {c : Callback} {d : Nat}
    (h : (c.isUpdated && !(reply k).saw200).toNat =
      ((s.callback k).isUpdated && !(reply k).saw200).toNat + d) :
    count (fun k c => c.isUpdated && !(reply k).saw200) (Function.update s.callback k c) =
      failedUpdates reply s + d :=
  tally_update_add (w := fun k (c : Callback) => (c.isUpdated && !(reply k).saw200).toNat) h

/-- The failure counter is raised by the update of a callback that saw no 200, and by no other step. -/
theorem failed_next {s s' : Client T R} {a : Act T R} (hsent : Sent s)
    (hfailed : s.failedRequests = failedUpdates reply s) (h : next reply s a = some s') :
    s'.failedRequests = failedUpdates reply s' := by
  cases a with
  | call t =>
    obtain ⟨-, rfl⟩ := next_call h
    exact hfailed
  | send t =>
    obtain ⟨f, hi, hw, rfl⟩ := next_send h
    -- the callback of the new request has done nothing yet
    have hun := hsent.unsent hw hi
    show s.failedRequests = count _ (Function.update _ _ _)
    rw [failedUpdates_update (d := 0) (by rw [hun]; rfl)]
    exact hfailed
  | ret t =>
    obtain ⟨f, -, -, rfl⟩ := next_ret h
    exact hfailed
  | update k g =>
    obtain ⟨hc, rfl⟩ := next_update h
    have hfail : (updateCounters reply s k g).failedRequests =
        s.failedRequests + (!(reply k).saw200).toNat := by
      unfold updateCounters
      split <;> simp_all
    show (updateCounters reply s k g).failedRequests = count _ (Function.update _ _ _)
    rw [failedUpdates_update (d := (!(reply k).saw200).toNat) (by rw [hc]; simp [Callback.isUpdated]),
      hfail, hfailed]
  | count k =>
    obtain ⟨hc, rfl⟩ := next_count h
    show s.failedRequests = count _ (Function.update _ _ _)
    rw [failedUpdates_update (d := 0) (by rw [hc]; rfl)]
    exact hfailed
  | compare k =>
    obtain ⟨hc, rfl⟩ := next_compare h
    have hupd : (if quitTest s.completedRequests R T then Callback.quitting else .done).isUpdated = true := by
      split <;> rfl
    show s.failedRequests = count _ (Function.update _ _ _)
    rw [failedUpdates_update (d := 0) (by rw [hc, hupd]; rfl)]
    exact hfailed
  | quit k =>
    obtain ⟨hc, rfl⟩ := next_quit h
    show s.failedRequests = count _ (Function.update _ _ _)
    rw [failedUpdates_update (d := 0) (by rw [hc]; rfl)]
    exact hfailed

theorem inv_call {s s' : Client T R} {t : Fin T} (hI : Inv reply s) (h : next reply s (.call t) = some s') :
    Inv reply s' := by
  have hsent := sent_next hI.sent h
  have hfailed := failed_next hI.sent hI.failed h
  obtain ⟨-, rfl⟩ := next_call h
  exact ⟨hI.completed, hfailed, hsent, hI.quitting, hI.quits, hI.pending⟩

theorem inv_send {s s' : Client T R} {t : Fin T} (hI : Inv reply s) (h : next reply s (.send t) = some s') :
    Inv reply s' := by
  have hsent := sent_next hI.sent h
  have hfailed := failed_next hI.sent hI.failed h
  obtain ⟨f, hi, hw, rfl⟩ := next_send h
  -- the callback of the new request has done nothing yet
  have hun := hI.sent.unsent hw hi
  refine ⟨?_, hfailed, hsent, fun k hk => ?_, hI.quits, fun hfull => ?_⟩
  · show s.completedRequests = count _ (Function.update _ _ _)
    rw [counted_update (d := 0) (by rw [hun]; rfl)]
    exact hI.completed
  · have hne : k ≠ (t, ⟨f.i, hi⟩) := by
      rintro rfl
      simp at hk
    simp only [Function.update_of_ne hne] at hk
    exact hI.quitting k hk
  · obtain hq | ⟨k, hk⟩ := hI.pending hfull
    · exact .inl hq
    · have hne : k ≠ (t, ⟨f.i, hi⟩) := by
        rintro rfl
        simp [hun] at hk
      exact .inr ⟨k, by simpa only [Function.update_of_ne hne] using hk⟩

theorem inv_ret {s s' : Client T R} {t : Fin T} (hI : Inv reply s) (h : next reply s (.ret t) = some s') :
    Inv reply s' := by
  have hsent := sent_next hI.sent h
  have hfailed := failed_next hI.sent hI.failed h
  obtain ⟨f, -, -, rfl⟩ := next_ret h
  exact ⟨hI.completed, hfailed, hsent, hI.quitting, hI.quits, hI.pending⟩

theorem inv_update {s s' : Client T R} {k : Fin T × Fin R} {g : Nat} (hI : Inv reply s)
    (h : next reply s (.update k g) = some s') : Inv reply s' := by
  have hsent := sent_next hI.sent h
  have hfailed := failed_next hI.sent hI.failed h
  obtain ⟨hc, rfl⟩ := next_update h
  -- the update touches the bytes or the failures, never the completed requests
  have hkeep : (updateCounters reply s k g).completedRequests = s.completedRequests ∧
      (updateCounters reply s k g).quits = s.quits := by
    unfold updateCounters
    split <;> exact ⟨rfl, rfl⟩
  obtain ⟨hcomp, hquits⟩ := hkeep
  have hother : ∀ k', k' ≠ k → Function.update s.callback k .updated k' = s.callback k' :=
    fun k' hk' => Function.update_of_ne hk' _ _
  refine ⟨?_, hfailed, hsent, fun k' hk' => ?_, fun hq => ?_, fun hfull => ?_⟩
  · show (updateCounters reply s k g).completedRequests = count _ (Function.update _ _ _)
    rw [counted_update (d := 0) (by rw [hc]; rfl), hcomp]
    exact hI.completed
  · show (updateCounters reply s k g).completedRequests = T * R
    by_cases hne : k' = k
    · subst hne
      simp at hk'
    · rw [hcomp]
      exact hI.quitting k' (by rw [← hother k' hne]; exact hk')
  · show (updateCounters reply s k g).completedRequests = T * R
    rw [hcomp]
    exact hI.quits (by rw [← hquits]; exact hq)
  · show 0 < (updateCounters reply s k g).quits ∨ _
    rw [hquits]
    obtain hq | ⟨k', hk'⟩ := hI.pending (by rw [← hcomp]; exact hfull)
    · exact .inl hq
    · have hne : k' ≠ k := by
        rintro rfl
        simp [hc] at hk'
      exact .inr ⟨k', by simpa only [hother k' hne] using hk'⟩

theorem inv_count {s s' : Client T R} {k : Fin T × Fin R} (hI : Inv reply s)
    (h : next reply s (.count k) = some s') : Inv reply s' := by
  have hsent := sent_next hI.sent h
  have hfailed := failed_next hI.sent hI.failed h
  obtain ⟨hc, rfl⟩ := next_count h
  have hcnt : count (fun _ c => c.isCounted) (Function.update s.callback k .counted) = counted s + 1 :=
    counted_update (by rw [hc]; rfl)
  -- the callback had not counted itself, so the counter was not full
  have hlt : s.completedRequests < T * R := by
    have hle := counted_le s
    rw [hI.completed]
    rcases Nat.lt_or_ge (counted s) (T * R) with hlt | hge
    · exact hlt
    · have := counted_full (le_antisymm hle hge) k
      simp [hc, Callback.isCounted] at this
  refine ⟨?_, hfailed, hsent, fun k' hk' => ?_, fun hq => ?_, fun _ => ?_⟩
  · show s.completedRequests + 1 = count _ (Function.update _ _ _)
    rw [hcnt, hI.completed]
  · have hne : k' ≠ k := by
      rintro rfl
      simp at hk'
    simp only [Function.update_of_ne hne] at hk'
    have := hI.quitting k' hk'
    omega
  · have := hI.quits hq
    omega
  · exact .inr ⟨k, .inl (Function.update_self ..)⟩

theorem inv_compare (hfit : T * R ≤ intMax) {s s' : Client T R} {k : Fin T × Fin R} (hI : Inv reply s)
    (h : next reply s (.compare k) = some s') : Inv reply s' := by
  have hsent := sent_next hI.sent h
  have hfailed := failed_next hI.sent hI.failed h
  obtain ⟨hc, rfl⟩ := next_compare h
  have hcnt : (if quitTest s.completedRequests R T then Callback.quitting else .done).isCounted = true := by
    split <;> rfl
  refine ⟨?_, hfailed, hsent, fun k' hk' => ?_, hI.quits, fun hfull => ?_⟩
  · show s.completedRequests = count _ (Function.update _ _ _)
    rw [counted_update (d := 0) (by rw [hc, hcnt]; rfl)]
    exact hI.completed
  · show s.completedRequests = T * R
    change Function.update s.callback k _ k' = .quitting at hk'
    by_cases hk : k' = k
    · subst hk
      rw [Function.update_self] at hk'
      split at hk'
      · rename_i hq
        exact (quitTest_iff hfit).1 hq
      · cases hk'
    · rw [Function.update_of_ne hk] at hk'
      exact hI.quitting k' hk'
  · -- a full counter sends this very callback on to `quit()`
    refine .inr ⟨k, .inr ?_⟩
    show Function.update s.callback k _ k = .quitting
    rw [Function.update_self, if_pos ((quitTest_iff hfit).2 hfull)]

theorem inv_quit {s s' : Client T R} {k : Fin T × Fin R} (hI : Inv reply s)
    (h : next reply s (.quit k) = some s') : Inv reply s' := by
  have hsent := sent_next hI.sent h
  have hfailed := failed_next hI.sent hI.failed h
  obtain ⟨hc, rfl⟩ := next_quit h
  -- the counter was full when the callback compared it, and it never goes down
  have hfull := hI.quitting k hc
  refine ⟨?_, hfailed, hsent, fun _ _ => hfull, fun _ => hfull, fun _ => .inl (Nat.succ_pos _)⟩
  · show s.completedRequests = count _ (Function.update _ _ _)
    rw [counted_update (d := 0) (by rw [hc]; rfl)]
    exact hI.completed

theorem inv_next (hfit : T * R ≤ intMax) (s : Client T R) (a : Act T R) (s' : Client T R) (hI : Inv reply s)
    (h : next reply s a = some s') : Inv reply s' := by
  cases a with
  | call t => exact inv_call hI h
  | send t => exact inv_send hI h
  | ret t => exact inv_ret hI h
  | update k g => exact inv_update hI h
  | count k => exact inv_count hI h
  | compare k => exact inv_compare hfit hI h
  | quit k => exact inv_quit hI h

theorem reachable_inv (hpos : 0 < T * R) (hfit : T * R ≤ intMax) {s : Client T R}
    (h : (client reply).Reachable s) : Inv reply s :=
  Machine.inv (Inv reply) (inv_start hpos) (inv_next hfit) h

/-! ## Quitting -/

/-- The number of requests that end with a 200. -/
def successes (reply : Fin T × Fin R → Reply) : Nat := (Finset.univ.filter fun k => (reply k).saw200).card

/-- Every request has been sent and its callback has performed its update; the failure counter is
the number of requests without a 200, and the successes printed are the others. -/
structure Accounted (reply : Fin T × Fin R → Reply) (s : Client T R) : Prop where
  updated : ∀ k, (s.callback k).isUpdated = true
  failed : s.failedRequests = (Finset.univ.filter fun k => (reply k).saw200 = false).card
  noUnderflow : s.failedRequests ≤ T * R
  successful : reportedSuccessful s = successes reply

theorem successes_add (reply : Fin T × Fin R → Reply) :
    successes reply + (Finset.univ.filter fun k => (reply k).saw200 = false).card = T * R := by
  have := Finset.card_filter_add_card_filter_not (s := Finset.univ) (fun k => (reply k).saw200 = true)
  simpa [successes, Fintype.card_prod] using this

/-- A full counter means that everything is accounted for. -/
theorem accounted_of_full (hfit : T * R ≤ intMax) {s : Client T R} (hI : Inv reply s)
    (hfull : s.completedRequests = T * R) : Accounted reply s := by
  have hupd : ∀ k, (s.callback k).isUpdated = true := fun k =>
    Callback.isUpdated_of_isCounted (counted_full (hI.completed ▸ hfull) k)
  have hfailed : s.failedRequests = (Finset.univ.filter fun k => (reply k).saw200 = false).card := by
    rw [hI.failed, Finset.card_filter]
    refine Finset.sum_congr rfl fun k _ => ?_
    simp only [hupd k, Bool.true_and]
    cases (reply k).saw200 <;> rfl
  have hsum := successes_add reply
  refine ⟨hupd, hfailed, by omega, ?_⟩
  have hcast : (R : Int) * (T : Int) = ((T * R : Nat) : Int) := by push_cast; ring
  have hlt := intMax_lt_sizeMod hfit
  unfold reportedSuccessful
  rw [hcast, toSize_natCast hlt, subSize_eq hlt (by omega)]
  omega

/-- At rest every callback has counted itself. -/
theorem full_of_quiescent {s : Client T R} (hI : Inv reply s) (hq : Quiescent s) :
    s.completedRequests = T * R := by
  have hall : ∀ k, (s.callback k).isCounted = true := by
    rintro ⟨t, i⟩
    have hsent : s.callback (t, i) ≠ .unsent := (hI.sent t i).2 (by rw [hq.1 t]; exact i.isLt)
    obtain hu | hd := hq.2 (t, i)
    · exact absurd hu hsent
    · rw [hd]; rfl
  have hcard := count_eq_card (p := fun (_ : Fin T × Fin R) (c : Callback) => c.isCounted) |>.2 hall
  rw [hI.completed]
  rw [Fintype.card_prod, Fintype.card_fin, Fintype.card_fin] at hcard
  exact hcard

/-- The completion protocol, with at least one thread and one request per thread and a product
that fits in an `int`: in every state of every run, a callback that is about to call `quit()`, and
every state after a `quit()`, finds all requests sent and accounted for, with the failure counter
and the printed successes exact; and once all workers have returned and no callback is
outstanding or half-executed, `quit()` has been called. -/
theorem completion_protocol (reply : Fin T × Fin R → Reply) (hT : 1 ≤ T) (hR : 1 ≤ R)
    (hfit : T * R ≤ intMax) (s : Client T R) (h : (client reply).Reachable s) :
    (∀ k, (client reply).Enabled s (.quit k) → Accounted reply s) ∧
    (0 < s.quits → Accounted reply s) ∧
    (Quiescent s → 0 < s.quits) := by
  have hI := reachable_inv (Nat.mul_pos hT hR) hfit h
  refine ⟨fun k hk => ?_, fun hq => accounted_of_full hfit hI (hI.quits hq), fun hq => ?_⟩
  · obtain ⟨s', hs'⟩ := Option.isSome_iff_exists.1 hk
    have hstep : next reply s (.quit k) = some s' := hs'
    exact accounted_of_full hfit hI (hI.quitting k (next_quit hstep).1)
  · obtain hq' | ⟨k, hk⟩ := hI.pending (full_of_quiescent hI hq)
    · exact hq'
    · -- a callback that is still to compare or to quit is not at rest
      obtain hu | hd := hq.2 k
      · rcases hk with hk | hk <;> rw [hk] at hu <;> cases hu
      · rcases hk with hk | hk <;> rw [hk] at hd <;> cases hd

/-- One thread with one request: its run to rest has quit, with the one success reported. -/
theorem completion_protocol_single : ∃ s : Client 1 1,
    (client fun _ => ⟨true, some 200⟩).run [.call 0, .send 0, .ret 0, .update (0, 0) 0, .count (0, 0),
      .compare (0, 0), .quit (0, 0)] = some s ∧ 0 < s.quits ∧ reportedSuccessful s = 1 := by
  obtain ⟨s, hs⟩ := Option.isSome_iff_exists.1
    (by decide : ((client fun _ => ⟨true, some 200⟩).run [.call (0 : Fin 1), .send 0, .ret 0,
      .update ((0 : Fin 1), (0 : Fin 1)) 0, .count (0, 0), .compare (0, 0), .quit (0, 0)]).isSome)
  have hprot := completion_protocol _ (by decide) (by decide) (by decide) s ⟨_, hs⟩
  have hquits : 0 < s.quits := by
    cases hs
    decide
  exact ⟨s, hs, hquits, (hprot.2.1 hquits).successful.trans (by decide)⟩

end HttpSurvey.Drogon
