/-
The figures that `concurrent_beast_client` makes of its durations. The threads' durations are added and
set against one interval, as in `regular_beast_client`, so the figures are bounded as there in the runs
in which the windows from `write_start` to `read_end` of the requests that do not fail are open one at a
time (`timing_bounded_of_alone`). Two threads that wait at the same time make an efficiency of 200
percent; with `T` threads it is `100 * T` percent at most (`efficiency_le_threads`).
-/
import HttpSurvey.Beast.TimedWatch

namespace HttpSurvey.Beast.Client.Concurrent

open HttpSurvey.Lib

variable {T R : Nat} {size : UInt64} {attempt : Fin T → Fin R → Attempt} {clientStart : Int} {s : Timed T}

/-! ## The report -/

theorem requestLoop_all (size : UInt64) (attempt : Fin T → Fin R → Attempt) :
    Regular.requestLoop size 0 (allAttempts attempt).flatten =
      ∑ t, Regular.requestLoop size 0 (attempts attempt t) := by
  simp only [Regular.requestLoop_eq, zero_add]
  rw [List.map_flatten, List.sum_flatten, allAttempts, List.map_ofFn, List.map_ofFn, List.sum_ofFn]
  rfl

theorem duration_sum (A : Finset (Fin T)) (f : Fin T → Stats) : (∑ t ∈ A, f t).duration = ∑ t ∈ A, (f t).duration :=
  map_sum (⟨⟨Stats.duration, rfl⟩, Stats.add_duration⟩ : Stats →+ Int) f A

theorem pending_none (x : Phase) : pending size x none = 0 := by
  cases x <;> rfl

/-- A thread that has returned has been charged for all its requests. -/
theorem charged_of_returned (hp : Inv size attempt s.program) {t : Fin T} (ht : s.program.worker t = .returned) :
    (watch size attempt s).charged t = 1000000 * (Regular.requestLoop size 0 (attempts attempt t)).duration := by
  simp only [watch, accumulated, current, ht, pending_none, add_zero, hp.returned t ht]

/-- The total of the threads `A` when `main` has reported. -/
theorem Fits.duration_le {A : Finset (Fin T)} (hs : Fits size attempt clientStart A s) {summary : Summary}
    (h : s.summary clientStart = some summary) :
    0 ≤ ∑ t ∈ A, (Regular.requestLoop size 0 (attempts attempt t)).duration ∧
      ∑ t ∈ A, (Regular.requestLoop size 0 (attempts attempt t)).duration ≤ summary.totalTime := by
  obtain ⟨totalStats, clientEnd, hm, hend, rfl⟩ := summary_eq_some h
  have hinv := inv_reachable hs.reachable
  obtain ⟨time, htime, hle⟩ := hs.reported totalStats hm
  rw [hend] at htime
  cases htime
  have hcharged : ∀ t, (watch size attempt s).charged t =
      1000000 * (Regular.requestLoop size 0 (attempts attempt t)).duration :=
    fun t => charged_of_returned hinv ((hinv.reported totalStats hm).1 t)
  constructor
  · apply Finset.sum_nonneg
    intro t ht
    have hnonneg := hs.within.nonneg t ht
    rw [hcharged t] at hnonneg
    omega
  · apply Int.le_tdiv_of_mul_le (by norm_num)
    rw [Finset.sum_mul]
    simp only [hcharged, mul_comm (1000000 : Int)] at hle
    exact hle

/-- The total is that of the sequential loop over the attempts of all threads. -/
theorem summary_totalStats (hp : Inv size attempt s.program) {summary : Summary}
    (h : s.summary clientStart = some summary) :
    summary.totalStats = Regular.requestLoop size 0 (allAttempts attempt).flatten := by
  obtain ⟨totalStats, clientEnd, hm, -, rfl⟩ := summary_eq_some h
  exact (hp.reported totalStats hm).2

/-- Where all threads have opened their windows one at a time, the figures are bounded. -/
theorem Fits.timingBounded (hs : Fits size attempt clientStart Finset.univ s) {summary : Summary}
    (h : s.summary clientStart = some summary) :
    summary.TimingBounded (roundtrips (allAttempts attempt).flatten) := by
  obtain ⟨hduration, hsent⟩ := requestLoop_roundtrips size (allAttempts attempt).flatten
  have htotal := summary_totalStats (inv_reachable hs.reachable) h
  obtain ⟨hnonneg, hle⟩ := hs.duration_le h
  rw [← duration_sum, ← requestLoop_all, hduration] at hnonneg hle
  rw [← htotal] at hduration hsent
  exact Summary.timingBounded_of_le hduration hsent hnonneg hle

/-- A single thread opens its windows one at a time. -/
theorem fits_single (h : (timedClient size attempt clientStart).Reachable s) (t : Fin T) :
    Fits size attempt clientStart {t} s := by
  refine Machine.inv (Fits size attempt clientStart {t}) (fits_start {t}) (fun u e u' hu hn => ?_) h
  refine fits_next hu ?_ hn
  rintro t₁ ht₁ rfl a ha hf t₂ ht₂
  have hstart : u.next size attempt (.writeStart t₁) = some u' := hn
  obtain ⟨-, -, hphase, -, -⟩ := next_writeStart hstart
  rw [Finset.mem_singleton] at ht₁ ht₂
  rw [ht₂, ← ht₁]
  simp only [watch, hphase, opening_idle]

/-- The reading of `client_end` is none before that of `client_start`. -/
theorem clientStart_le (h : (timedClient size attempt clientStart).Reachable s) {totalStats : Stats}
    (hm : s.program.main = .reported totalStats) {clientEnd : Int} (hend : s.clientEnd = some clientEnd) :
    clientStart ≤ clientEnd := by
  have hfits : Fits size attempt clientStart ∅ s := by
    refine Machine.inv (Fits size attempt clientStart ∅) (fits_start ∅) (fun u e u' hu hn => ?_) h
    exact fits_next hu (fun t ht => absurd ht (Finset.notMem_empty t)) hn
  obtain ⟨time, htime, hle⟩ := hfits.reported totalStats hm
  rw [hend] at htime
  cases htime
  rw [Finset.sum_empty] at hle
  omega

/-- With one thread the figures are bounded, as in `regular_beast_client`. -/
theorem timingBounded_one_thread {attempt : Fin 1 → Fin R → Attempt} {s : Timed 1}
    (h : (timedClient size attempt clientStart).Reachable s) {summary : Summary}
    (hsummary : s.summary clientStart = some summary) :
    summary.TimingBounded (roundtrips (allAttempts attempt).flatten) :=
  (fits_single h 0).timingBounded hsummary

/-- In every run the efficiency is between 0 and 100 percent for each thread. -/
theorem efficiency_le_threads (h : (timedClient size attempt clientStart).Reachable s) {summary : Summary}
    (hsummary : s.summary clientStart = some summary) (htime : 0 < summary.totalTime) :
    ∃ e, summary.networkEfficiency = some e ∧ 0 ≤ e ∧ e ≤ 100 * T := by
  have hinv := inv_reachable (program_reachable h)
  have hthread : ∀ t, 0 ≤ (Regular.requestLoop size 0 (attempts attempt t)).duration ∧
      (Regular.requestLoop size 0 (attempts attempt t)).duration ≤ summary.totalTime := by
    intro t
    have hle := (fits_single h t).duration_le hsummary
    rwa [Finset.sum_singleton] at hle
  have hduration : summary.totalStats.duration = ∑ t, (Regular.requestLoop size 0 (attempts attempt t)).duration := by
    rw [summary_totalStats hinv hsummary, requestLoop_all, duration_sum]
  have hnonneg : 0 ≤ summary.totalStats.duration := by
    rw [hduration]
    exact Finset.sum_nonneg fun t _ => (hthread t).1
  have hle : summary.totalStats.duration ≤ T * summary.totalTime := by
    rw [hduration]
    calc
      ∑ t, (Regular.requestLoop size 0 (attempts attempt t)).duration ≤ ∑ _t : Fin T, summary.totalTime :=
        Finset.sum_le_sum fun t _ => (hthread t).2
      _ = T * summary.totalTime := by simp
  exact Summary.efficiency_le_mul T hnonneg hle htime

/-- When a thread opens its window for a request that will not fail, no thread has such a window open. -/
def Alone (attempt : Fin T → Fin R → Attempt) (s : Timed T) : Event T → Prop
  | .writeStart t => ∀ a ∈ current attempt s.program t, a.fails = false →
      ∀ t', opening (s.phase t') (current attempt s.program t') = none
  | .tick _ | .readEnd _ | .finish _ | .act _ | .clientEnd => True

instance (s : Timed T) : ∀ e, Decidable (Alone attempt s e)
  | .writeStart _ => inferInstanceAs (Decidable (∀ a ∈ _, _ → ∀ _, _ = none))
  | .tick _ | .readEnd _ | .finish _ | .act _ | .clientEnd => isTrue trivial

/-- In every run in which the windows of the requests that do not fail are open one at a time, the
figures of the summary are bounded. -/
theorem timing_bounded_of_alone (size : UInt64) (attempt : Fin T → Fin R → Attempt) (clientStart : Int)
    (es : List (Event T)) (s : Timed T) (hrun : (timedClient size attempt clientStart).run es = some s)
    (halone : (timedClient size attempt clientStart).Along (Alone attempt) (Timed.start clientStart) es)
    (summary : Summary) (hsummary : s.summary clientStart = some summary) :
    summary.TimingBounded (roundtrips (allAttempts attempt).flatten) := by
  have hfits : Fits size attempt clientStart Finset.univ s := by
    refine Machine.alongInv (Fits size attempt clientStart Finset.univ) ?_ es _ s halone (fits_start _) hrun
    rintro u e u' hG hu hn
    refine fits_next hu ?_ hn
    rintro t - rfl a ha hf t' -
    exact hG a ha hf t'
  exact hfits.timingBounded hsummary

/-- A request that is answered, with its two readings. -/
def answeredAt (writeStart readEnd : Int) : Attempt :=
  ⟨.ok (), .ok (), .ok (), .ok (), .ok ⟨200, ""⟩, .ok (), writeStart, readEnd⟩

/-- Two threads with a request of 10 ms each, one after the other. -/
def inTurn (t : Fin 2) (_ : Fin 1) : Attempt :=
  if t.val = 0 then answeredAt 0 10000000 else answeredAt 10000000 20000000

def inTurnSchedule (t u : Fin 2) : List (Event 2) :=
  [.act .spawn, .act .spawn, .act .leave, .writeStart t, .tick 10000000, .readEnd t, .writeStart u, .finish t,
    .act (.publish t), .tick 20000000, .readEnd u, .finish u, .act (.publish u), .act .join, .act .join, .act .leave,
    .act .sum, .act .sum, .clientEnd]

theorem timing_bounded_in_turn : ∃ s, (timedClient 30720 inTurn 0).run (inTurnSchedule 0 1) = some s ∧
    s.summary 0 = some ⟨⟨61440, 20, 2⟩, 20⟩ ∧
    Summary.TimingBounded ⟨⟨61440, 20, 2⟩, 20⟩ (roundtrips (allAttempts inTurn).flatten) := by
  have hrun : ((timedClient 30720 inTurn 0).run (inTurnSchedule 0 1)).any
      (fun s => decide (s.summary 0 = some ⟨⟨61440, 20, 2⟩, 20⟩)) = true := by decide +kernel
  obtain ⟨s, hs, hp⟩ := Machine.exists_run hrun
  have hsummary := of_decide_eq_true hp
  have halone : (timedClient 30720 inTurn 0).Along (Alone inTurn) (Timed.start 0) (inTurnSchedule 0 1) := by
    decide +kernel
  exact ⟨s, hs, hsummary, timing_bounded_of_alone 30720 inTurn 0 (inTurnSchedule 0 1) s hs halone _ hsummary⟩

/-- Two threads with a request of 10 ms each, at the same time. -/
def atOnce (_ : Fin 2) (_ : Fin 1) : Attempt := answeredAt 0 10000000

def atOnceSchedule (t u : Fin 2) : List (Event 2) :=
  [.act .spawn, .act .spawn, .act .leave, .writeStart t, .writeStart u, .tick 10000000, .readEnd t, .readEnd u,
    .finish t, .finish u, .act (.publish t), .act (.publish u), .act .join, .act .join, .act .leave, .act .sum,
    .act .sum, .clientEnd]

/-- An efficiency of 200 percent, and an average of 5 ms for two requests of 10 ms. -/
theorem efficiency_over_hundred : ∃ s, (timedClient 30720 atOnce 0).run (atOnceSchedule 0 1) = some s ∧
    ∃ summary, s.summary 0 = some summary ∧ summary.networkEfficiency = some 200 ∧
      summary.averageRequestTime = some 5 ∧ (roundtrips (allAttempts atOnce).flatten).min? = some 10 ∧
      ¬summary.TimingBounded (roundtrips (allAttempts atOnce).flatten) := by
  have hrun : ((timedClient 30720 atOnce 0).run (atOnceSchedule 0 1)).any
      (fun s => decide (s.summary 0 = some ⟨⟨61440, 20, 2⟩, 10⟩)) = true := by decide +kernel
  obtain ⟨s, hs, hp⟩ := Machine.exists_run hrun
  have hefficiency : (⟨⟨61440, 20, 2⟩, 10⟩ : Summary).networkEfficiency = some 200 := by
    norm_num [Summary.networkEfficiency, quotient]
  have haverage : (⟨⟨61440, 20, 2⟩, 10⟩ : Summary).averageRequestTime = some 5 := by
    norm_num [Summary.averageRequestTime, quotient]
  refine ⟨s, hs, _, of_decide_eq_true hp, hefficiency, haverage, by decide, fun hbounded => ?_⟩
  obtain ⟨⟨e, he, -, hle⟩, -⟩ := hbounded (by decide) (by decide)
  rw [hefficiency] at he
  cases he
  norm_num at hle

end HttpSurvey.Beast.Client.Concurrent
