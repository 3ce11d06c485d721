/-
The timed `concurrent_beast_client` as a watch: a thread opens its window at `write_start` if its request
will not fail, closes it at `read_end`, and is charged for it what its `thread_stat` will be raised by. A
step of the program is a step of the watch or none, so a set of threads that open their windows one at a
time has been charged with no more than the time that has passed (`Fits`).
-/
import HttpSurvey.Beast.TimedClient
import HttpSurvey.Lib.Clock

namespace HttpSurvey.Beast.Client.Concurrent

open HttpSurvey.Lib

variable {T R : Nat} {size : UInt64} {attempt : Fin T → Fin R → Attempt} {clientStart : Int} {s s' : Timed T}
  {p p' : Program T}

/-! ## Threads that have not been started -/

/-- While `main` spawns, the threads it has not come to are not started. -/
def Ahead (p : Program T) : Prop := ∀ k, p.main = .spawning k → ∀ t : Fin T, k ≤ t.val → p.worker t = .unstarted

theorem ahead_update (hp : Ahead p) {t : Fin T} (ht : p.worker t ≠ .unstarted) {w : Worker} {slots : Fin T → Stats} :
    Ahead { p with worker := Function.update p.worker t w, threadStats := slots } := by
  intro k hk t' ht'
  have hne : t' ≠ t := by
    rintro rfl
    exact ht (hp k hk t' ht')
  exact (Function.update_of_ne hne ..).trans (hp k hk t' ht')

theorem ahead_next (hp : Ahead p) {a : Act T} (h : next size attempt p a = some p') : Ahead p' := by
  cases a with
  | spawn =>
    obtain ⟨k, hk, hm, rfl⟩ := next_spawn h
    rintro _ ⟨⟩ t ht
    have hne : t ≠ ⟨k, hk⟩ := by
      rintro rfl
      simp at ht
    exact (Function.update_of_ne hne ..).trans (hp k hm t (by omega))
  | spawnFails =>
    obtain ⟨k, -, -, rfl⟩ := next_spawnFails h
    intro k' hk'
    rcases unwind_cases k with hu | hu <;> rw [hu] at hk' <;> cases hk'
  | join =>
    obtain ⟨k, -, -, -, rfl⟩ := next_join h
    exact nofun
  | sum =>
    obtain ⟨k, total, -, -, rfl⟩ := next_sum h
    exact nofun
  | leave => rcases next_leave h with ⟨k, -, -, rfl⟩ | ⟨k, -, -, rfl⟩ | ⟨k, total, -, -, rfl⟩ <;> exact nofun
  | request t =>
    obtain ⟨r, threadStat, hr, hw, rfl⟩ := next_request h
    apply ahead_update hp
    rw [hw]
    exact nofun
  | publish t =>
    obtain ⟨r, threadStat, hr, hw, rfl⟩ := next_publish h
    apply ahead_update hp
    rw [hw]
    exact nofun

theorem ahead_reachable (h : (client size attempt).Reachable p) : Ahead p :=
  (client size attempt).inv Ahead (fun _ _ _ _ => rfl) (fun _ _ _ hp hn => ahead_next hp hn) h

/-- No step takes a thread back. -/
theorem unstarted_of_next {a : Act T} (h : next size attempt p a = some p') {t : Fin T}
    (ht : p'.worker t = .unstarted) : p.worker t = .unstarted := by
  have hupdate : ∀ (t' : Fin T) (w : Worker), w ≠ .unstarted → Function.update p.worker t' w t = .unstarted →
      p.worker t = .unstarted := by
    intro t' w hw hu
    by_cases htt : t = t'
    · subst htt
      rw [Function.update_self] at hu
      exact absurd hu hw
    · rwa [Function.update_of_ne htt] at hu
  cases a with
  | spawn =>
    obtain ⟨k, hk, -, rfl⟩ := next_spawn h
    exact hupdate ⟨k, hk⟩ (.running 0 0) nofun ht
  | spawnFails =>
    obtain ⟨k, -, -, rfl⟩ := next_spawnFails h
    exact ht
  | join =>
    obtain ⟨k, -, -, -, rfl⟩ := next_join h
    exact ht
  | sum =>
    obtain ⟨k, total, hk, -, rfl⟩ := next_sum h
    exact ht
  | leave =>
    rcases next_leave h with ⟨k, -, -, hp⟩ | ⟨k, -, -, hp⟩ | ⟨k, total, -, -, hp⟩ <;>
      · rw [hp] at ht
        exact ht
  | request t' =>
    obtain ⟨r, threadStat, hr, -, rfl⟩ := next_request h
    exact hupdate t' (.running (r + 1) _) nofun ht
  | publish t' =>
    obtain ⟨r, threadStat, -, -, rfl⟩ := next_publish h
    exact hupdate t' .returned nofun ht

theorem current_eq_some {t : Fin T} {a : Attempt} (h : current attempt p t = some a) :
    ∃ r threadStat, ∃ hr : r < R, p.worker t = .running r threadStat ∧ a = attempt t ⟨r, hr⟩ := by
  unfold current at h
  split at h
  · rename_i r threadStat hw
    split at h
    · rename_i hr
      cases h
      exact ⟨r, threadStat, hr, hw, rfl⟩
    · cases h
  all_goals cases h

/-- A thread that has not been started is not inside a call. -/
def Idle (s : Timed T) : Prop := ∀ t, s.program.worker t = .unstarted → s.phase t = .idle

theorem idle_update (hs : Idle s) {t : Fin T} {a : Attempt} (ha : current attempt s.program t = some a) (x : Phase) :
    Idle { s with phase := Function.update s.phase t x } := by
  intro t' ht'
  have hne : t' ≠ t := by
    rintro rfl
    obtain ⟨r, threadStat, -, hw, -⟩ := current_eq_some ha
    rw [hw] at ht'
    cases ht'
  exact (Function.update_of_ne hne ..).trans (hs t' ht')

theorem idle_next (hs : Idle s) {e : Event T} (h : s.next size attempt e = some s') : Idle s' := by
  cases e with
  | tick time =>
    obtain ⟨-, rfl⟩ := next_tick h
    exact hs
  | writeStart t =>
    obtain ⟨a, ha, -, -, rfl⟩ := next_writeStart h
    exact idle_update hs ha _
  | readEnd t =>
    obtain ⟨a, ha, -, -, rfl⟩ := next_readEnd h
    exact idle_update hs ha _
  | finish t =>
    obtain ⟨a, p, ha, -, hp, rfl⟩ := next_finish h
    exact fun t' ht' => idle_update hs ha _ t' (unstarted_of_next hp ht')
  | act a =>
    obtain ⟨p, -, hp, rfl⟩ := next_act h
    exact fun t ht => hs t (unstarted_of_next hp ht)
  | clientEnd =>
    obtain ⟨k, total, -, -, rfl⟩ := next_clientEnd h
    exact hs

/-! ## The program as a watch -/

/-- What a thread has accumulated, in its `thread_stat` or its slot. -/
def accumulated (p : Program T) (t : Fin T) : Stats :=
  match p.worker t with
  | .unstarted => 0
  | .running _ threadStat => threadStat
  | .returned => p.threadStats t

/-- The window of a request that will not fail, while it is open. -/
def opening : Phase → Option Attempt → Option Int
  | .writing, some a => if a.fails then none else some a.writeStart
  | .writing, none | .idle, _ | .answered, _ => none

/-- What `thread_stat` is about to be raised by. -/
def pending (size : UInt64) : Phase → Option Attempt → Stats
  | .answered, some a => sendRequest size a
  | .answered, none | .idle, _ | .writing, _ => 0

def watch (size : UInt64) (attempt : Fin T → Fin R → Attempt) (s : Timed T) : Watch (Fin T) where
  clock := s.clock
  opened := fun t => opening (s.phase t) (current attempt s.program t)
  charged := fun t =>
    1000000 * (accumulated s.program t + pending size (s.phase t) (current attempt s.program t)).duration

@[simp] theorem opening_idle (c : Option Attempt) : opening .idle c = none := rfl
@[simp] theorem pending_idle (c : Option Attempt) : pending size .idle c = 0 := rfl
@[simp] theorem pending_writing (c : Option Attempt) : pending size .writing c = 0 := rfl

variable (attempt p) in
/-- A thread that another's step leaves alone. -/
theorem view_of_ne {t t' : Fin T} (h : t' ≠ t) (w : Worker) {slots : Fin T → Stats}
    (hslots : slots t' = p.threadStats t') :
    accumulated { p with worker := Function.update p.worker t w, threadStats := slots } t' = accumulated p t' ∧
      current attempt { p with worker := Function.update p.worker t w, threadStats := slots } t' =
        current attempt p t' := by
  simp only [accumulated, current, Function.update_of_ne h, hslots, and_self]

/-- The watch sees of a thread what it has accumulated and its request. -/
theorem watch_congr (h : ∀ t, accumulated p t = accumulated s.program t ∧
    (current attempt p t = current attempt s.program t ∨
      s.phase t = .idle)) : watch size attempt { s with program := p } = watch size attempt s := by
  apply Watch.ext
  · rfl
  · funext t
    obtain ⟨-, hc | hphase⟩ := h t
    · exact congrArg (opening (s.phase t)) hc
    · simp only [watch, hphase, opening_idle]
  · funext t
    obtain ⟨ha, hc | hphase⟩ := h t
    · simp only [watch, ha, hc]
    · simp only [watch, ha, hphase, pending_idle]

/-- A step that is no part of a call leaves the watch as it is. -/
theorem watch_act (hahead : Ahead s.program) (hidle : Idle s) {a : Act T}
    (hplain : isPlain s.program.main a = true) (h : next size attempt s.program a = some p) :
    watch size attempt { s with program := p } = watch size attempt s := by
  apply watch_congr
  intro t
  cases a with
  | spawn =>
    obtain ⟨k, hk, hm, rfl⟩ := next_spawn h
    by_cases htk : t = ⟨k, hk⟩
    · -- the thread that starts has accumulated nothing yet
      have hw := hahead k hm t (by rw [htk])
      refine ⟨?_, .inr (hidle t hw)⟩
      subst htk
      simp only [accumulated, Function.update_self, hw]
    · exact (view_of_ne _ _ htk _ rfl).imp_right .inl
  | spawnFails =>
    obtain ⟨k, -, -, rfl⟩ := next_spawnFails h
    exact ⟨rfl, .inl rfl⟩
  | join =>
    obtain ⟨k, -, -, -, rfl⟩ := next_join h
    exact ⟨rfl, .inl rfl⟩
  | sum =>
    obtain ⟨k, total, -, -, rfl⟩ := next_sum h
    exact ⟨rfl, .inl rfl⟩
  | leave =>
    rcases next_leave h with ⟨k, -, -, rfl⟩ | ⟨k, -, -, rfl⟩ | ⟨k, total, -, -, rfl⟩ <;> exact ⟨rfl, .inl rfl⟩
  | request t' => cases hplain
  | publish t' =>
    obtain ⟨r, threadStat, hr, hw, rfl⟩ := next_publish h
    by_cases htt : t = t'
    · subst htt
      refine ⟨?_, .inl ?_⟩
      · simp only [accumulated, Function.update_self, hw]
      · simp only [current, Function.update_self, hw, dif_neg (Nat.not_lt.2 hr)]
    · exact (view_of_ne _ _ htt _ (Function.update_of_ne htt ..)).imp_right .inl

theorem reachesReadEnd_of_not_fails {a : Attempt} (h : a.fails = false) : a.reachesReadEnd = true := by
  obtain ⟨resolve, connect, prepare, write, read, report, writeStart, readEnd⟩ := a
  unfold Attempt.fails exchange at h
  unfold Attempt.reachesReadEnd Attempt.reachesWrite
  cases resolve <;> cases connect <;> cases prepare <;> cases write <;> cases read <;> first | rfl | cases h

/-- A call that ends has no window open, and its window has been charged if it does not fail. -/
theorem lastPhase_view (size : UInt64) (a : Attempt) :
    opening (lastPhase a) (some a) = none ∧ pending size (lastPhase a) (some a) = sendRequest size a := by
  cases hf : a.fails with
  | false =>
    rw [lastPhase, if_pos (reachesReadEnd_of_not_fails hf)]
    exact ⟨rfl, rfl⟩
  | true =>
    rw [sendRequest_of_fails hf]
    unfold lastPhase
    split
    · exact ⟨rfl, sendRequest_of_fails hf⟩
    · split
      · exact ⟨by simp [opening, hf], rfl⟩
      · exact ⟨rfl, rfl⟩

/-- The end of a call leaves the watch as it is. -/
theorem watch_finish {t : Fin T} {a : Attempt} (ha : current attempt s.program t = some a)
    (hphase : s.phase t = lastPhase a) (h : next size attempt s.program (.request t) = some p) :
    watch size attempt { s with program := p, phase := Function.update s.phase t .idle } = watch size attempt s := by
  obtain ⟨r, threadStat, hr, hw, rfl⟩ := next_request h
  obtain ⟨r', threadStat', hr', hw', rfl⟩ := current_eq_some ha
  rw [hw] at hw'
  cases hw'
  obtain ⟨hopening, hpending⟩ := lastPhase_view size (attempt t ⟨r, hr⟩)
  apply Watch.ext
  · rfl
  · funext t'
    by_cases htt : t' = t
    · subst htt
      simp only [watch, Function.update_self, hphase, ha, hopening, opening_idle]
    · simp only [watch, Function.update_of_ne htt, (view_of_ne _ _ htt _ rfl).2]
  · funext t'
    by_cases htt : t' = t
    · subst htt
      simp only [watch, Function.update_self, hphase, ha, hpending, accumulated, hw, pending_idle, add_zero]
      rfl
    · obtain ⟨haccumulated, hcurrent⟩ := view_of_ne attempt s.program htt
        (.running (r + 1) (iteration size threadStat (attempt t ⟨r, hr⟩))) rfl
      simp only [watch, Function.update_of_ne htt, haccumulated, hcurrent]

/-- A thread that goes on within its call. -/
theorem watch_phase (t : Fin T) (x : Phase) :
    watch size attempt { s with phase := Function.update s.phase t x } =
      { watch size attempt s with
        opened := Function.update (watch size attempt s).opened t (opening x (current attempt s.program t))
        charged := Function.update (watch size attempt s).charged t
          (1000000 * (accumulated s.program t + pending size x (current attempt s.program t)).duration) } := by
  apply Watch.ext
  · rfl
  · funext t'
    by_cases htt : t' = t
    · subst htt
      simp only [watch, Function.update_self]
    · simp only [watch, Function.update_of_ne htt]
  · funext t'
    by_cases htt : t' = t
    · subst htt
      simp only [watch, Function.update_self]
    · simp only [watch, Function.update_of_ne htt]

/-- At `write_start` the thread opens its window if the request will not fail. -/
theorem watch_writeStart {t : Fin T} {a : Attempt} (ha : current attempt s.program t = some a)
    (hphase : s.phase t = .idle) (hclock : s.clock = a.writeStart) :
    watch size attempt { s with phase := Function.update s.phase t .writing } =
      if a.fails then watch size attempt s else (watch size attempt s).start t := by
  have hcharged : (watch size attempt s).charged t =
      1000000 * (accumulated s.program t + pending size .writing (some a)).duration := by
    simp only [watch, hphase, pending_idle, pending_writing]
  have hopened : (watch size attempt s).opened t = none := by simp only [watch, hphase, opening_idle]
  rw [watch_phase, ha, ← hcharged, Function.update_eq_self]
  cases hf : a.fails with
  | true =>
    rw [if_pos rfl, opening, if_pos hf, ← hopened, Function.update_eq_self]
  | false =>
    rw [if_neg Bool.false_ne_true, opening, if_neg (by simp [hf]), ← hclock]
    rfl

/-- At `read_end` the thread closes its window if the request does not fail, and is charged for it. -/
theorem watch_readEnd {t : Fin T} {a : Attempt} (ha : current attempt s.program t = some a)
    (hphase : s.phase t = .writing) :
    watch size attempt { s with phase := Function.update s.phase t .answered } =
      if a.fails then watch size attempt s
      else (watch size attempt s).stop t (1000000 * durationCast (a.readEnd - a.writeStart)) := by
  have hcharged : (watch size attempt s).charged t = 1000000 * (accumulated s.program t).duration := by
    simp only [watch, hphase, pending_writing, add_zero]
  have hopened : (watch size attempt s).opened t = opening .writing (some a) := by simp only [watch, hphase, ha]
  rw [watch_phase, ha]
  cases hf : a.fails with
  | true =>
    rw [opening, if_pos hf] at hopened
    rw [if_pos rfl, pending, sendRequest_of_fails hf, add_zero, ← hcharged, Function.update_eq_self, opening,
      ← hopened, Function.update_eq_self]
  | false =>
    rw [if_neg Bool.false_ne_true, pending, sendRequest_of_not_fails hf, Stats.add_duration, mul_add, ← hcharged]
    rfl

/-! ## What the threads have been charged -/

/-- A window is charged with no more than its length. -/
theorem charge_le {a : Attempt} (h : a.writeStart ≤ a.readEnd) :
    0 ≤ 1000000 * durationCast (a.readEnd - a.writeStart) ∧
      1000000 * durationCast (a.readEnd - a.writeStart) ≤ a.readEnd - a.writeStart := by
  have hlength : 0 ≤ a.readEnd - a.writeStart := by omega
  have hnonneg : 0 ≤ durationCast (a.readEnd - a.writeStart) := Int.tdiv_nonneg hlength (by norm_num)
  exact ⟨by omega, Int.mul_tdiv_self_le hlength⟩

/-- A step keeps the bound on the threads `A`, when a thread of `A` that opens a window is the only one
of them to have one open. -/
theorem within_next {A : Finset (Fin T)} (hahead : Ahead s.program) (hidle : Idle s)
    (hs : (watch size attempt s).Within clientStart A) {e : Event T}
    (halone : ∀ t ∈ A, e = .writeStart t → ∀ a ∈ current attempt s.program t, a.fails = false →
      ∀ t' ∈ A, (watch size attempt s).opened t' = none)
    (h : s.next size attempt e = some s') : (watch size attempt s').Within clientStart A := by
  cases e with
  | tick time =>
    obtain ⟨hle, rfl⟩ := next_tick h
    exact hs.tick hle
  | writeStart t =>
    obtain ⟨a, ha, hphase, hclock, rfl⟩ := next_writeStart h
    rw [watch_writeStart ha hphase hclock]
    split
    · exact hs
    · rename_i hf
      apply hs.start
      intro ht
      exact halone t ht rfl a ha (by simpa using hf)
  | readEnd t =>
    obtain ⟨a, ha, hphase, hclock, rfl⟩ := next_readEnd h
    rw [watch_readEnd ha hphase]
    split
    · exact hs
    · rename_i hf
      have hopened : (watch size attempt s).opened t = some a.writeStart := by
        simp only [watch, hphase, ha, opening, if_neg hf]
      apply hs.stop hopened
      intro hle
      change 0 ≤ _ ∧ _ ≤ s.clock - a.writeStart
      rw [hclock]
      exact charge_le (hle.trans_eq hclock)
  | finish t =>
    obtain ⟨a, p, ha, hphase, hp, rfl⟩ := next_finish h
    rw [watch_finish ha hphase hp]
    exact hs
  | act a =>
    obtain ⟨p, hplain, hp, rfl⟩ := next_act h
    rw [watch_act hahead hidle hplain hp]
    exact hs
  | clientEnd =>
    obtain ⟨k, total, -, -, rfl⟩ := next_clientEnd h
    exact hs

/-- Once `main` has reported, only time goes on. -/
theorem tick_of_reported (hp : Inv size attempt s.program) {totalStats : Stats}
    (hm : s.program.main = .reported totalStats) {e : Event T} (h : s.next size attempt e = some s') :
    ∃ time, s' = { s with clock := time } := by
  have hreturned := (hp.reported totalStats hm).1
  have hcurrent : ∀ t a, current attempt s.program t ≠ some a := by
    intro t a ha
    obtain ⟨r, threadStat, -, hw, -⟩ := current_eq_some ha
    rw [hreturned t] at hw
    cases hw
  cases e with
  | tick time => exact ⟨time, (next_tick h).2⟩
  | writeStart t =>
    obtain ⟨a, ha, -⟩ := next_writeStart h
    exact absurd ha (hcurrent t a)
  | readEnd t =>
    obtain ⟨a, ha, -⟩ := next_readEnd h
    exact absurd ha (hcurrent t a)
  | finish t =>
    obtain ⟨a, p, ha, -⟩ := next_finish h
    exact absurd ha (hcurrent t a)
  | act a =>
    obtain ⟨p, -, hp, -⟩ := next_act h
    cases a with
    | spawn | spawnFails | join | sum | leave => simp [next, hm] at hp
    | request t => simp [next, hm, hreturned t] at hp
    | publish t => simp [next, hm, hreturned t] at hp
  | clientEnd =>
    obtain ⟨k, total, -, hm', -⟩ := next_clientEnd h
    rw [hm] at hm'
    cases hm'

/-- `main` reports only after the reading of `client_end`. -/
theorem not_reported_of_act {a : Act T} (hplain : isPlain p.main a = true) (h : next size attempt p a = some p')
    (hm : ∀ totalStats, p.main ≠ .reported totalStats) (totalStats : Stats) : p'.main ≠ .reported totalStats := by
  cases a with
  | spawn =>
    obtain ⟨k, hk, -, rfl⟩ := next_spawn h
    exact nofun
  | spawnFails =>
    obtain ⟨k, -, -, rfl⟩ := next_spawnFails h
    rcases unwind_cases k with hu | hu <;> rw [hu] <;> exact nofun
  | join =>
    obtain ⟨k, -, -, -, rfl⟩ := next_join h
    exact nofun
  | sum =>
    obtain ⟨k, total, -, -, rfl⟩ := next_sum h
    exact nofun
  | leave =>
    rcases next_leave h with ⟨k, -, -, rfl⟩ | ⟨k, -, -, rfl⟩ | ⟨k, total, -, hm', rfl⟩
    · exact nofun
    · exact nofun
    · rw [hm'] at hplain
      cases hplain
  | request t => cases hplain
  | publish t =>
    obtain ⟨r, threadStat, -, -, rfl⟩ := next_publish h
    exact hm totalStats

/-- What holds of the threads `A` in a run in which they open their windows one at a time. -/
structure Fits (size : UInt64) (attempt : Fin T → Fin R → Attempt) (clientStart : Int) (A : Finset (Fin T))
    (s : Timed T) : Prop where
  reachable : (client size attempt).Reachable s.program
  idle : Idle s
  within : (watch size attempt s).Within clientStart A
  reported : ∀ totalStats, s.program.main = .reported totalStats →
    ∃ time, s.clientEnd = some time ∧ ∑ t ∈ A, (watch size attempt s).charged t ≤ time - clientStart

theorem fits_start (A : Finset (Fin T)) : Fits size attempt clientStart A (Timed.start clientStart) := by
  refine ⟨⟨[], rfl⟩, fun _ _ => rfl, ⟨nofun, nofun, ?_, fun _ _ => le_rfl⟩, nofun⟩
  change ∑ _t ∈ A, (0 : Int) ≤ clientStart - clientStart
  simp

theorem fits_next {A : Finset (Fin T)} (hs : Fits size attempt clientStart A s) {e : Event T}
    (halone : ∀ t ∈ A, e = .writeStart t → ∀ a ∈ current attempt s.program t, a.fails = false →
      ∀ t' ∈ A, (watch size attempt s).opened t' = none)
    (h : s.next size attempt e = some s') : Fits size attempt clientStart A s' := by
  have hwithin := within_next (ahead_reachable hs.reachable) hs.idle hs.within halone h
  have hreachable : (client size attempt).Reachable s'.program := by
    rcases next_program h with hsame | ⟨a, ha⟩
    · rw [hsame]
      exact hs.reachable
    · exact hs.reachable.next ha
  refine ⟨hreachable, idle_next hs.idle h, hwithin, fun totalStats hm' => ?_⟩
  by_cases hm : ∃ total, s.program.main = .reported total
  · -- the report has been made, and nobody is charged any more
    obtain ⟨total, hm⟩ := hm
    obtain ⟨time, rfl⟩ := tick_of_reported (inv_reachable hs.reachable) hm h
    exact hs.reported total hm
  · rw [not_exists] at hm
    cases e with
    | clientEnd =>
      obtain ⟨k, total, -, -, rfl⟩ := next_clientEnd h
      exact ⟨s.clock, rfl, hwithin.passed⟩
    | act a =>
      obtain ⟨p, hplain, hp, rfl⟩ := next_act h
      exact absurd hm' (not_reported_of_act hplain hp hm totalStats)
    | tick time =>
      obtain ⟨-, rfl⟩ := next_tick h
      exact absurd hm' (hm totalStats)
    | writeStart t =>
      obtain ⟨a, -, -, -, rfl⟩ := next_writeStart h
      exact absurd hm' (hm totalStats)
    | readEnd t =>
      obtain ⟨a, -, -, -, rfl⟩ := next_readEnd h
      exact absurd hm' (hm totalStats)
    | finish t =>
      obtain ⟨a, p, -, -, hp, rfl⟩ := next_finish h
      obtain ⟨r, threadStat, hr, -, rfl⟩ := next_request hp
      exact absurd hm' (hm totalStats)

end HttpSurvey.Beast.Client.Concurrent
