/-
`concurrent_beast_client` against `regular_beast_client`: over every interleaving of the threads and
every pattern of failures, the total that `main` reports is what the sequential loop computes over the
concatenation, in thread order, of the threads' attempts.

The simulation follows the threads: the local `thread_stat` of a thread is the total of the sequential
loop over the attempts it has made, its slot is that total for all of them, and the sum of the first
slots is the total for the concatenation of the first threads' attempts.
-/
import HttpSurvey.Beast.ConcurrentClient

namespace HttpSurvey.Beast.Client.Concurrent

open HttpSurvey.Lib

variable {T R : Nat} {size : UInt64} {attempt : Fin T → Fin R → Attempt} {s s' : Program T}

/-! ## The sequential loop over prefixes -/

/-- The attempts of a thread, in order. -/
def attempts (attempt : Fin T → Fin R → Attempt) (t : Fin T) : List Attempt := List.ofFn (attempt t)

/-- The attempts of all threads, in thread order. -/
def allAttempts (attempt : Fin T → Fin R → Attempt) : List (List Attempt) := List.ofFn (attempts attempt)

/-- One more attempt of a thread is one more iteration of the sequential loop. -/
theorem requestLoop_take_succ (t : Fin T) {r : Nat} (hr : r < R) :
    Regular.requestLoop size 0 ((attempts attempt t).take (r + 1)) =
      iteration size (Regular.requestLoop size 0 ((attempts attempt t).take r)) (attempt t ⟨r, hr⟩) := by
  have hlen : r < (attempts attempt t).length := by
    rw [attempts, List.length_ofFn]
    exact hr
  have hget : (attempts attempt t)[r] = attempt t ⟨r, hr⟩ := by simp [attempts]
  rw [← List.take_append_getElem hlen, hget]
  unfold Regular.requestLoop
  rw [List.foldl_append, List.foldl_cons, List.foldl_nil, Regular.iteration_eq]
  rfl

theorem attempts_take_all (t : Fin T) {r : Nat} (hr : R ≤ r) : (attempts attempt t).take r = attempts attempt t :=
  List.take_of_length_le (by rw [attempts, List.length_ofFn]; exact hr)

/-- One more slot is the sequential loop over one more thread's attempts. -/
theorem requestLoop_flatten_succ {t : Nat} (ht : t < T) :
    Regular.requestLoop size 0 ((allAttempts attempt).take (t + 1)).flatten =
      Regular.requestLoop size 0 ((allAttempts attempt).take t).flatten +
        Regular.requestLoop size 0 (attempts attempt ⟨t, ht⟩) := by
  have hlen : t < (allAttempts attempt).length := by
    rw [allAttempts, List.length_ofFn]
    exact ht
  have hget : (allAttempts attempt)[t] = attempts attempt ⟨t, ht⟩ := by simp [allAttempts]
  rw [← List.take_append_getElem hlen, hget, List.flatten_append, List.flatten_singleton]
  simp only [Regular.requestLoop_eq, List.map_append, List.sum_append, zero_add]

/-! ## The simulation -/

/-- What the threads, their slots and `main` hold in terms of the sequential loop. -/
structure Inv (size : UInt64) (attempt : Fin T → Fin R → Attempt) (s : Program T) : Prop where
  running : ∀ t r threadStat, s.worker t = .running r threadStat →
    threadStat = Regular.requestLoop size 0 ((attempts attempt t).take r)
  returned : ∀ t, s.worker t = .returned → s.threadStats t = Regular.requestLoop size 0 (attempts attempt t)
  joining : ∀ k, s.main = .joining k → ∀ t : Fin T, t.val < k → s.worker t = .returned
  summing : ∀ k totalStats, s.main = .summing k totalStats → (∀ t, s.worker t = .returned) ∧
    totalStats = Regular.requestLoop size 0 ((allAttempts attempt).take k).flatten
  reported : ∀ totalStats, s.main = .reported totalStats → (∀ t, s.worker t = .returned) ∧
    totalStats = Regular.requestLoop size 0 (allAttempts attempt).flatten

theorem inv_start : Inv size attempt (start : Program T) :=
  ⟨nofun, nofun, nofun, nofun, nofun⟩

/-- A step of `main` alone has to establish what `main`'s new place says. -/
theorem Inv.moveMain (hs : Inv size attempt s) {m : Main}
    (hj : ∀ k, m = .joining k → ∀ t : Fin T, t.val < k → s.worker t = .returned)
    (hsum : ∀ k totalStats, m = .summing k totalStats → (∀ t, s.worker t = .returned) ∧
      totalStats = Regular.requestLoop size 0 ((allAttempts attempt).take k).flatten)
    (hrep : ∀ totalStats, m = .reported totalStats → (∀ t, s.worker t = .returned) ∧
      totalStats = Regular.requestLoop size 0 (allAttempts attempt).flatten) :
    Inv size attempt { s with main := m } :=
  ⟨hs.running, hs.returned, hj, hsum, hrep⟩

theorem unwind_cases (t : Nat) : unwind t = .caught ∨ unwind t = .terminated := by
  unfold unwind
  split
  · exact .inl rfl
  · exact .inr rfl

/-- The threads and slots after thread `t` has moved to `w`, with the other slots as they were. -/
theorem Inv.update (hs : Inv size attempt s) {t : Fin T} {w : Worker} {slots : Fin T → Stats}
    (hrun : ∀ r threadStat, w = .running r threadStat →
      threadStat = Regular.requestLoop size 0 ((attempts attempt t).take r))
    (hret : w = .returned → slots t = Regular.requestLoop size 0 (attempts attempt t))
    (hslots : ∀ t', t' ≠ t → slots t' = s.threadStats t') :
    (∀ t' r threadStat, Function.update s.worker t w t' = .running r threadStat →
      threadStat = Regular.requestLoop size 0 ((attempts attempt t').take r)) ∧
    ∀ t', Function.update s.worker t w t' = .returned →
      slots t' = Regular.requestLoop size 0 (attempts attempt t') := by
  constructor
  · intro t' r threadStat ht
    by_cases htt : t' = t
    · subst htt
      rw [Function.update_self] at ht
      exact hrun r threadStat ht
    · rw [Function.update_of_ne htt] at ht
      exact hs.running t' r threadStat ht
  · intro t' ht
    by_cases htt : t' = t
    · subst htt
      rw [Function.update_self] at ht
      exact hret ht
    · rw [Function.update_of_ne htt] at ht
      rw [hslots t' htt]
      exact hs.returned t' ht

/-- A step of a thread that has not returned. -/
theorem Inv.moveWorker (hs : Inv size attempt s) {t : Fin T} {w : Worker} {slots : Fin T → Stats}
    (hw : s.worker t ≠ .returned)
    (hrun : ∀ r threadStat, w = .running r threadStat →
      threadStat = Regular.requestLoop size 0 ((attempts attempt t).take r))
    (hret : w = .returned → slots t = Regular.requestLoop size 0 (attempts attempt t))
    (hslots : ∀ t', t' ≠ t → slots t' = s.threadStats t') :
    Inv size attempt { s with worker := Function.update s.worker t w, threadStats := slots } := by
  have hkeep : ∀ t', s.worker t' = .returned → Function.update s.worker t w t' = .returned := by
    intro t' ht'
    have hne : t' ≠ t := by
      rintro rfl
      exact hw ht'
    rwa [Function.update_of_ne hne]
  obtain ⟨hrunning, hreturned⟩ := hs.update hrun hret hslots
  refine ⟨hrunning, hreturned, ?_, ?_, ?_⟩
  · exact fun k hm t' ht' => hkeep t' (hs.joining k hm t' ht')
  · exact fun k total hm => ⟨fun t' => hkeep t' ((hs.summing k total hm).1 t'), (hs.summing k total hm).2⟩
  · exact fun total hm => ⟨fun t' => hkeep t' ((hs.reported total hm).1 t'), (hs.reported total hm).2⟩

theorem inv_next (hs : Inv size attempt s) {a : Act T} (h : next size attempt s a = some s') :
    Inv size attempt s' := by
  cases a with
  | spawn =>
    obtain ⟨k, hk, hm, rfl⟩ := next_spawn h
    have hrun : ∀ r threadStat, Worker.running 0 0 = .running r threadStat →
        threadStat = Regular.requestLoop size 0 ((attempts attempt ⟨k, hk⟩).take r) := by
      rintro _ _ ⟨⟩
      rfl
    obtain ⟨hrunning, hreturned⟩ := hs.update hrun nofun fun _ _ => rfl
    exact ⟨hrunning, hreturned, nofun, nofun, nofun⟩
  | spawnFails =>
    obtain ⟨k, -, -, rfl⟩ := next_spawnFails h
    rcases unwind_cases k with hu | hu <;> rw [hu] <;> exact hs.moveMain nofun nofun nofun
  | join =>
    obtain ⟨k, hk, hm, hw, rfl⟩ := next_join h
    refine hs.moveMain ?_ nofun nofun
    rintro _ ⟨⟩ t ht
    by_cases htk : t.val = k
    · subst htk
      exact hw
    · exact hs.joining k hm t (by omega)
  | sum =>
    obtain ⟨k, totalStats, hk, hm, rfl⟩ := next_sum h
    obtain ⟨hall, htotal⟩ := hs.summing k totalStats hm
    refine hs.moveMain nofun ?_ nofun
    rintro _ _ ⟨⟩
    refine ⟨hall, ?_⟩
    rw [requestLoop_flatten_succ hk, htotal, hs.returned _ (hall _)]
  | leave =>
    rcases next_leave h with ⟨k, hk, hm, rfl⟩ | ⟨k, hk, hm, rfl⟩ | ⟨k, totalStats, hk, hm, rfl⟩
    · refine hs.moveMain ?_ nofun nofun
      rintro _ ⟨⟩ t ht
      omega
    · refine hs.moveMain nofun ?_ nofun
      rintro _ _ ⟨⟩
      exact ⟨fun t => hs.joining k hm t (by omega), rfl⟩
    · refine hs.moveMain nofun nofun ?_
      rintro _ ⟨⟩
      obtain ⟨hall, htotal⟩ := hs.summing k totalStats hm
      refine ⟨hall, ?_⟩
      rw [htotal, List.take_of_length_le]
      rw [allAttempts, List.length_ofFn]
      exact hk
  | request t =>
    obtain ⟨r, threadStat, hr, hw, rfl⟩ := next_request h
    refine hs.moveWorker (by rw [hw]; exact nofun) ?_ nofun fun _ _ => rfl
    rintro _ _ ⟨⟩
    rw [requestLoop_take_succ t hr, ← hs.running t r threadStat hw]
  | publish t =>
    obtain ⟨r, threadStat, hr, hw, rfl⟩ := next_publish h
    refine hs.moveWorker (by rw [hw]; exact nofun) nofun ?_ ?_
    · -- the slot of the thread takes its `thread_stat`
      intro _
      rw [Function.update_self, hs.running t r threadStat hw, attempts_take_all t hr]
    · intro t' ht'
      exact Function.update_of_ne ht' ..

theorem inv_reachable (h : (client size attempt).Reachable s) : Inv size attempt s :=
  (client size attempt).inv (Inv size attempt) inv_start (fun _ _ _ hs hn => inv_next hs hn) h

/-! ## The report -/

theorem length_allAttempts (attempt : Fin T → Fin R → Attempt) :
    (allAttempts attempt).flatten.length = T * R := by
  rw [List.length_flatten, allAttempts, List.map_ofFn, List.sum_ofFn]
  simp [attempts]

/-- When `main` has reported, every slot is the sequential loop over its thread's attempts, the total is
the sequential loop over the attempts of all threads in thread order, and each request is counted or has
failed. -/
theorem report_refines (size : UInt64) (attempt : Fin T → Fin R → Attempt) (s : Program T)
    (h : (client size attempt).Reachable s) (totalStats : Stats) (hmain : s.main = .reported totalStats) :
    totalStats = Regular.requestLoop size 0 (allAttempts attempt).flatten ∧
    (∀ t, s.threadStats t = Regular.requestLoop size 0 (attempts attempt t)) ∧
    totalStats.requestsSent + (allAttempts attempt).flatten.countP Attempt.fails = T * R := by
  have hinv := inv_reachable h
  obtain ⟨hall, htotal⟩ := hinv.reported totalStats hmain
  refine ⟨htotal, fun t => hinv.returned t (hall t), ?_⟩
  rw [htotal, Regular.requestLoop_eq, zero_add, requestsSent_add_fails, length_allAttempts]

/-- One thread's request is answered after 5.2 ms and the other's connection is refused. -/
def oneRefused : Fin 2 → Fin 1 → Attempt
  | 0, _ => ⟨.ok (), .ok (), .ok (), .ok (), .ok ⟨200, ""⟩, .ok (), 1000000, 6200000⟩
  | 1, _ => ⟨.ok (), .error "Connection refused", .ok (), .ok (), .ok ⟨200, ""⟩, .ok (), 0, 0⟩

/-- The second thread runs before the first. -/
def oneRefusedSchedule : List (Act 2) :=
  [.spawn, .spawn, .leave, .request 1, .publish 1, .request 0, .publish 0, .join, .join, .leave, .sum, .sum, .leave]

theorem report_refines_two : ∃ s, (client 30720 oneRefused).run oneRefusedSchedule = some s ∧
    s.main = .reported ⟨30720, 5, 1⟩ ∧
    (⟨30720, 5, 1⟩ : Stats).requestsSent + (allAttempts oneRefused).flatten.countP Attempt.fails = 2 * 1 := by
  have hrun : ((client 30720 oneRefused).run oneRefusedSchedule).any
      (fun s => decide (s.main = .reported ⟨30720, 5, 1⟩)) = true := by decide +kernel
  obtain ⟨s, hs, hp⟩ := Machine.exists_run hrun
  have hmain : s.main = .reported ⟨30720, 5, 1⟩ := of_decide_eq_true hp
  exact ⟨s, hs, hmain, (report_refines 30720 oneRefused s ⟨_, hs⟩ _ hmain).2.2⟩

/-! ## `main` gets to its end -/

/-- A thread that has not been started is still ahead of `main`, which otherwise has left the loop by an
exception. -/
def Started (s : Program T) : Prop :=
  ∀ t : Fin T, s.worker t = .unstarted →
    (∃ k, s.main = .spawning k ∧ k ≤ t.val) ∨ s.main = .caught ∨ s.main = .terminated

theorem started_update (hs : Started s) {t : Fin T} {w : Worker} (hw : w ≠ .unstarted) {slots : Fin T → Stats} :
    Started { s with worker := Function.update s.worker t w, threadStats := slots } := by
  intro t' ht'
  by_cases htt : t' = t
  · subst htt
    exact absurd (by simpa using ht') hw
  · exact hs t' (by simpa [Function.update_of_ne htt] using ht')

theorem started_next (hs : Started s) {a : Act T} (h : next size attempt s a = some s') : Started s' := by
  cases a with
  | spawn =>
    obtain ⟨k, hk, hm, rfl⟩ := next_spawn h
    intro t ht
    by_cases htk : t = ⟨k, hk⟩
    · subst htk
      simp at ht
    · have hne : t.val ≠ k := fun h => htk (Fin.ext h)
      rcases hs t (by simpa [Function.update_of_ne htk] using ht) with ⟨k', hk', hle⟩ | hm' | hm'
      · rw [hm] at hk'
        cases hk'
        exact .inl ⟨k + 1, rfl, by omega⟩
      · rw [hm] at hm'
        cases hm'
      · rw [hm] at hm'
        cases hm'
  | spawnFails =>
    obtain ⟨k, -, -, rfl⟩ := next_spawnFails h
    exact fun t _ => .inr (unwind_cases k)
  | join =>
    obtain ⟨k, hk, hm, -, rfl⟩ := next_join h
    intro t ht
    have := hs t ht
    simp [hm] at this
  | sum =>
    obtain ⟨k, totalStats, hk, hm, rfl⟩ := next_sum h
    intro t ht
    have := hs t ht
    simp [hm] at this
  | leave =>
    rcases next_leave h with ⟨k, hk, hm, rfl⟩ | ⟨k, hk, hm, rfl⟩ | ⟨k, totalStats, hk, hm, rfl⟩
    · intro t ht
      rcases hs t ht with ⟨k', hk', hle⟩ | hm' | hm'
      · rw [hm] at hk'
        cases hk'
        omega
      · rw [hm] at hm'
        cases hm'
      · rw [hm] at hm'
        cases hm'
    · intro t ht
      have := hs t ht
      simp [hm] at this
    · intro t ht
      have := hs t ht
      simp [hm] at this
  | request t =>
    obtain ⟨r, threadStat, hr, hw, rfl⟩ := next_request h
    apply started_update hs
    exact nofun
  | publish t =>
    obtain ⟨r, threadStat, hr, hw, rfl⟩ := next_publish h
    apply started_update hs
    exact nofun

theorem started_reachable (h : (client size attempt).Reachable s) : Started s :=
  (client size attempt).inv Started (fun _ _ => .inl ⟨0, rfl, Nat.zero_le _⟩)
    (fun _ _ _ hs hn => started_next hs hn) h

/-- A program that can go no further has reported, or a thread of it failed to start. -/
theorem main_ends (h : (client size attempt).Reachable s) (hstuck : (client size attempt).Stuck s) :
    (∃ totalStats, s.main = .reported totalStats) ∨ s.main = .caught ∨ s.main = .terminated := by
  have hnone : ∀ a, next size attempt s a = none := hstuck
  cases hm : s.main with
  | reported totalStats => exact .inl ⟨totalStats, rfl⟩
  | caught => exact .inr (.inl rfl)
  | terminated => exact .inr (.inr rfl)
  | spawning t =>
    by_cases ht : t < T
    · exact absurd (hnone .spawn) (by simp [next, hm, ht])
    · exact absurd (hnone .leave) (by simp [next, hm, ht])
  | summing t totalStats =>
    by_cases ht : t < T
    · exact absurd (hnone .sum) (by simp [next, hm, ht])
    · exact absurd (hnone .leave) (by simp [next, hm, ht])
  | joining t =>
    by_cases ht : t < T
    · cases hw : s.worker ⟨t, ht⟩ with
      | unstarted =>
        have := started_reachable h _ hw
        simp [hm] at this
      | running r threadStat =>
        by_cases hr : r < R
        · exact absurd (hnone (.request ⟨t, ht⟩)) (by simp [next, hm, hw, hr])
        · exact absurd (hnone (.publish ⟨t, ht⟩)) (by simp [next, hm, hw, hr])
      | returned => exact absurd (hnone .join) (by simp [next, hm, ht, hw])
    · exact absurd (hnone .leave) (by simp [next, hm, ht])

end HttpSurvey.Beast.Client.Concurrent
