/-
`main` of `concurrent_beast_client`: the loop that spawns `T` threads, the threads with `R` requests
each, the joins and the loop that adds the slots of `thread_stats`, as one machine that interleaves the
threads' requests and the steps of `main`. `attempt t r` says what request `r` of thread `t` comes to
and `size` is the size of the payload. A `std::thread` may fail to start: unwinding then destroys the
vector of the threads spawned so far, none of which has been joined.
-/
import HttpSurvey.Beast.Client
import HttpSurvey.Lib.Machine

namespace HttpSurvey.Beast.Client.Concurrent

open HttpSurvey.Lib

/-- A thread: not started, at the test of its loop with `r` and `thread_stat`, or returned. -/
inductive Worker
  | unstarted
  | running (r : Nat) (threadStat : Stats)
  | returned
  deriving DecidableEq, Repr

/-- `main`: at the test of one of its three loops, past its summary (it returns 0), in its `catch` (it
returns 1), or gone with the process. -/
inductive Main
  | spawning (t : Nat)
  | joining (t : Nat)
  | summing (t : Nat) (totalStats : Stats)
  | reported (totalStats : Stats)
  | caught
  | terminated
  deriving DecidableEq, Repr

/-- The threads, `thread_stats` and `main`. -/
structure Program (T : Nat) where
  worker : Fin T → Worker
  threadStats : Fin T → Stats
  main : Main

/-- The atomic steps: those of `main`'s loops and their ends, and of the threads. -/
inductive Act (T : Nat)
  | spawn
  | spawnFails
  | join
  | sum
  | leave
  | request (t : Fin T)
  | publish (t : Fin T)
  deriving DecidableEq

/-- A `std::system_error` leaves the loop that spawns, with `t` joinable threads in the vector that is
destroyed on the way to the `catch`. -/
def unwind (t : Nat) : Main := if t = 0 then .caught else .terminated

section Steps

variable {T R : Nat} (size : UInt64) (attempt : Fin T → Fin R → Attempt)

def start : Program T where
  worker := fun _ => .unstarted
  threadStats := fun _ => 0
  main := .spawning 0

def next (s : Program T) : Act T → Option (Program T)
  | .spawn =>
    match s.main with
    | .spawning t =>
      if h : t < T then
        some { s with worker := Function.update s.worker ⟨t, h⟩ (.running 0 0), main := .spawning (t + 1) }
      else none
    | _ => none
  | .spawnFails =>
    match s.main with
    | .spawning t => if t < T then some { s with main := unwind t } else none
    | _ => none
  | .join =>
    match s.main with
    | .joining t =>
      if h : t < T then
        if s.worker ⟨t, h⟩ = .returned then some { s with main := .joining (t + 1) } else none
      else none
    | _ => none
  | .sum =>
    match s.main with
    | .summing t totalStats =>
      if h : t < T then some { s with main := .summing (t + 1) (totalStats + s.threadStats ⟨t, h⟩) } else none
    | _ => none
  | .leave =>
    match s.main with
    | .spawning t => if t < T then none else some { s with main := .joining 0 }
    | .joining t => if t < T then none else some { s with main := .summing 0 0 }
    | .summing t totalStats => if t < T then none else some { s with main := .reported totalStats }
    | .reported _ | .caught | .terminated => none
  | .request t =>
    if s.main = .terminated then none
    else
      match s.worker t with
      | .running r threadStat =>
        if h : r < R then
          some { s with worker := Function.update s.worker t
                          (.running (r + 1) (iteration size threadStat (attempt t ⟨r, h⟩))) }
        else none
      | .unstarted | .returned => none
  | .publish t =>
    if s.main = .terminated then none
    else
      match s.worker t with
      | .running r threadStat =>
        if r < R then none
        else
          some { s with
            worker := Function.update s.worker t .returned
            threadStats := Function.update s.threadStats t threadStat }
      | .unstarted | .returned => none

/-- The program with these attempts. -/
def client : Machine (Program T) (Act T) := ⟨start, next size attempt⟩

/-! ## What each step does -/

variable {size attempt} {s s' : Program T}

theorem next_spawn (h : next size attempt s .spawn = some s') :
    ∃ t, ∃ ht : t < T, s.main = .spawning t ∧
      s' = { s with worker := Function.update s.worker ⟨t, ht⟩ (.running 0 0), main := .spawning (t + 1) } := by
  simp only [next] at h
  split at h
  · rename_i t hm
    split at h
    · rename_i ht
      cases h
      exact ⟨t, ht, hm, rfl⟩
    · cases h
  · cases h

theorem next_spawnFails (h : next size attempt s .spawnFails = some s') :
    ∃ t, t < T ∧ s.main = .spawning t ∧ s' = { s with main := unwind t } := by
  simp only [next] at h
  split at h
  · rename_i t hm
    split at h
    · rename_i ht
      cases h
      exact ⟨t, ht, hm, rfl⟩
    · cases h
  · cases h

theorem next_join (h : next size attempt s .join = some s') :
    ∃ t, ∃ ht : t < T, s.main = .joining t ∧ s.worker ⟨t, ht⟩ = .returned ∧
      s' = { s with main := .joining (t + 1) } := by
  simp only [next] at h
  split at h
  · rename_i t hm
    split at h
    · rename_i ht
      split at h
      · rename_i hw
        cases h
        exact ⟨t, ht, hm, hw, rfl⟩
      · cases h
    · cases h
  · cases h

theorem next_sum (h : next size attempt s .sum = some s') :
    ∃ t totalStats, ∃ ht : t < T, s.main = .summing t totalStats ∧
      s' = { s with main := .summing (t + 1) (totalStats + s.threadStats ⟨t, ht⟩) } := by
  simp only [next] at h
  split at h
  · rename_i t totalStats hm
    split at h
    · rename_i ht
      cases h
      exact ⟨t, totalStats, ht, hm, rfl⟩
    · cases h
  · cases h

theorem next_leave (h : next size attempt s .leave = some s') :
    (∃ t, T ≤ t ∧ s.main = .spawning t ∧ s' = { s with main := .joining 0 }) ∨
      (∃ t, T ≤ t ∧ s.main = .joining t ∧ s' = { s with main := .summing 0 0 }) ∨
      ∃ t totalStats, T ≤ t ∧ s.main = .summing t totalStats ∧ s' = { s with main := .reported totalStats } := by
  simp only [next] at h
  split at h
  · rename_i t hm
    split at h
    · cases h
    · rename_i ht
      cases h
      exact .inl ⟨t, by omega, hm, rfl⟩
  · rename_i t hm
    split at h
    · cases h
    · rename_i ht
      cases h
      exact .inr (.inl ⟨t, by omega, hm, rfl⟩)
  · rename_i t totalStats hm
    split at h
    · cases h
    · rename_i ht
      cases h
      exact .inr (.inr ⟨t, totalStats, by omega, hm, rfl⟩)
  all_goals cases h

theorem next_request {t : Fin T} (h : next size attempt s (.request t) = some s') :
    ∃ r threadStat, ∃ hr : r < R, s.worker t = .running r threadStat ∧
      s' = { s with worker := Function.update s.worker t
                      (.running (r + 1) (iteration size threadStat (attempt t ⟨r, hr⟩))) } := by
  simp only [next] at h
  split at h
  · cases h
  · split at h
    · rename_i r threadStat hw
      split at h
      · rename_i hr
        cases h
        exact ⟨r, threadStat, hr, hw, rfl⟩
      · cases h
    all_goals cases h

theorem next_publish {t : Fin T} (h : next size attempt s (.publish t) = some s') :
    ∃ r threadStat, R ≤ r ∧ s.worker t = .running r threadStat ∧
      s' = { s with
        worker := Function.update s.worker t .returned
        threadStats := Function.update s.threadStats t threadStat } := by
  simp only [next] at h
  split at h
  · cases h
  · split at h
    · rename_i r threadStat hw
      split at h
      · cases h
      · rename_i hr
        cases h
        exact ⟨r, threadStat, by omega, hw, rfl⟩
    all_goals cases h

end Steps

end HttpSurvey.Beast.Client.Concurrent
