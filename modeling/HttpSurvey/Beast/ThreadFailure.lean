/-
The `std::thread` objects of `concurrent_beast_client` and how its `main` is left. The vector `threads`
holds, for each thread started, whether its object is joinable; it is destroyed when the `try` block of
`main` is left, by its end or by an exception, and a joinable object that is destroyed terminates the
process.

While `main` spawns, the objects are as many as the threads it has come to and all of them are joinable,
whatever the threads have done (`Objects`). So the handler of `main` is reached exactly if the thread that
fails to start is the first one (`spawn_failure_handled_iff`), which is what `unwind` says of `Program`
(`Process.program_reachable`).
-/
import HttpSurvey.Beast.ConcurrentClient

namespace HttpSurvey.Beast.Client.Concurrent

open HttpSurvey.Lib

/-- How the process ends: `main` returns, having written to `std::cerr`, or `std::terminate` is called. -/
inductive Exit
  | returned (status : Int) (cerr : List String)
  | terminated
  deriving DecidableEq, Repr

/-- The program with the vector `threads` and its exit. -/
structure Process (T : Nat) where
  program : Program T
  threads : List Bool
  exit : Option Exit

namespace Process

/-- A step of the program, or a `std::system_error` of the constructor of the next thread. -/
inductive Event (T : Nat)
  | act (a : Act T)
  | spawnFails (what : String)
  deriving DecidableEq

/-- The destructor of the vector comes to its end. -/
def destructible (threads : List Bool) : Bool := threads.all fun joinable => !joinable

/-- What the handler of `main` writes. -/
def fatalError (what : String) : String := "[Client] Fatal error: " ++ what

/-- The `try` block is left for `m`, from where `main` returns. -/
def leaveTry {T : Nat} (s : Process T) (m : Main) (exit : Exit) : Process T :=
  if destructible s.threads then ⟨{ s.program with main := m }, [], some exit⟩
  else ⟨{ s.program with main := .terminated }, s.threads, some .terminated⟩

section Steps

variable {T R : Nat} (size : UInt64) (attempt : Fin T → Fin R → Attempt)

def start : Process T := ⟨Concurrent.start, [], none⟩

def next (s : Process T) : Event T → Option (Process T)
  | .act .spawn =>
    (Concurrent.next size attempt s.program .spawn).map fun p =>
      { s with program := p, threads := s.threads ++ [true] }
  | .act .join =>
    match s.program.main with
    | .joining t =>
      (Concurrent.next size attempt s.program .join).map fun p =>
        { s with program := p, threads := s.threads.set t false }
    | .spawning _ | .summing _ _ | .reported _ | .caught | .terminated => none
  | .act .leave =>
    match s.program.main with
    | .summing _ totalStats =>
      (Concurrent.next size attempt s.program .leave).map fun _ =>
        leaveTry s (.reported totalStats) (.returned 0 [])
    | .spawning _ | .joining _ | .reported _ | .caught | .terminated =>
      (Concurrent.next size attempt s.program .leave).map fun p => { s with program := p }
  | .act .sum => (Concurrent.next size attempt s.program .sum).map fun p => { s with program := p }
  | .act (.request t) => (Concurrent.next size attempt s.program (.request t)).map fun p => { s with program := p }
  | .act (.publish t) => (Concurrent.next size attempt s.program (.publish t)).map fun p => { s with program := p }
  | .act .spawnFails => none
  | .spawnFails what =>
    match s.program.main with
    | .spawning t => if t < T then some (leaveTry s .caught (.returned 1 [fatalError what])) else none
    | .joining _ | .summing _ _ | .reported _ | .caught | .terminated => none

/-- The process with these attempts. -/
def process : Machine (Process T) (Event T) := ⟨start, next size attempt⟩

end Steps

/-! ## The objects in the vector -/

section Objects

variable {T R : Nat} {size : UInt64} {attempt : Fin T → Fin R → Attempt} {s s' : Process T}

/-- The objects are those of the threads started; all are joinable until `main` joins, and those joined
are not. -/
structure Objects (s : Process T) : Prop where
  spawning : ∀ k, s.program.main = .spawning k → k ≤ T ∧ s.threads = List.replicate k true
  joining : ∀ k, s.program.main = .joining k →
    k ≤ T ∧ s.threads = List.replicate k false ++ List.replicate (T - k) true
  summing : ∀ k totalStats, s.program.main = .summing k totalStats → s.threads = List.replicate T false
  reported : ∀ totalStats, s.program.main = .reported totalStats → s.exit = some (.returned 0 [])

theorem destructible_replicate_true (k : Nat) : destructible (List.replicate k true) = decide (k = 0) := by
  cases k with
  | zero => rfl
  | succ k => rfl

theorem destructible_replicate_false (k : Nat) : destructible (List.replicate k false) = true := by
  simp [destructible]

/-- To join the next thread is to clear the first of the flags that are left. -/
theorem set_joined {k : Nat} (h : k < T) :
    (List.replicate k false ++ List.replicate (T - k) true).set k false =
      List.replicate (k + 1) false ++ List.replicate (T - (k + 1)) true := by
  obtain ⟨n, hn⟩ : ∃ n, T - k = n + 1 := ⟨T - k - 1, by omega⟩
  have hn' : T - (k + 1) = n := by omega
  rw [hn, hn', List.set_append_right _ _ (by simp), List.length_replicate, Nat.sub_self, List.replicate_succ,
    List.set_cons_zero, List.replicate_succ', List.append_assoc]
  rfl

/-- Leaving the `try` block by an exception is what `unwind` says. -/
theorem leaveTry_unwind {k : Nat} (h : s.threads = List.replicate k true) (exit : Exit) :
    (leaveTry s .caught exit).program = { s.program with main := unwind k } ∧
      (leaveTry s .caught exit).exit = some (if k = 0 then exit else .terminated) := by
  unfold leaveTry unwind
  rw [h, destructible_replicate_true]
  by_cases hk : k = 0
  · simp [hk]
  · simp [hk]

theorem objects_start : Objects (start : Process T) := by
  refine ⟨?_, nofun, nofun, nofun⟩
  rintro _ ⟨⟩
  exact ⟨Nat.zero_le T, rfl⟩

theorem next_leave_cases (h : next size attempt s (.act .leave) = some s') :
    (∃ k, T ≤ k ∧ s.program.main = .spawning k ∧ s' = { s with program := { s.program with main := .joining 0 } }) ∨
      (∃ k, T ≤ k ∧ s.program.main = .joining k ∧
        s' = { s with program := { s.program with main := .summing 0 0 } }) ∨
      ∃ k totalStats, T ≤ k ∧ s.program.main = .summing k totalStats ∧
        s' = leaveTry s (.reported totalStats) (.returned 0 []) := by
  simp only [next] at h
  split at h
  · rename_i k totalStats hm
    obtain ⟨p, hp, rfl⟩ := Option.map_eq_some_iff.1 h
    rcases next_leave hp with ⟨k', -, hm', -⟩ | ⟨k', -, hm', -⟩ | ⟨k', total, hk', hm', -⟩ <;> rw [hm] at hm' <;>
      cases hm'
    exact .inr (.inr ⟨_, _, hk', hm, rfl⟩)
  all_goals
    rename_i hm
    obtain ⟨p, hp, rfl⟩ := Option.map_eq_some_iff.1 h
    rcases next_leave hp with ⟨k, hk, hm', rfl⟩ | ⟨k, hk, hm', rfl⟩ | ⟨k, total, -, hm', -⟩
    · exact .inl ⟨k, hk, hm', rfl⟩
    · exact .inr (.inl ⟨k, hk, hm', rfl⟩)
    · rw [hm] at hm'
      cases hm'

theorem next_spawnFails_cases {what : String} (h : next size attempt s (.spawnFails what) = some s') :
    ∃ k, k < T ∧ s.program.main = .spawning k ∧ s' = leaveTry s .caught (.returned 1 [fatalError what]) := by
  simp only [next] at h
  split at h
  · rename_i k hm
    split at h
    · rename_i hk
      cases h
      exact ⟨k, hk, hm, rfl⟩
    · cases h
  all_goals cases h

theorem next_join_cases (h : next size attempt s (.act .join) = some s') :
    ∃ k, k < T ∧ s.program.main = .joining k ∧
      s' = { s with program := { s.program with main := .joining (k + 1) }, threads := s.threads.set k false } := by
  simp only [next] at h
  split at h
  · rename_i k hm
    obtain ⟨p, hp, rfl⟩ := Option.map_eq_some_iff.1 h
    obtain ⟨k', hk', hm', -, rfl⟩ := next_join hp
    rw [hm] at hm'
    cases hm'
    exact ⟨k, hk', hm, rfl⟩
  all_goals cases h

/-- Once `main` is gone by an exception nothing is said of the objects. -/
theorem objects_of_left (h : s.program.main = .caught ∨ s.program.main = .terminated) : Objects s := by
  constructor
  · intro k hm
    rcases h with h | h <;> rw [h] at hm <;> cases hm
  · intro k hm
    rcases h with h | h <;> rw [h] at hm <;> cases hm
  · intro k total hm
    rcases h with h | h <;> rw [h] at hm <;> cases hm
  · intro total hm
    rcases h with h | h <;> rw [h] at hm <;> cases hm

theorem objects_next (hs : Objects s) {e : Event T} (h : next size attempt s e = some s') : Objects s' := by
  cases e with
  | spawnFails what =>
    obtain ⟨k, hk, hm, rfl⟩ := next_spawnFails_cases h
    apply objects_of_left
    unfold leaveTry
    split
    · exact .inl rfl
    · exact .inr rfl
  | act a =>
    cases a with
    | spawn =>
      obtain ⟨p, hp, rfl⟩ := Option.map_eq_some_iff.1 h
      obtain ⟨k, hk, hm, rfl⟩ := next_spawn hp
      refine ⟨?_, nofun, nofun, nofun⟩
      rintro _ ⟨⟩
      refine ⟨hk, ?_⟩
      rw [List.replicate_succ', ← (hs.spawning k hm).2]
    | spawnFails => cases h
    | join =>
      obtain ⟨k, hk, hm, rfl⟩ := next_join_cases h
      refine ⟨nofun, ?_, nofun, nofun⟩
      rintro _ ⟨⟩
      refine ⟨hk, ?_⟩
      rw [(hs.joining k hm).2]
      exact set_joined hk
    | leave =>
      rcases next_leave_cases h with ⟨k, hk, hm, rfl⟩ | ⟨k, hk, hm, rfl⟩ | ⟨k, total, hk, hm, rfl⟩
      · obtain ⟨hle, hthreads⟩ := hs.spawning k hm
        obtain rfl : k = T := by omega
        refine ⟨nofun, ?_, nofun, nofun⟩
        rintro _ ⟨⟩
        exact ⟨Nat.zero_le k, hthreads⟩
      · obtain ⟨hle, hthreads⟩ := hs.joining k hm
        obtain rfl : k = T := by omega
        refine ⟨nofun, nofun, ?_, nofun⟩
        rintro _ _ ⟨⟩
        rw [hthreads, Nat.sub_self, List.replicate_zero, List.append_nil]
      · -- all objects have been joined
        have hdestructible : destructible s.threads = true := by
          rw [hs.summing k total hm]
          exact destructible_replicate_false T
        unfold leaveTry
        rw [if_pos hdestructible]
        exact ⟨nofun, nofun, nofun, fun _ _ => rfl⟩
    | sum =>
      obtain ⟨p, hp, rfl⟩ := Option.map_eq_some_iff.1 h
      obtain ⟨k, total, hk, hm, rfl⟩ := next_sum hp
      refine ⟨nofun, nofun, ?_, nofun⟩
      rintro _ _ ⟨⟩
      exact hs.summing k total hm
    | request t =>
      obtain ⟨p, hp, rfl⟩ := Option.map_eq_some_iff.1 h
      obtain ⟨r, threadStat, hr, hw, rfl⟩ := next_request hp
      exact ⟨hs.spawning, hs.joining, hs.summing, hs.reported⟩
    | publish t =>
      obtain ⟨p, hp, rfl⟩ := Option.map_eq_some_iff.1 h
      obtain ⟨r, threadStat, hr, hw, rfl⟩ := next_publish hp
      exact ⟨hs.spawning, hs.joining, hs.summing, hs.reported⟩

theorem objects_reachable (h : (process size attempt).Reachable s) : Objects s :=
  (process size attempt).inv Objects objects_start (fun _ _ _ hs hn => objects_next hs hn) h

/-- Without the objects, a step is one of the program. -/
theorem next_program (hs : Objects s) {e : Event T} (h : next size attempt s e = some s') :
    ∃ a, Concurrent.next size attempt s.program a = some s'.program := by
  cases e with
  | spawnFails what =>
    obtain ⟨k, hk, hm, rfl⟩ := next_spawnFails_cases h
    refine ⟨.spawnFails, ?_⟩
    rw [(leaveTry_unwind (hs.spawning k hm).2 _).1]
    simp [Concurrent.next, hm, hk]
  | act a =>
    cases a with
    | spawnFails => cases h
    | leave =>
      refine ⟨.leave, ?_⟩
      rcases next_leave_cases h with ⟨k, hk, hm, rfl⟩ | ⟨k, hk, hm, rfl⟩ | ⟨k, total, hk, hm, rfl⟩
      · simp [Concurrent.next, hm, Nat.not_lt.2 hk]
      · simp [Concurrent.next, hm, Nat.not_lt.2 hk]
      · have hdestructible : destructible s.threads = true := by
          rw [hs.summing k total hm]
          exact destructible_replicate_false T
        simp [Concurrent.next, hm, Nat.not_lt.2 hk, leaveTry, hdestructible]
    | join =>
      simp only [next] at h
      split at h
      · obtain ⟨p, hp, rfl⟩ := Option.map_eq_some_iff.1 h
        exact ⟨.join, hp⟩
      all_goals cases h
    | spawn | sum =>
      obtain ⟨p, hp, rfl⟩ := Option.map_eq_some_iff.1 h
      exact ⟨_, hp⟩
    | request t | publish t =>
      obtain ⟨p, hp, rfl⟩ := Option.map_eq_some_iff.1 h
      exact ⟨_, hp⟩

/-- A run of the process is one of the program, in which `unwind` stands for the destruction of the
vector. -/
theorem program_reachable (h : (process size attempt).Reachable s) : (client size attempt).Reachable s.program := by
  have hboth : Objects s ∧ (client size attempt).Reachable s.program := by
    refine Machine.inv (M := process size attempt) (fun s => Objects s ∧ (client size attempt).Reachable s.program)
      ⟨objects_start, [], rfl⟩ (fun u e u' hu hn => ?_) h
    obtain ⟨a, ha⟩ := next_program hu.1 hn
    exact ⟨objects_next hu.1 hn, hu.2.next ha⟩
  exact hboth.2

end Objects

/-! ## A thread that fails to start -/

/-- No object of the vector is joinable when it is destroyed, and `main` reports the error and returns 1
from its handler. -/
def Handled {T : Nat} (s s' : Process T) (what : String) : Prop :=
  (∀ joinable ∈ s.threads, joinable = false) ∧ s'.program.main = .caught ∧
    s'.exit = some (.returned 1 [fatalError what])

/-- Whatever the threads have done when thread `k` fails to start: the failure is handled exactly if it
is the first one. -/
theorem spawn_failure_handled_iff {T R : Nat} (size : UInt64) (attempt : Fin T → Fin R → Attempt) (s : Process T)
    (h : (process size attempt).Reachable s) (k : Nat) (hm : s.program.main = .spawning k) (hk : k < T)
    (what : String) : ∃ s', next size attempt s (.spawnFails what) = some s' ∧ (Handled s s' what ↔ k = 0) := by
  have hthreads := ((objects_reachable h).spawning k hm).2
  obtain ⟨hprogram, hexit⟩ := leaveTry_unwind hthreads (.returned 1 [fatalError what])
  refine ⟨leaveTry s .caught (.returned 1 [fatalError what]), by simp [next, hm, hk], ?_⟩
  constructor
  · rintro ⟨hjoined, -, -⟩
    by_contra hne
    have htrue : true ∈ s.threads := by
      rw [hthreads]
      exact List.mem_replicate.2 ⟨hne, rfl⟩
    exact absurd (hjoined true htrue) (by simp)
  · rintro rfl
    refine ⟨?_, ?_, ?_⟩
    · rw [hthreads]
      exact nofun
    · rw [hprogram]
      rfl
    · rw [hexit]
      rfl

/-- Two threads with a request each that is answered after 1 ms. -/
def oneEach (_ : Fin 2) (_ : Fin 1) : Attempt :=
  ⟨.ok (), .ok (), .ok (), .ok (), .ok ⟨200, ""⟩, .ok (), 0, 1000000⟩

/-- The first of two threads fails to start. -/
theorem first_failure_handled :
    ∃ s', next 30720 oneEach start (.spawnFails "Resource temporarily unavailable") = some s' ∧
      Handled start s' "Resource temporarily unavailable" := by
  obtain ⟨s', hs', hiff⟩ := spawn_failure_handled_iff 30720 oneEach start ⟨[], rfl⟩ 0 rfl (by decide)
    "Resource temporarily unavailable"
  exact ⟨s', hs', hiff.2 rfl⟩

/-- The first thread has returned when the second fails to start: its object is still joinable, and the
process is terminated. -/
theorem second_failure_terminates :
    ∃ s s', (process 30720 oneEach).run [.act .spawn, .act (.request 0), .act (.publish 0)] = some s ∧
      next 30720 oneEach s (.spawnFails "Resource temporarily unavailable") = some s' ∧
      s'.exit = some .terminated ∧ ¬Handled s s' "Resource temporarily unavailable" := by
  refine ⟨_, _, rfl, rfl, rfl, ?_⟩
  rintro ⟨-, hm, -⟩
  cases hm

end Process

end HttpSurvey.Beast.Client.Concurrent
