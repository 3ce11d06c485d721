/-
`concurrent_beast_client` with its clock: the threads and `main` of `Program` beside a clock that never
goes back, with the readings `client_start`, `client_end` and, for each request, `write_start` and
`read_end`. As before, `attempt t r` says what request `r` of thread `t` comes to and which readings it
takes; a reading is taken when the clock shows it. The readings that are only logged leave no trace and
are left out.

Without the clock, a run is one of the untimed program (`program_reachable`).
-/
import HttpSurvey.Beast.ClientRefinement
import HttpSurvey.Beast.Summary

namespace HttpSurvey.Beast.Client

open HttpSurvey.Lib

/-- `send_request` gets to the reading of `write_start`. -/
def Attempt.reachesWrite (a : Attempt) : Bool := a.resolve.isOk && a.connect.isOk && a.prepare.isOk

/-- `send_request` gets to the reading of `read_end`. -/
def Attempt.reachesReadEnd (a : Attempt) : Bool := a.reachesWrite && a.write.isOk && a.read.isOk

namespace Concurrent

/-- Where a thread stands within a call of `send_request`: before `write_start`, between `write_start`
and `read_end`, or past `read_end`. -/
inductive Phase
  | idle
  | writing
  | answered
  deriving DecidableEq, Repr

/-- The phase in which the call ends. -/
def lastPhase (a : Attempt) : Phase :=
  if a.reachesReadEnd then .answered else if a.reachesWrite then .writing else .idle

/-- The program, the phase of each thread's call, what the clock shows, and `client_end`. -/
structure Timed (T : Nat) where
  program : Program T
  phase : Fin T → Phase
  clock : Int
  clientEnd : Option Int

/-- Time passes, a thread reads `write_start` or `read_end` or finishes its call, `main` or a thread
takes another step, or `main` reads `client_end` and reports. -/
inductive Event (T : Nat)
  | tick (time : Int)
  | writeStart (t : Fin T)
  | readEnd (t : Fin T)
  | finish (t : Fin T)
  | act (a : Act T)
  | clientEnd
  deriving DecidableEq

/-- The step is neither the end of a call nor the one after the reading of `client_end`. -/
def isPlain {T : Nat} (m : Main) : Act T → Bool
  | .request _ => false
  | .leave =>
    match m with
    | .summing _ _ => false
    | .spawning _ | .joining _ | .reported _ | .caught | .terminated => true
  | .spawn | .spawnFails | .join | .sum | .publish _ => true

section Steps

variable {T R : Nat} (size : UInt64) (attempt : Fin T → Fin R → Attempt) (clientStart : Int)

/-- The request that a thread has to make. -/
def current (s : Program T) (t : Fin T) : Option Attempt :=
  match s.worker t with
  | .running r _ => if h : r < R then some (attempt t ⟨r, h⟩) else none
  | .unstarted | .returned => none

namespace Timed

def start : Timed T where
  program := Concurrent.start
  phase := fun _ => .idle
  clock := clientStart
  clientEnd := none

def next (s : Timed T) : Event T → Option (Timed T)
  | .tick time => if s.clock ≤ time then some { s with clock := time } else none
  | .writeStart t =>
    if s.program.main = .terminated then none
    else
      match current attempt s.program t with
      | some a =>
        if s.phase t = .idle ∧ a.reachesWrite ∧ s.clock = a.writeStart then
          some { s with phase := Function.update s.phase t .writing }
        else none
      | none => none
  | .readEnd t =>
    if s.program.main = .terminated then none
    else
      match current attempt s.program t with
      | some a =>
        if s.phase t = .writing ∧ a.reachesReadEnd ∧ s.clock = a.readEnd then
          some { s with phase := Function.update s.phase t .answered }
        else none
      | none => none
  | .finish t =>
    match current attempt s.program t with
    | some a =>
      if s.phase t = lastPhase a then
        (Concurrent.next size attempt s.program (.request t)).map fun p =>
          { s with program := p, phase := Function.update s.phase t .idle }
      else none
    | none => none
  | .act a =>
    if isPlain s.program.main a then
      (Concurrent.next size attempt s.program a).map fun p => { s with program := p }
    else none
  | .clientEnd =>
    match s.program.main with
    | .summing _ _ =>
      (Concurrent.next size attempt s.program .leave).map fun p =>
        { s with program := p, clientEnd := some s.clock }
    | .spawning _ | .joining _ | .reported _ | .caught | .terminated => none

end Timed

/-- The program with these attempts and this reading of `client_start`. -/
def timedClient : Machine (Timed T) (Event T) := ⟨Timed.start clientStart, Timed.next size attempt⟩

/-- The final statistics, once `main` has reported. -/
def Timed.summary (s : Timed T) : Option Summary :=
  match s.program.main, s.clientEnd with
  | .reported totalStats, some clientEnd => some ⟨totalStats, durationCast (clientEnd - clientStart)⟩
  | _, _ => none

end Steps

/-! ## What each step does -/

section Spec

variable {T R : Nat} {size : UInt64} {attempt : Fin T → Fin R → Attempt} {s s' : Timed T}

theorem next_writeStart {t : Fin T} (h : s.next size attempt (.writeStart t) = some s') :
    ∃ a, current attempt s.program t = some a ∧ s.phase t = .idle ∧ s.clock = a.writeStart ∧
      s' = { s with phase := Function.update s.phase t .writing } := by
  simp only [Timed.next] at h
  split at h
  · cases h
  · split at h
    · rename_i a ha
      split at h
      · rename_i hphase
        cases h
        exact ⟨a, ha, hphase.1, hphase.2.2, rfl⟩
      · cases h
    · cases h

theorem next_readEnd {t : Fin T} (h : s.next size attempt (.readEnd t) = some s') :
    ∃ a, current attempt s.program t = some a ∧ s.phase t = .writing ∧ s.clock = a.readEnd ∧
      s' = { s with phase := Function.update s.phase t .answered } := by
  simp only [Timed.next] at h
  split at h
  · cases h
  · split at h
    · rename_i a ha
      split at h
      · rename_i hphase
        cases h
        exact ⟨a, ha, hphase.1, hphase.2.2, rfl⟩
      · cases h
    · cases h

theorem next_finish {t : Fin T} (h : s.next size attempt (.finish t) = some s') :
    ∃ a p, current attempt s.program t = some a ∧ s.phase t = lastPhase a ∧
      Concurrent.next size attempt s.program (.request t) = some p ∧
      s' = { s with program := p, phase := Function.update s.phase t .idle } := by
  simp only [Timed.next] at h
  split at h
  · rename_i a ha
    split at h
    · rename_i hphase
      obtain ⟨p, hp, rfl⟩ := Option.map_eq_some_iff.1 h
      exact ⟨a, p, ha, hphase, hp, rfl⟩
    · cases h
  · cases h

theorem next_act {a : Act T} (h : s.next size attempt (.act a) = some s') :
    ∃ p, isPlain s.program.main a = true ∧ Concurrent.next size attempt s.program a = some p ∧
      s' = { s with program := p } := by
  simp only [Timed.next] at h
  split at h
  · rename_i hplain
    obtain ⟨p, hp, rfl⟩ := Option.map_eq_some_iff.1 h
    exact ⟨p, hplain, hp, rfl⟩
  · cases h

theorem next_clientEnd (h : s.next size attempt .clientEnd = some s') :
    ∃ t totalStats, T ≤ t ∧ s.program.main = .summing t totalStats ∧
      s' = { s with program := { s.program with main := .reported totalStats }, clientEnd := some s.clock } := by
  simp only [Timed.next] at h
  split at h
  · rename_i hm
    obtain ⟨p, hp, rfl⟩ := Option.map_eq_some_iff.1 h
    rcases next_leave hp with ⟨t, -, hm', -⟩ | ⟨t, -, hm', -⟩ | ⟨t, totalStats, ht, hm', rfl⟩
    · rw [hm] at hm'
      cases hm'
    · rw [hm] at hm'
      cases hm'
    · exact ⟨t, totalStats, ht, hm', rfl⟩
  all_goals cases h

theorem next_tick {time : Int} (h : s.next size attempt (.tick time) = some s') :
    s.clock ≤ time ∧ s' = { s with clock := time } := by
  simp only [Timed.next] at h
  split at h
  · rename_i hle
    cases h
    exact ⟨hle, rfl⟩
  · cases h

theorem summary_eq_some {clientStart : Int} {summary : Summary} (h : s.summary clientStart = some summary) :
    ∃ totalStats clientEnd, s.program.main = .reported totalStats ∧ s.clientEnd = some clientEnd ∧
      summary = ⟨totalStats, durationCast (clientEnd - clientStart)⟩ := by
  unfold Timed.summary at h
  split at h
  · rename_i totalStats clientEnd hm hend
    cases h
    exact ⟨totalStats, clientEnd, hm, hend, rfl⟩
  · cases h

/-- Without the clock, a step of time or of a reading is none, and any other is one of the program. -/
theorem next_program {e : Event T} (h : s.next size attempt e = some s') :
    s'.program = s.program ∨ ∃ a, Concurrent.next size attempt s.program a = some s'.program := by
  cases e with
  | tick time =>
    obtain ⟨-, rfl⟩ := next_tick h
    exact .inl rfl
  | writeStart t =>
    obtain ⟨-, -, -, -, rfl⟩ := next_writeStart h
    exact .inl rfl
  | readEnd t =>
    obtain ⟨-, -, -, -, rfl⟩ := next_readEnd h
    exact .inl rfl
  | finish t =>
    obtain ⟨-, p, -, -, hp, rfl⟩ := next_finish h
    exact .inr ⟨_, hp⟩
  | act a =>
    obtain ⟨p, -, hp, rfl⟩ := next_act h
    exact .inr ⟨a, hp⟩
  | clientEnd =>
    obtain ⟨t, totalStats, ht, hm, rfl⟩ := next_clientEnd h
    refine .inr ⟨.leave, ?_⟩
    simp [Concurrent.next, hm, Nat.not_lt.2 ht]

theorem program_reachable {clientStart : Int} (h : (timedClient size attempt clientStart).Reachable s) :
    (client size attempt).Reachable s.program :=
  Machine.reachable_map Timed.program rfl (fun _ _ _ hn => next_program hn) h

end Spec

end Concurrent

end HttpSurvey.Beast.Client
