/-
`main` of `regular_drogon_client`: the loop that sends, `app().run()` and the report. The event loop runs
in the thread of `main`, so that a response callback runs from its beginning to its end and only inside
`run()`. The handlers of SIGINT and SIGTERM, which `run()` installs, call `quit()`; `run()` returns at
some point after a `quit()`. `reply` says how each request ends. The counters stay far below their wrap
and are natural numbers. The figures of the report that are quotients are none where the divisor is 0; the
first of them is a division of integers, which then traps.
-/
import HttpSurvey.Drogon.Arguments
import HttpSurvey.Drogon.ConcurrentClient
import HttpSurvey.Lib.Clock

namespace HttpSurvey.Drogon.Regular

open HttpSurvey.Lib

/-- `data_size` (30 MB). -/
def dataSize : Nat := 30 * 1024 * 1024

/-- `main`: in the loop, in `run()`, past it, and past the report with the number of successful
requests it has printed. -/
inductive Main
  | sending
  | running
  | returned
  | reported (successful : Nat)
  deriving DecidableEq, Repr

/-- The loop variable, the requests whose callback has run, the atomics, whether `quit()` has been
called, and `main`. -/
structure State (N : Nat) where
  i : Nat
  replied : Fin N → Bool
  totalBytesSent : Nat
  completedRequests : Nat
  failedRequests : Nat
  quit : Bool
  main : Main

/-- An iteration of the loop and its end, a response callback, a signal, the return of `run()`, and the
report. -/
inductive Act (N : Nat)
  | send
  | run
  | callback (k : Fin N)
  | signal
  | ret
  | report
  deriving DecidableEq

section Steps

variable (requestCount : CInt) (reply : Fin requestCount.val.toNat → Reply)

def start : State requestCount.val.toNat where
  i := 0
  replied := fun _ => false
  totalBytesSent := 0
  completedRequests := 0
  failedRequests := 0
  quit := false
  main := .sending

/-- The two counters that a callback's test of its result chooses from. -/
def updateCounters (s : State requestCount.val.toNat) (k : Fin requestCount.val.toNat) :
    State requestCount.val.toNat :=
  if (reply k).saw200 then { s with totalBytesSent := s.totalBytesSent + dataSize }
  else { s with failedRequests := s.failedRequests + 1 }

/-- The response callback of the request `k`. -/
def callback (s : State requestCount.val.toNat) (k : Fin requestCount.val.toNat) : State requestCount.val.toNat :=
  { updateCounters requestCount reply s k with
    replied := Function.update s.replied k true
    completedRequests := s.completedRequests + 1
    quit := s.quit || s.completedRequests + 1 == expected requestCount }

/-- The number printed as successful: an `int` minus a `size_t`. -/
def successful (s : State requestCount.val.toNat) : Nat := subSize (toSize requestCount.val) s.failedRequests

def next (s : State requestCount.val.toNat) : Act requestCount.val.toNat → Option (State requestCount.val.toNat)
  | .send =>
    if s.main = .sending ∧ (s.i : Int) < requestCount.val then some { s with i := s.i + 1 } else none
  | .run =>
    if s.main = .sending ∧ ¬(s.i : Int) < requestCount.val then some { s with main := .running } else none
  | .callback k =>
    if s.main = .running ∧ k.val < s.i ∧ s.replied k = false then some (callback requestCount reply s k) else none
  | .signal => if s.main = .running then some { s with quit := true } else none
  | .ret => if s.main = .running ∧ s.quit = true then some { s with main := .returned } else none
  | .report =>
    if s.main = .returned then some { s with main := .reported (successful requestCount s) } else none

/-- The program with `reply` the way each request ends. -/
def client : Machine (State requestCount.val.toNat) (Act requestCount.val.toNat) :=
  ⟨start requestCount, next requestCount reply⟩

end Steps

/-! ## The figures of the report -/

section Figures

variable {requestCount : CInt}

/-- The average time of a request: `total_duration / request_count`, a `long` by an `int`. -/
def averageTime (requestCount : CInt) (totalDuration : Int) : Option Int :=
  quotientLong totalDuration requestCount.val

/-- The throughput in MB/s. -/
def throughput (s : State requestCount.val.toNat) (totalDuration : Int) : Option ℚ :=
  quotient ((s.totalBytesSent : ℚ) / (1024 * 1024)) ((totalDuration : ℚ) / 1000)

theorem figures_defined_iff (s : State requestCount.val.toNat) (totalDuration : Int) :
    (averageTime requestCount totalDuration).isSome ∧ (throughput s totalDuration).isSome ↔
      requestCount.val ≠ 0 ∧ totalDuration ≠ 0 := by
  simp only [averageTime, throughput, quotientLong_isSome, quotient_isSome]
  refine and_congr_right fun _ => ?_
  constructor
  · rintro hseconds rfl
    exact hseconds (by simp)
  · intro hduration
    exact div_ne_zero (by exact_mod_cast hduration) (by norm_num)

end Figures

/-! ## What each step does -/

section Spec

variable {requestCount : CInt} {reply : Fin requestCount.val.toNat → Reply}
  {s s' : State requestCount.val.toNat}

/-- A step leaves the callbacks and the failures alone and moves `main` to no report, or is a callback,
or the report. -/
theorem next_cases {a : Act requestCount.val.toNat} (h : next requestCount reply s a = some s') :
    (s'.replied = s.replied ∧ s'.failedRequests = s.failedRequests ∧ ∀ x, s'.main ≠ .reported x) ∨
      (∃ k, s.main = .running ∧ s.replied k = false ∧ s' = callback requestCount reply s k) ∨
      s.main = .returned ∧ s' = { s with main := .reported (successful requestCount s) } := by
  cases a with
  | callback k =>
    simp only [next] at h
    split at h
    · rename_i hk
      cases h
      exact .inr (.inl ⟨k, hk.1, hk.2.2, rfl⟩)
    · cases h
  | report =>
    simp only [next] at h
    split at h
    · rename_i hm
      cases h
      exact .inr (.inr ⟨hm, rfl⟩)
    · cases h
  | send =>
    simp only [next] at h
    split at h
    · rename_i hm
      cases h
      exact .inl ⟨rfl, rfl, fun x hx => by rw [hm.1] at hx; cases hx⟩
    · cases h
  | signal =>
    simp only [next] at h
    split at h
    · rename_i hm
      cases h
      exact .inl ⟨rfl, rfl, fun x hx => by rw [hm] at hx; cases hx⟩
    · cases h
  | run | ret =>
    simp only [next] at h
    split at h
    · cases h
      exact .inl ⟨rfl, rfl, nofun⟩
    · cases h

theorem updateCounters_failed (k : Fin requestCount.val.toNat) :
    (updateCounters requestCount reply s k).failedRequests = s.failedRequests + (!(reply k).saw200).toNat := by
  unfold updateCounters
  split <;> simp_all

end Spec

end HttpSurvey.Drogon.Regular
