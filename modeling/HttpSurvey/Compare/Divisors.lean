/-
The divisors of the final summaries of four clients: the requests counted, the number of requests asked
for, and the total time truncated to milliseconds. The arguments are checked for some of them and the
outcomes and the clock for none, so a summary may divide by 0; it does not exactly when a millisecond has
passed and, for the Beast clients, a request has not failed or, for `regular_drogon_client`, the number of
requests is not 0 (`summaries_defined_iff`).
-/
import HttpSurvey.Beast.TimedRegularClient
import HttpSurvey.Beast.TimedReport
import HttpSurvey.Drogon.RegularClient
import HttpSurvey.Httplib.Report

namespace HttpSurvey.Compare

open HttpSurvey.Lib
open HttpSurvey.Beast.Client

/-- No figure is a quotient with divisor 0. -/
def Defined (figures : List (Option ℚ)) : Prop := ∀ x ∈ figures, x.isSome

/-- A summary of either Beast client over the calls `attempts`. -/
theorem beast_defined_iff {size : UInt64} {attempts : List Attempt} {ns : Int} (h : 0 ≤ ns) :
    Defined (Summary.figures ⟨Regular.requestLoop size 0 attempts, durationCast ns⟩) ↔
      (∃ a ∈ attempts, a.fails = false) ∧ 1000000 ≤ ns :=
  (Summary.figures_defined_iff _).trans
    (and_congr (requestsSent_ne_zero_iff size attempts) (toMilliseconds_ne_zero h))

theorem regularBeast_defined_iff {clock : Nat → Int} (hclock : Monotone clock) (config : Regular.Config)
    (operations : Fin config.requestsCount.val.toNat → Operations) :
    ∃ requestStats summary n, Regular.Timed.main clock config operations 0 = .ok (requestStats, summary) n ∧
      (Defined summary.figures ↔ (∃ i, (operations i).fails = false) ∧
        1000000 ≤ clock (Regular.Timed.positionAfter 1 (List.ofFn operations)) - clock 0) := by
  refine ⟨_, _, _, Regular.Timed.main_run clock config operations, ?_⟩
  have hle := hclock (Nat.zero_le (Regular.Timed.positionAfter 1 (List.ofFn operations)))
  refine (beast_defined_iff (by omega)).trans (and_congr_left fun _ => ?_)
  rw [Regular.Timed.exists_measured_iff]
  simp [List.mem_ofFn]

theorem mem_allAttempts {T R : Nat} (attempt : Fin T → Fin R → Attempt) (a : Attempt) :
    a ∈ (Concurrent.allAttempts attempt).flatten ↔ ∃ t r, attempt t r = a := by
  simp [Concurrent.allAttempts, Concurrent.attempts, List.mem_flatten, List.mem_ofFn]

theorem concurrentBeast_defined_iff {T R : Nat} {size : UInt64} {attempt : Fin T → Fin R → Attempt}
    {clientStart : Int} {s : Concurrent.Timed T}
    (h : (Concurrent.timedClient size attempt clientStart).Reachable s) {totalStats : Stats}
    (hm : s.program.main = .reported totalStats) {clientEnd : Int} (hend : s.clientEnd = some clientEnd) :
    Defined (Summary.figures ⟨totalStats, durationCast (clientEnd - clientStart)⟩) ↔
      (∃ t r, (attempt t r).fails = false) ∧ 1000000 ≤ clientEnd - clientStart := by
  have hle := Concurrent.clientStart_le h hm hend
  have htotal := ((Concurrent.inv_reachable (Concurrent.program_reachable h)).reported totalStats hm).2
  rw [htotal]
  refine (beast_defined_iff (by omega)).trans (and_congr_left fun _ => ?_)
  simp only [mem_allAttempts]
  constructor
  · rintro ⟨_, ⟨t, r, rfl⟩, hf⟩
    exact ⟨t, r, hf⟩
  · rintro ⟨t, r, hf⟩
    exact ⟨_, ⟨t, r, rfl⟩, hf⟩

theorem httplib_defined_iff (a : Httplib.Arguments) (outcomes : List Httplib.Outcome) {start stop : Int}
    (h : start ≤ stop) : Defined (Httplib.report a outcomes start stop).figures ↔ 1000000 ≤ stop - start :=
  (Httplib.Report.figures_defined_iff _).trans (toMilliseconds_ne_zero (by omega))

theorem regularDrogon_defined_iff {requestCount : CInt} (s : Drogon.Regular.State requestCount.val.toNat)
    {start stop : Int} (h : start ≤ stop) :
    (Drogon.Regular.averageTime requestCount (toMilliseconds (stop - start))).isSome ∧
        (Drogon.Regular.throughput s (toMilliseconds (stop - start))).isSome ↔
      requestCount.val ≠ 0 ∧ 1000000 ≤ stop - start :=
  (Drogon.Regular.figures_defined_iff s _).trans
    (and_congr_right fun _ => toMilliseconds_ne_zero (by omega))

/-- For every command line that is accepted, whatever the requests come to and for every clock that does
not go back: the figures of a final summary are all defined exactly when a millisecond has passed and,
for the Beast clients, a request has not failed, or, for `regular_drogon_client`, the number of requests
is not 0. -/
theorem summaries_defined_iff (program : String) (args : List (List Char)) :
    (∀ config, Regular.parseArguments program args = .ok config → ∀ clock, Monotone clock →
      ∀ operations, ∃ requestStats summary n,
        Regular.Timed.main clock config operations 0 = .ok (requestStats, summary) n ∧
          (Defined summary.figures ↔ (∃ i, (operations i).fails = false) ∧
            1000000 ≤ clock (Regular.Timed.positionAfter 1 (List.ofFn operations)) - clock 0)) ∧
    (∀ config, Concurrent.parseArguments program args = .ok config →
      ∀ (attempt : Fin config.threadCount.val.toNat → Fin config.requestsPerThread.val.toNat → Attempt) clientStart s,
        (Concurrent.timedClient (UInt64.ofNat config.dataSizeBytes) attempt clientStart).Reachable s →
        ∀ totalStats clientEnd, s.program.main = .reported totalStats → s.clientEnd = some clientEnd →
          (Defined (Summary.figures ⟨totalStats, durationCast (clientEnd - clientStart)⟩) ↔
            (∃ t r, (attempt t r).fails = false) ∧ 1000000 ≤ clientEnd - clientStart)) ∧
    (∀ a, Httplib.arguments program args = .ok a → ∀ outcomes start stop, start ≤ stop →
      (Defined (Httplib.report a outcomes start stop).figures ↔ 1000000 ≤ stop - start)) ∧
    ∀ a, Drogon.Regular.arguments program args = .ok a → ∀ reply s,
      (Drogon.Regular.client a.requestCount reply).Reachable s → s.main = .returned → ∀ start stop, start ≤ stop →
        ((Drogon.Regular.averageTime a.requestCount (toMilliseconds (stop - start))).isSome ∧
            (Drogon.Regular.throughput s (toMilliseconds (stop - start))).isSome ↔
          a.requestCount.val ≠ 0 ∧ 1000000 ≤ stop - start) := by
  refine ⟨?_, ?_, ?_, ?_⟩
  · intro config _ clock hclock operations
    exact regularBeast_defined_iff hclock config operations
  · intro config _ attempt clientStart s hs totalStats clientEnd hm hend
    exact concurrentBeast_defined_iff hs hm hend
  · intro a _ outcomes start stop hle
    exact httplib_defined_iff a outcomes hle
  · intro a _ reply s _ _ start stop hle
    exact regularDrogon_defined_iff s hle

theorem one_range : -2 ^ 31 ≤ (1 : Int) ∧ (1 : Int) < 2 ^ 31 := by decide

/-- One request of 1 MB. -/
def oneRequest : Regular.Config := ⟨['h'], 8080, 1, ⟨1, one_range⟩⟩

/-- It is refused, or answered. -/
def single (refused : Bool) (_ : Fin oneRequest.requestsCount.val.toNat) : Operations where
  resolve := .ok ()
  connect := if refused then .error "Connection refused" else .ok ()
  prepare := .ok ()
  write := .ok ()
  read := .ok ⟨200, ""⟩
  report := .ok ()

/-- A reading every `step` nanoseconds. -/
def steadily (step : Nat) (k : Nat) : Int := step * k

theorem steadily_monotone (step : Nat) : Monotone (steadily step) := by
  intro i j hij
  unfold steadily
  exact_mod_cast Nat.mul_le_mul_left step hij

/-- One thread with one request that is answered after 1 ms. -/
def answeredOnce (_ : Fin 1) (_ : Fin 1) : Attempt :=
  ⟨.ok (), .ok (), .ok (), .ok (), .ok ⟨200, ""⟩, .ok (), 0, 1000000⟩

def answeredOnceSchedule : List (Concurrent.Event 1) :=
  [.act .spawn, .act .leave, .writeStart 0, .tick 1000000, .readEnd 0, .finish 0, .act (.publish 0), .act .join,
    .act .leave, .act .sum, .clientEnd]

/-- One request is asked of `regular_drogon_client`. -/
def oneAsked : CInt := ⟨1, one_range⟩

/-- One request to each of the servers, with a millisecond between the readings. -/
theorem summaries_defined_one :
    (∃ requestStats summary n,
      Regular.Timed.main (steadily 1000000) oneRequest (single false) 0 = .ok (requestStats, summary) n ∧
        Defined summary.figures) ∧
    Defined (Summary.figures ⟨⟨30720, 1, 1⟩, durationCast (1000000 - 0)⟩) ∧
    (∃ a, Httplib.arguments "client" [['h'], ['8', '0'], ['1'], ['1'], ['u', 'p', 'l', 'o', 'a', 'd']] = .ok a ∧
      Defined (Httplib.report a [⟨0, some 200⟩] 0 1000000).figures) ∧
    (Drogon.Regular.averageTime oneAsked (toMilliseconds (1000000 - 0))).isSome := by
  refine ⟨?_, ?_, ?_, ?_⟩
  · obtain ⟨requestStats, summary, n, hrun, hiff⟩ :=
      (summaries_defined_iff "client" [['h'], ['8', '0', '8', '0'], ['1'], ['1']]).1 oneRequest (by decide)
        (steadily 1000000) (steadily_monotone 1000000) (single false)
    exact ⟨requestStats, summary, n, hrun, hiff.2 ⟨⟨⟨0, by decide⟩, by decide⟩, by decide⟩⟩
  · have hrun : ((Concurrent.timedClient 30720 answeredOnce 0).run answeredOnceSchedule).any (fun s =>
        decide (s.program.main = .reported ⟨30720, 1, 1⟩ ∧ s.clientEnd = some 1000000)) = true := by decide +kernel
    obtain ⟨s, hs, hp⟩ := Machine.exists_run hrun
    obtain ⟨hm, hend⟩ := of_decide_eq_true hp
    exact ((summaries_defined_iff "client" [['h'], ['8', '0', '8', '0'], ['1'], ['1']]).2.1
      ⟨['h'], 8080, 30 * 1024, ⟨1, by decide⟩, ⟨1, by decide⟩⟩ (by decide) answeredOnce 0 s ⟨_, hs⟩ _ _ hm hend).2
      ⟨⟨⟨0, by decide⟩, ⟨0, by decide⟩, by decide⟩, by decide⟩
  · refine ⟨⟨['h'], ⟨80, by decide⟩, ⟨1, by decide⟩, ⟨1, by decide⟩, true⟩, by decide, ?_⟩
    exact ((summaries_defined_iff "client" [['h'], ['8', '0'], ['1'], ['1'], ['u', 'p', 'l', 'o', 'a', 'd']]).2.2.1
      _ (by decide) _ 0 1000000 (by decide)).2 (by decide)
  · have hrun : ((Drogon.Regular.client oneAsked fun _ => ⟨true, some 200⟩).run
        [.send, .run, .callback ⟨0, by decide⟩, .ret]).any (fun s => decide (s.main = .returned)) = true := by
      decide +kernel
    obtain ⟨s, hs, hp⟩ := Machine.exists_run hrun
    exact (((summaries_defined_iff "client" [['h'], ['8', '0'], ['1']]).2.2.2 ⟨['h'], 80, oneAsked⟩ (by decide) _ s
      ⟨_, hs⟩ (of_decide_eq_true hp) 0 1000000 (by decide)).2 ⟨by decide, by decide⟩).1

/-- No request of `regular_drogon_client` is asked for, and a signal ends its event loop. -/
def noRequests : CInt := ⟨0, by decide⟩

/-- All requests of a Beast client are refused within a millisecond; an httplib client has no thread to
start; a signal ends a drogon client that was asked for no request. -/
theorem zero_divisors :
    (Regular.parseArguments "client" [['h'], ['8', '0', '8', '0'], ['1'], ['1']] = .ok oneRequest ∧
      ∃ requestStats summary n,
        Regular.Timed.main (steadily 100000) oneRequest (single true) 0 = .ok (requestStats, summary) n ∧
          summary.averageRequestTime = none ∧ summary.networkEfficiency = none ∧ ¬Defined summary.figures) ∧
    (∃ a, Httplib.arguments "client" [['h'], ['8', '0'], ['0'], ['1'], ['u', 'p', 'l', 'o', 'a', 'd']] = .ok a ∧
      ¬Defined (Httplib.report a [] 0 100000).figures) ∧
    ∃ a, Drogon.Regular.arguments "client" [['h'], ['8', '0'], ['0']] = .ok a ∧ a.requestCount = noRequests ∧
      (∃ s, (Drogon.Regular.client noRequests nofun).run [.run, .signal, .ret] = some s ∧ s.main = .returned) ∧
      Drogon.Regular.averageTime noRequests (toMilliseconds 5000000000) = none := by
  refine ⟨⟨by decide, ?_⟩, ⟨⟨['h'], ⟨80, by decide⟩, ⟨0, by decide⟩, ⟨1, by decide⟩, true⟩, by decide, ?_⟩, ?_⟩
  · have hrun : Regular.Timed.main (steadily 100000) oneRequest (single true) 0 = .ok ([], ⟨0, 0⟩) 3 := by rfl
    have haverage : (⟨0, 0⟩ : Summary).averageRequestTime = none := by simp [Summary.averageRequestTime, quotient]
    have hefficiency : (⟨0, 0⟩ : Summary).networkEfficiency = none := by simp [Summary.networkEfficiency, quotient]
    refine ⟨_, _, _, hrun, haverage, hefficiency, fun hdefined => ?_⟩
    exact absurd ((Summary.figures_defined_iff _).1 hdefined).2 (by simp)
  · intro hdefined
    exact absurd ((httplib_defined_iff _ _ (by decide)).1 hdefined) (by decide)
  · refine ⟨⟨['h'], 80, noRequests⟩, by decide, rfl, ⟨_, rfl, rfl⟩, ?_⟩
    simp [Drogon.Regular.averageTime, quotientLong, noRequests]

end HttpSurvey.Compare
