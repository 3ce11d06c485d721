/-
The arguments and the summary of `main` of `concurrent_httplib_client`. The numbers go through
`std::stoi` and are not checked. The threads raise the atomics with each outcome; the figures of the
summary are exact rational numbers, or none where the divisor is 0, which it is when less than a
millisecond has passed (`Report.figures_defined_iff`).
-/
import HttpSurvey.Drogon.Arguments
import HttpSurvey.Httplib.Upload
import HttpSurvey.Lib.Clock

namespace HttpSurvey.Httplib

open HttpSurvey.Lib
open HttpSurvey.Drogon (Abort number)

/-- What `main` reads from its arguments. -/
structure Arguments where
  host : List Char
  port : CInt
  threadCount : CInt
  requestsPerThread : CInt
  upload : Bool
  deriving DecidableEq, Repr

def arguments (program : String) : List (List Char) → Except Abort Arguments
  | [host, port, threads, requestsPerThread, mode] => do
    let port ← number port
    let threadCount ← number threads
    let requestsPerThread ← number requestsPerThread
    return ⟨host, port, threadCount, requestsPerThread, mode == ['u', 'p', 'l', 'o', 'a', 'd']⟩
  | _ => .error (.usage
      ["Usage: " ++ program ++ " <host> <port> <threads> <requests_per_thread> <upload|download>",
        "Example: " ++ program ++ " localhost 8848 10 5 upload"])

/-- What the summary is printed from: the product of the two counts, the atomics, and `duration` in
milliseconds. -/
structure Report where
  totalRequests : Option CInt
  counters : Counters
  duration : Int

/-- The summary after the joins. `outcomes` are those of all threads, in the order in which they raise
the atomics. -/
def report (a : Arguments) (outcomes : List Outcome) (start stop : Int) : Report where
  totalRequests := a.threadCount.mul a.requestsPerThread
  counters := workerThread a.upload uploadSize outcomes
  duration := toMilliseconds (stop - start)

namespace Report

/-- `total_mb`. -/
def totalMb (r : Report) : ℚ := (r.counters.totalBytes : ℚ) / (1024 * 1024)

/-- `mbps`. -/
def mbps (r : Report) : Option ℚ := quotient ((r.counters.totalBytes : ℚ) * 8) ((r.duration : ℚ) * 1000)

/-- The throughput in MB/s. -/
def mbPerSecond (r : Report) : Option ℚ := quotient r.totalMb ((r.duration : ℚ) / 1000)

/-- "Req/s". -/
def requestsPerSecond (r : Report) : Option ℚ := quotient ((r.counters.completedRequests : ℚ) * 1000) r.duration

/-- The figures that are quotients, as they are printed. -/
def figures (r : Report) : List (Option ℚ) := [r.mbps, r.mbPerSecond, r.requestsPerSecond]

theorem figures_defined_iff (r : Report) : (∀ x ∈ r.figures, x.isSome) ↔ r.duration ≠ 0 := by
  simp only [figures, List.forall_mem_cons, mbps, mbPerSecond, requestsPerSecond, quotient_isSome]
  constructor
  · rintro ⟨-, -, hduration, -⟩
    exact_mod_cast hduration
  · intro hduration
    have hms : (r.duration : ℚ) ≠ 0 := by exact_mod_cast hduration
    exact ⟨mul_ne_zero hms (by norm_num), div_ne_zero hms (by norm_num), hms, nofun⟩

end Report

end HttpSurvey.Httplib
