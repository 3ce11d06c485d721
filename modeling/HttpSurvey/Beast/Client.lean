/-
`send_request` of the two Beast clients and the accumulation of its `Stats`. Both programs perform the
same exchange; `regular_beast_client` lets its exceptions out to the loop in `main`, which skips the
request, and `concurrent_beast_client` catches them inside and returns an empty `Stats`, which the loop
of the thread adds. An attempt gives what each operation of one call came to and the two clock readings
that its duration is made of, in nanoseconds.

`bytes_transferred` is a `size_t` and wraps; `requests_sent` is raised once for a request at most and
stays far below its wrap. What the programs log is left out.
-/
import Mathlib.Algebra.BigOperators.Group.List.Basic
import Mathlib.Tactic

namespace HttpSurvey.Beast.Client

/-- `struct Stats`, with the duration in milliseconds. -/
@[ext] structure Stats where
  bytesTransferred : UInt64
  duration : Int
  requestsSent : Nat
  deriving DecidableEq, Repr

namespace Stats

/-- `Stats{}`. -/
instance : Zero Stats := ⟨⟨0, 0, 0⟩⟩

/-- The three `+=` of an accumulation. -/
instance : Add Stats := ⟨fun s t => ⟨s.bytesTransferred + t.bytesTransferred, s.duration + t.duration,
  s.requestsSent + t.requestsSent⟩⟩

@[simp] theorem zero_bytesTransferred : (0 : Stats).bytesTransferred = 0 := rfl
@[simp] theorem zero_duration : (0 : Stats).duration = 0 := rfl
@[simp] theorem zero_requestsSent : (0 : Stats).requestsSent = 0 := rfl
@[simp] theorem add_bytesTransferred (s t : Stats) :
    (s + t).bytesTransferred = s.bytesTransferred + t.bytesTransferred := rfl
@[simp] theorem add_duration (s t : Stats) : (s + t).duration = s.duration + t.duration := rfl
@[simp] theorem add_requestsSent (s t : Stats) : (s + t).requestsSent = s.requestsSent + t.requestsSent := rfl

instance : AddCommMonoid Stats where
  add_assoc s t u := by ext <;> simp [UInt64.add_assoc, Int.add_assoc, Nat.add_assoc]
  zero_add s := by ext <;> simp
  add_zero s := by ext <;> simp
  add_comm s t := by ext <;> simp [UInt64.add_comm, Int.add_comm, Nat.add_comm]
  nsmul := nsmulRec

end Stats

/-- `http::response<http::string_body>`, as far as its status and body. -/
structure Response where
  status : Nat
  body : String
  deriving DecidableEq, Repr

/-- What the operations of one call of `send_request` come to, exceptions by their `what()`: resolving
the host, connecting, building and logging the request, writing it, reading the response, logging it;
and the readings of the clock before the write and after the read. -/
structure Attempt where
  resolve : Except String Unit
  connect : Except String Unit
  prepare : Except String Unit
  write : Except String Unit
  read : Except String Response
  report : Except String Unit
  writeStart : Int
  readEnd : Int

/-- `duration_cast<milliseconds>` of nanoseconds, which truncates. -/
def durationCast (ns : Int) : Int := ns.tdiv 1000000

/-- The statements that both versions of `send_request` share, with `size` the size of the payload. -/
def exchange (size : UInt64) (a : Attempt) : Except String Stats := do
  a.resolve
  a.connect
  a.prepare
  a.write
  let _ ← a.read
  a.report
  return { bytesTransferred := size, duration := durationCast (a.readEnd - a.writeStart), requestsSent := 1 }

namespace Regular

/-- `send_request` of `regular_beast_client`. -/
def sendRequest (size : UInt64) (a : Attempt) : Except String Stats := exchange size a

/-- One iteration of the loop in `main`: the `catch` leaves `total_stats` as it is. -/
def iteration (size : UInt64) (totalStats : Stats) (a : Attempt) : Stats :=
  match sendRequest size a with
  | .ok stats => totalStats + stats
  | .error _ => totalStats

/-- The loop in `main`, from `total_stats` on. -/
def requestLoop (size : UInt64) (totalStats : Stats) (attempts : List Attempt) : Stats :=
  attempts.foldl (iteration size) totalStats

end Regular

namespace Concurrent

/-- `send_request` of `concurrent_beast_client`. -/
def sendRequest (size : UInt64) (a : Attempt) : Stats :=
  match exchange size a with
  | .ok stats => stats
  | .error _ => 0

/-- One iteration of the loop of a thread. -/
def iteration (size : UInt64) (threadStat : Stats) (a : Attempt) : Stats := threadStat + sendRequest size a

end Concurrent

/-! ## The loop as a sum -/

/-- The call of `send_request` fails. -/
def Attempt.fails (a : Attempt) : Bool := !(exchange 0 a).isOk

theorem Regular.iteration_eq (size : UInt64) (totalStats : Stats) (a : Attempt) :
    Regular.iteration size totalStats a = totalStats + Concurrent.sendRequest size a := by
  unfold Regular.iteration Regular.sendRequest Concurrent.sendRequest
  cases exchange size a with
  | ok stats => rfl
  | error what => exact (add_zero totalStats).symm

theorem Regular.requestLoop_eq (size : UInt64) (totalStats : Stats) (attempts : List Attempt) :
    Regular.requestLoop size totalStats attempts =
      totalStats + (attempts.map (Concurrent.sendRequest size)).sum := by
  unfold Regular.requestLoop
  induction attempts generalizing totalStats with
  | nil => exact (add_zero totalStats).symm
  | cons a attempts ih =>
    rw [List.foldl_cons, ih, Regular.iteration_eq, List.map_cons, List.sum_cons, add_assoc]

/-- Whether a call fails does not depend on the payload, and a call that does not counts one request
and the payload. -/
theorem exchange_cases (size : UInt64) (a : Attempt) :
    (a.fails = true ∧ ∃ what, exchange size a = .error what) ∨
      (a.fails = false ∧ exchange size a =
        .ok ⟨size, durationCast (a.readEnd - a.writeStart), 1⟩) := by
  unfold Attempt.fails exchange
  cases a.resolve with
  | error what => exact .inl ⟨rfl, what, rfl⟩
  | ok =>
    cases a.connect with
    | error what => exact .inl ⟨rfl, what, rfl⟩
    | ok =>
      cases a.prepare with
      | error what => exact .inl ⟨rfl, what, rfl⟩
      | ok =>
        cases a.write with
        | error what => exact .inl ⟨rfl, what, rfl⟩
        | ok =>
          cases a.read with
          | error what => exact .inl ⟨rfl, what, rfl⟩
          | ok res =>
            cases a.report with
            | error what => exact .inl ⟨rfl, what, rfl⟩
            | ok => exact .inr ⟨rfl, rfl⟩

theorem sendRequest_of_fails {size : UInt64} {a : Attempt} (h : a.fails = true) :
    Concurrent.sendRequest size a = 0 := by
  unfold Concurrent.sendRequest
  rcases exchange_cases size a with ⟨-, what, hx⟩ | ⟨hf, -⟩
  · rw [hx]
  · rw [h] at hf
    cases hf

theorem sendRequest_of_not_fails {size : UInt64} {a : Attempt} (h : a.fails = false) :
    Concurrent.sendRequest size a = ⟨size, durationCast (a.readEnd - a.writeStart), 1⟩ := by
  unfold Concurrent.sendRequest
  rcases exchange_cases size a with ⟨hf, -⟩ | ⟨-, hx⟩
  · rw [h] at hf
    cases hf
  · rw [hx]

/-- Every request is counted or has failed. -/
theorem requestsSent_add_fails (size : UInt64) (attempts : List Attempt) :
    (attempts.map (Concurrent.sendRequest size)).sum.requestsSent + attempts.countP Attempt.fails =
      attempts.length := by
  induction attempts with
  | nil => rfl
  | cons a attempts ih =>
    rw [List.map_cons, List.sum_cons, Stats.add_requestsSent, List.countP_cons, List.length_cons]
    cases h : a.fails with
    | true =>
      rw [sendRequest_of_fails h, Stats.zero_requestsSent, if_pos rfl]
      omega
    | false =>
      rw [sendRequest_of_not_fails h, if_neg Bool.false_ne_true]
      change 1 + _ + _ = _
      omega

end HttpSurvey.Beast.Client
