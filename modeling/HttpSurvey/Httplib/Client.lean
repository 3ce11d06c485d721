/-
The accounting of the two httplib clients on a sequence of request outcomes: `perform_test` of
`regular_httplib_client` and the loop of `worker_thread` of `concurrent_httplib_client` run by one
thread, in either mode, with the summary each `main` prints. Both keep three counters and raise
them at different places: `perform_test` raises `completed_requests` at the end of every iteration,
`worker_thread` only after a success, so the two summaries agree exactly on the sequences without a
failure.
-/
import Mathlib.Tactic

namespace HttpSurvey.Httplib

/-- The atomics of either client: `total_bytes_sent` or `total_bytes_transferred`,
`completed_requests` and `failed_requests`. -/
structure Counters where
  totalBytes : Nat
  completedRequests : Nat
  failedRequests : Nat
  deriving DecidableEq, Repr

namespace Counters

def zero : Counters := ⟨0, 0, 0⟩

/-- `total_bytes += n`. -/
def addBytes (c : Counters) (n : Nat) : Counters := { c with totalBytes := c.totalBytes + n }

/-- `completed_requests++`. -/
def complete (c : Counters) : Counters := { c with completedRequests := c.completedRequests + 1 }

/-- `failed_requests++`. -/
def fail (c : Counters) : Counters := { c with failedRequests := c.failedRequests + 1 }

@[simp] theorem addBytes_totalBytes (c : Counters) (n : Nat) : (c.addBytes n).totalBytes = c.totalBytes + n := rfl
@[simp] theorem addBytes_completed (c : Counters) (n : Nat) :
    (c.addBytes n).completedRequests = c.completedRequests := rfl
@[simp] theorem addBytes_failed (c : Counters) (n : Nat) : (c.addBytes n).failedRequests = c.failedRequests := rfl
@[simp] theorem complete_totalBytes (c : Counters) : c.complete.totalBytes = c.totalBytes := rfl
@[simp] theorem complete_completed (c : Counters) : c.complete.completedRequests = c.completedRequests + 1 := rfl
@[simp] theorem complete_failed (c : Counters) : c.complete.failedRequests = c.failedRequests := rfl
@[simp] theorem fail_totalBytes (c : Counters) : c.fail.totalBytes = c.totalBytes := rfl
@[simp] theorem fail_completed (c : Counters) : c.fail.completedRequests = c.completedRequests := rfl
@[simp] theorem fail_failed (c : Counters) : c.fail.failedRequests = c.failedRequests + 1 := rfl

end Counters

/-- What `Post` or `Get` leaves behind: the bytes handed to the content receiver of `Get`, and the
status of the result when there is one. -/
structure Outcome where
  received : Nat
  res : Option Int
  deriving DecidableEq, Repr

/-- `res && res->status == 200`. -/
def Outcome.ok (o : Outcome) : Bool := o.res == some 200

section Loops

variable (upload : Bool) (payload : Nat)

/-- One iteration of the loop of `perform_test`, with `payload` its `data_size`. -/
def performTestBody (c : Counters) (o : Outcome) : Counters :=
  let c :=
    if upload then
      if o.ok then c.addBytes payload else c.fail
    else
      if o.ok then c.addBytes o.received else c.fail
  c.complete

def performTest (outcomes : List Outcome) : Counters :=
  outcomes.foldl (performTestBody upload payload) .zero

/-- One iteration of the loop of `worker_thread`, with `payload` the size of `large_data`: the
`success` flag and `bytes_transferred` first, the counters after. -/
def workerThreadBody (c : Counters) (o : Outcome) : Counters :=
  let (success, bytesTransferred) :=
    if upload then
      if o.ok then (true, payload) else (false, 0)
    else
      if o.ok then (true, o.received) else (false, 0)
  if success then c.complete.addBytes bytesTransferred else c.fail

def workerThread (outcomes : List Outcome) : Counters :=
  outcomes.foldl (workerThreadBody upload payload) .zero

end Loops

/-- The counters both `main` functions print: `Successful`, `Failed` and the total bytes. -/
structure Summary where
  successful : Nat
  failed : Nat
  totalBytes : Nat
  deriving DecidableEq, Repr

/-- `Successful: completed_requests`, `Failed: failed_requests`, in either program. -/
def Counters.summary (c : Counters) : Summary := ⟨c.completedRequests, c.failedRequests, c.totalBytes⟩

/-! ## The counters in closed form -/

/-- The bytes an outcome is worth to either client. -/
def Outcome.bytes (upload : Bool) (payload : Nat) (o : Outcome) : Nat :=
  if o.ok then (if upload then payload else o.received) else 0

/-- The outcomes with status 200. -/
def successes (outcomes : List Outcome) : Nat := outcomes.countP Outcome.ok

/-- The outcomes without. -/
def failures (outcomes : List Outcome) : Nat := outcomes.countP fun o => !o.ok

/-- The bytes of a sequence of outcomes. -/
def bytesOf (upload : Bool) (payload : Nat) (outcomes : List Outcome) : Nat :=
  (outcomes.map (Outcome.bytes upload payload)).sum

theorem successes_add_failures (outcomes : List Outcome) :
    successes outcomes + failures outcomes = outcomes.length := by
  rw [List.length_eq_countP_add_countP Outcome.ok]
  simp [successes, failures]

theorem performTestBody_eq (upload : Bool) (payload : Nat) (c : Counters) (o : Outcome) :
    performTestBody upload payload c o =
      ⟨c.totalBytes + o.bytes upload payload, c.completedRequests + 1, c.failedRequests + (!o.ok).toNat⟩ := by
  unfold performTestBody Outcome.bytes
  rcases upload with _ | _ <;> rcases o.ok with _ | _ <;> rfl

theorem workerThreadBody_eq (upload : Bool) (payload : Nat) (c : Counters) (o : Outcome) :
    workerThreadBody upload payload c o =
      ⟨c.totalBytes + o.bytes upload payload, c.completedRequests + o.ok.toNat,
        c.failedRequests + (!o.ok).toNat⟩ := by
  unfold workerThreadBody Outcome.bytes
  rcases upload with _ | _ <;> rcases o.ok with _ | _ <;> rfl

theorem performTest_foldl (upload : Bool) (payload : Nat) (outcomes : List Outcome) (c : Counters) :
    outcomes.foldl (performTestBody upload payload) c =
      ⟨c.totalBytes + bytesOf upload payload outcomes, c.completedRequests + outcomes.length,
        c.failedRequests + failures outcomes⟩ := by
  induction outcomes generalizing c with
  | nil => rfl
  | cons o outcomes ih =>
    rw [List.foldl_cons, ih, performTestBody_eq]
    simp only [bytesOf, failures, List.map_cons, List.sum_cons, List.length_cons, List.countP_cons,
      Counters.mk.injEq]
    cases o.ok <;> simp <;> omega

theorem workerThread_foldl (upload : Bool) (payload : Nat) (outcomes : List Outcome) (c : Counters) :
    outcomes.foldl (workerThreadBody upload payload) c =
      ⟨c.totalBytes + bytesOf upload payload outcomes, c.completedRequests + successes outcomes,
        c.failedRequests + failures outcomes⟩ := by
  induction outcomes generalizing c with
  | nil => rfl
  | cons o outcomes ih =>
    rw [List.foldl_cons, ih, workerThreadBody_eq]
    simp only [bytesOf, successes, failures, List.map_cons, List.sum_cons, List.countP_cons,
      Counters.mk.injEq]
    cases o.ok <;> simp <;> omega

/-- `perform_test` counts every iteration as completed. -/
theorem performTest_summary (upload : Bool) (payload : Nat) (outcomes : List Outcome) :
    (performTest upload payload outcomes).summary =
      ⟨outcomes.length, failures outcomes, bytesOf upload payload outcomes⟩ := by
  unfold performTest
  rw [performTest_foldl]
  simp [Counters.summary, Counters.zero]

/-- `worker_thread` counts the successes as completed. -/
theorem workerThread_summary (upload : Bool) (payload : Nat) (outcomes : List Outcome) :
    (workerThread upload payload outcomes).summary =
      ⟨successes outcomes, failures outcomes, bytesOf upload payload outcomes⟩ := by
  unfold workerThread
  rw [workerThread_foldl]
  simp [Counters.summary, Counters.zero]

/-! ## Agreement -/

/-- A summary reports the outcomes: `Successful` is the number with status 200, and `Successful`
and `Failed` add up to the requests performed. -/
structure Summary.Reports (s : Summary) (outcomes : List Outcome) : Prop where
  successful : s.successful = successes outcomes
  total : s.successful + s.failed = outcomes.length

/-- The two clients agree on a sequence of outcomes: the same summary, which reports it. -/
structure ClientsAgree (upload : Bool) (payload : Nat) (outcomes : List Outcome) : Prop where
  same : (performTest upload payload outcomes).summary = (workerThread upload payload outcomes).summary
  regular : (performTest upload payload outcomes).summary.Reports outcomes
  concurrent : (workerThread upload payload outcomes).summary.Reports outcomes

/-- The concurrent client's summary always reports the outcomes. -/
theorem workerThread_reports (upload : Bool) (payload : Nat) (outcomes : List Outcome) :
    (workerThread upload payload outcomes).summary.Reports outcomes := by
  rw [workerThread_summary]
  exact ⟨rfl, successes_add_failures outcomes⟩

theorem failures_eq_zero {outcomes : List Outcome} : failures outcomes = 0 ↔ ∀ o ∈ outcomes, o.ok = true := by
  simp [failures, List.countP_eq_zero]

/-- The two clients agree exactly on the sequences in which every request ends with status 200. -/
theorem clients_agree_iff (upload : Bool) (payload : Nat) (outcomes : List Outcome) :
    ClientsAgree upload payload outcomes ↔ ∀ o ∈ outcomes, o.ok = true := by
  rw [← failures_eq_zero]
  have hsum := successes_add_failures outcomes
  constructor
  · intro h
    have htotal := h.regular.total
    rw [performTest_summary] at htotal
    change outcomes.length + failures outcomes = outcomes.length at htotal
    omega
  · intro h
    have hlen : outcomes.length = successes outcomes := by omega
    have hsame : (performTest upload payload outcomes).summary = (workerThread upload payload outcomes).summary := by
      rw [performTest_summary, workerThread_summary, hlen]
    have hcon := workerThread_reports upload payload outcomes
    exact ⟨hsame, hsame ▸ hcon, hcon⟩

/-- One upload that got no result: `perform_test` reports one success beside its one failure. -/
theorem failed_upload_counted :
    (performTest true (30 * 1024) [⟨0, none⟩]).summary = ⟨1, 1, 0⟩ ∧
    (workerThread true (30 * 1024) [⟨0, none⟩]).summary = ⟨0, 1, 0⟩ ∧
    ¬ ClientsAgree true (30 * 1024) [⟨0, none⟩] := by
  refine ⟨by decide, by decide, fun h => ?_⟩
  have hsame := h.same
  revert hsame
  decide

end HttpSurvey.Httplib
