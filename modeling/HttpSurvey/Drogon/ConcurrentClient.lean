/-
`concurrent_drogon_client`: the worker threads of `main`, each running one call of `sendRequests`,
and the response callbacks of the requests they send, as one machine that interleaves their atomic
steps. `T` is `thread_count`, `R` is `requests_per_thread`, and `reply` says how each request ends.

A call of `sendRequests` is a frame that owns its by-value parameter `data_size` and is popped
when its loop ends. The callback captures `data_size` by reference (`[&, i, requests_per_thread]`),
so its success update reads the frame: `readDataSize` gives the parameter while the frame is live
and whatever is left at that address, the `garbage` of the label, once it is popped. The atomic
counters live in `main`, which outlives every callback. A counter of at most `2 ^ 31` updates does
not wrap and is a natural number; the quit test compares it after the conversion of the `int`
product to `size_t`.
-/
import HttpSurvey.Lib.Machine
import HttpSurvey.Lib.Tally
import HttpSurvey.Lib.Word

namespace HttpSurvey.Drogon

open HttpSurvey.Lib

/-- The arguments of a response callback: whether `result == ReqResult::Ok`, and the status code
of `resp` when it is not null. -/
structure Reply where
  ok : Bool
  resp : Option Nat
  deriving DecidableEq, Repr

/-- The two nested tests of the callback: `result == ReqResult::Ok && resp`, then `k200OK`. -/
def Reply.saw200 (r : Reply) : Bool := r.ok && r.resp == some 200

/-- `data_size` in `main` (30 KB). -/
def dataSize : Nat := 30 * 1024

/-- The frame of a call of `sendRequests`: the loop variable and the by-value parameter. -/
structure Frame where
  i : Nat
  dataSize : Nat
  deriving DecidableEq, Repr

/-- A worker thread: before, inside and after its call of `sendRequests`. -/
inductive Worker
  | spawned
  | running (f : Frame)
  | returned
  deriving DecidableEq, Repr

/-- How many requests the loop of a worker has sent. -/
def Worker.sent (R : Nat) : Worker → Nat
  | .spawned => 0
  | .running f => f.i
  | .returned => R

/-- A request and its callback: not sent, sent, and then after each atomic step of the callback:
the success or failure update, `completed_requests++`, the comparison that decides to quit, and
the end. -/
inductive Callback
  | unsent
  | outstanding
  | updated
  | counted
  | quitting
  | done
  deriving DecidableEq, Repr

/-- The success or failure update has happened. -/
def Callback.isUpdated : Callback → Bool
  | .unsent | .outstanding => false
  | .updated | .counted | .quitting | .done => true

/-- `completed_requests++` has happened. -/
def Callback.isCounted : Callback → Bool
  | .unsent | .outstanding | .updated => false
  | .counted | .quitting | .done => true

/-- The workers, the callbacks of the requests `(t, i)`, the atomics of `main` and the number of
calls of `getLoop()->quit()`. -/
structure Client (T R : Nat) where
  worker : Fin T → Worker
  callback : Fin T × Fin R → Callback
  totalBytesSent : Nat
  completedRequests : Nat
  failedRequests : Nat
  quits : Nat

/-- The atomic steps. -/
inductive Act (T R : Nat)
  /-- The thread `t` calls `sendRequests(…, data_size, …)`. -/
  | call (t : Fin T)
  /-- One iteration of its loop: `client->sendRequest(req, callback)`. -/
  | send (t : Fin T)
  /-- Its loop ends and `sendRequests` returns. -/
  | ret (t : Fin T)
  /-- The callback of a request performs its success or failure update. -/
  | update (k : Fin T × Fin R) (garbage : Nat)
  /-- `completed_requests++`. -/
  | count (k : Fin T × Fin R)
  /-- `if (completed_requests == requests_per_thread * thread_count)`. -/
  | compare (k : Fin T × Fin R)
  /-- `app().getLoop()->quit()`. -/
  | quit (k : Fin T × Fin R)
  deriving DecidableEq

/-- What `data_size` reads as in a callback of the worker's call. -/
def readDataSize (w : Worker) (garbage : Nat) : Nat :=
  match w with
  | .running f => f.dataSize
  | .spawned | .returned => garbage

/-- The quit test: an atomic `size_t` against the `int` product. -/
def quitTest (completed : Nat) (requestsPerThread threadCount : Int) : Bool :=
  completed == toSize (requestsPerThread * threadCount)

section Steps

variable {T R : Nat} (reply : Fin T × Fin R → Reply)

def start : Client T R where
  worker := fun _ => .spawned
  callback := fun _ => .unsent
  totalBytesSent := 0
  completedRequests := 0
  failedRequests := 0
  quits := 0

/-- The success or failure update of a callback. -/
def updateCounters (s : Client T R) (k : Fin T × Fin R) (garbage : Nat) : Client T R :=
  if (reply k).saw200 then
    { s with totalBytesSent := s.totalBytesSent + readDataSize (s.worker k.1) garbage }
  else
    { s with failedRequests := s.failedRequests + 1 }

def next (s : Client T R) : Act T R → Option (Client T R)
  | .call t =>
    match s.worker t with
    | .spawned => some { s with worker := Function.update s.worker t (.running ⟨0, dataSize⟩) }
    | _ => none
  | .send t =>
    match s.worker t with
    | .running f =>
      if h : f.i < R then
        some { s with
          worker := Function.update s.worker t (.running { f with i := f.i + 1 })
          callback := Function.update s.callback (t, ⟨f.i, h⟩) .outstanding }
      else none
    | _ => none
  | .ret t =>
    match s.worker t with
    | .running f =>
      if f.i < R then none else some { s with worker := Function.update s.worker t .returned }
    | _ => none
  | .update k garbage =>
    match s.callback k with
    | .outstanding =>
      some { updateCounters reply s k garbage with callback := Function.update s.callback k .updated }
    | _ => none
  | .count k =>
    match s.callback k with
    | .updated =>
      some { s with
        callback := Function.update s.callback k .counted
        completedRequests := s.completedRequests + 1 }
    | _ => none
  | .compare k =>
    match s.callback k with
    | .counted =>
      some { s with
        callback := Function.update s.callback k
          (if quitTest s.completedRequests R T then .quitting else .done) }
    | _ => none
  | .quit k =>
    match s.callback k with
    | .quitting =>
      some { s with callback := Function.update s.callback k .done, quits := s.quits + 1 }
    | _ => none

/-- The program with `reply` the way each request ends. -/
def client : Machine (Client T R) (Act T R) := ⟨start, next reply⟩

/-- Every worker has returned and every callback that was issued has run to its end. -/
def Quiescent (s : Client T R) : Prop :=
  (∀ t, s.worker t = .returned) ∧ ∀ k, s.callback k = .unsent ∨ s.callback k = .done

/-- The number printed as successful: `total_requests - failed_requests`, an `int` minus a
`size_t`. -/
def reportedSuccessful (s : Client T R) : Nat := subSize (toSize ((R : Int) * T)) s.failedRequests

/-! ## What each step does -/

variable {reply}
variable {s s' : Client T R}

theorem next_call {t : Fin T} (h : next reply s (.call t) = some s') :
    s.worker t = .spawned ∧ s' = { s with worker := Function.update s.worker t (.running ⟨0, dataSize⟩) } := by
  simp only [next] at h
  split at h
  · rename_i hw; cases h; exact ⟨hw, rfl⟩
  · cases h

theorem next_send {t : Fin T} (h : next reply s (.send t) = some s') :
    ∃ (f : Frame) (hi : f.i < R), s.worker t = .running f ∧ s' = { s with
      worker := Function.update s.worker t (.running { f with i := f.i + 1 })
      callback := Function.update s.callback (t, ⟨f.i, hi⟩) .outstanding } := by
  simp only [next] at h
  split at h
  · rename_i f hw
    split at h
    · rename_i hi; cases h; exact ⟨f, hi, hw, rfl⟩
    · cases h
  · cases h

theorem next_ret {t : Fin T} (h : next reply s (.ret t) = some s') :
    ∃ f, s.worker t = .running f ∧ R ≤ f.i ∧
      s' = { s with worker := Function.update s.worker t .returned } := by
  simp only [next] at h
  split at h
  · rename_i f hw
    split at h
    · cases h
    · rename_i hi; cases h; exact ⟨f, hw, by omega, rfl⟩
  · cases h

theorem next_update {k : Fin T × Fin R} {g : Nat} (h : next reply s (.update k g) = some s') :
    s.callback k = .outstanding ∧
      s' = { updateCounters reply s k g with callback := Function.update s.callback k .updated } := by
  simp only [next] at h
  split at h
  · rename_i hc; cases h; exact ⟨hc, rfl⟩
  · cases h

theorem next_count {k : Fin T × Fin R} (h : next reply s (.count k) = some s') :
    s.callback k = .updated ∧ s' = { s with
      callback := Function.update s.callback k .counted
      completedRequests := s.completedRequests + 1 } := by
  simp only [next] at h
  split at h
  · rename_i hc; cases h; exact ⟨hc, rfl⟩
  · cases h

theorem next_compare {k : Fin T × Fin R} (h : next reply s (.compare k) = some s') :
    s.callback k = .counted ∧ s' = { s with
      callback := Function.update s.callback k
        (if quitTest s.completedRequests R T then .quitting else .done) } := by
  simp only [next] at h
  split at h
  · rename_i hc; cases h; exact ⟨hc, rfl⟩
  · cases h

theorem next_quit {k : Fin T × Fin R} (h : next reply s (.quit k) = some s') :
    s.callback k = .quitting ∧
      s' = { s with callback := Function.update s.callback k .done, quits := s.quits + 1 } := by
  simp only [next] at h
  split at h
  · rename_i hc; cases h; exact ⟨hc, rfl⟩
  · cases h

/-! ## The requests sent -/

/-- The callbacks that have been issued are those of the requests the loops have sent. -/
def Sent (s : Client T R) : Prop := ∀ t i, s.callback (t, i) ≠ .unsent ↔ i.val < (s.worker t).sent R

theorem sent_start : Sent (start : Client T R) := fun t i => by simp [start, Worker.sent]

/-- The request that a loop sends next is the first one it has not sent. -/
theorem Sent.unsent (hs : Sent s) {t : Fin T} {f : Frame} (hw : s.worker t = .running f) (hi : f.i < R) :
    s.callback (t, ⟨f.i, hi⟩) = .unsent := by
  have := hs t ⟨f.i, hi⟩
  rw [hw] at this
  simpa [Worker.sent] using this

/-- A worker that moves without sending keeps the relation. -/
theorem Sent.worker (hs : Sent s) {t : Fin T} {w : Worker}
    (hw : ∀ i : Fin R, i.val < w.sent R ↔ i.val < (s.worker t).sent R) (t' : Fin T) (i : Fin R) :
    s.callback (t', i) ≠ .unsent ↔ i.val < (Function.update s.worker t w t').sent R := by
  by_cases ht : t' = t
  · subst ht
    rw [Function.update_self, hw]
    exact hs t' i
  · rw [Function.update_of_ne ht]
    exact hs t' i

/-- A callback that moves from one sent state to another keeps the relation. -/
theorem Sent.callback (hs : Sent s) {k : Fin T × Fin R} {c : Callback} (hk : s.callback k ≠ .unsent)
    (hc : c ≠ .unsent) (t : Fin T) (i : Fin R) :
    Function.update s.callback k c (t, i) ≠ .unsent ↔ i.val < (s.worker t).sent R := by
  by_cases h : (t, i) = k
  · subst h
    rw [Function.update_self]
    exact ⟨fun _ => (hs t i).1 hk, fun _ => hc⟩
  · rw [Function.update_of_ne h]
    exact hs t i

theorem Sent.send (hs : Sent s) {t : Fin T} {f : Frame} (hw : s.worker t = .running f) (hi : f.i < R)
    (t' : Fin T) (i : Fin R) :
    Function.update s.callback (t, ⟨f.i, hi⟩) .outstanding (t', i) ≠ .unsent ↔
      i.val < (Function.update s.worker t (.running { f with i := f.i + 1 }) t').sent R := by
  by_cases ht : t' = t
  · subst ht
    have hti := hs t' i
    rw [hw] at hti
    rw [Function.update_self]
    simp only [Worker.sent] at hti ⊢
    by_cases hj : i = ⟨f.i, hi⟩
    · subst hj
      simp
    · have hne : i.val ≠ f.i := fun e => hj (Fin.ext e)
      rw [Function.update_of_ne (by simpa using hj), hti]
      omega
  · rw [Function.update_of_ne (by simp [ht]), Function.update_of_ne ht]
    exact hs t' i

theorem updateCounters_worker (k : Fin T × Fin R) (g : Nat) :
    (updateCounters reply s k g).worker = s.worker := by
  unfold updateCounters
  split <;> rfl

theorem sent_next (hs : Sent s) {a : Act T R} (h : next reply s a = some s') : Sent s' := by
  cases a with
  | call t =>
    obtain ⟨hw, rfl⟩ := next_call h
    exact hs.worker (by simp [hw, Worker.sent])
  | send t =>
    obtain ⟨f, hi, hw, rfl⟩ := next_send h
    exact hs.send hw hi
  | ret t =>
    obtain ⟨f, hw, hle, rfl⟩ := next_ret h
    refine hs.worker fun i => ?_
    have := i.isLt
    simp only [hw, Worker.sent]
    omega
  | update k g =>
    obtain ⟨hc, rfl⟩ := next_update h
    intro t i
    rw [updateCounters_worker]
    exact hs.callback (by rw [hc]; simp) (by simp) t i
  | count k =>
    obtain ⟨hc, rfl⟩ := next_count h
    exact hs.callback (by rw [hc]; simp) (by simp)
  | compare k =>
    obtain ⟨hc, rfl⟩ := next_compare h
    exact hs.callback (by rw [hc]; simp) (by split <;> simp)
  | quit k =>
    obtain ⟨hc, rfl⟩ := next_quit h
    exact hs.callback (by rw [hc]; simp) (by simp)

end Steps

end HttpSurvey.Drogon
