/-
The number of successful requests that the two Drogon clients report. Both subtract the failures they
have counted from the number of requests they planned, and `app().run()` returns after any `quit()`, that
of the last callback or that of a signal. The report is the number of callbacks that have seen a 200
exactly when the callback of every planned request has run and the planned number is no negative and no
overflowing one (`report_right_iff`).
-/
import HttpSurvey.Drogon.Completion
import HttpSurvey.Drogon.RegularClient

namespace HttpSurvey.Drogon

open HttpSurvey.Lib

/-- Subtracting the failures from the planned number gives the successes exactly when the planned number
is that of both. -/
theorem subSize_eq_iff {p : CInt} {failed successes : Nat} (h : successes + failed ≤ 2 ^ 62) :
    subSize (toSize p.val) failed = successes ↔ p.val = (successes + failed : Nat) := by
  have hrange := p.range
  unfold subSize toSize sizeMod
  omega

/-! ## The regular client -/

namespace Regular

section Report

variable {requestCount : CInt} {reply : Fin requestCount.val.toNat → Reply}
  {s s' : State requestCount.val.toNat}

/-- The callbacks that have received a 200 response. -/
def successes (reply : Fin requestCount.val.toNat → Reply) (s : State requestCount.val.toNat) : Nat :=
  count (fun k replied => replied && (reply k).saw200) s.replied

/-- The callbacks that have received no 200 response. -/
def failures (reply : Fin requestCount.val.toNat → Reply) (s : State requestCount.val.toNat) : Nat :=
  count (fun k replied => replied && !(reply k).saw200) s.replied

/-- The number of requests is not negative, and the callback of each has run. -/
def AllReplied (s : State requestCount.val.toNat) : Prop := 0 ≤ requestCount.val ∧ ∀ k, s.replied k = true

/-- The failure counter, and what has been reported. -/
structure Inv (reply : Fin requestCount.val.toNat → Reply) (s : State requestCount.val.toNat) : Prop where
  failed : s.failedRequests = failures reply s
  reported : ∀ x, s.main = .reported x → x = successful requestCount s

theorem failures_callback {k : Fin requestCount.val.toNat} (hk : s.replied k = false) :
    failures reply (callback requestCount reply s k) = failures reply s + (!(reply k).saw200).toNat := by
  refine tally_update_add (w := fun k (replied : Bool) => (replied && !(reply k).saw200).toNat) ?_
  simp [hk]

theorem inv_next {a : Act requestCount.val.toNat} (hI : Inv reply s)
    (h : next requestCount reply s a = some s') : Inv reply s' := by
  rcases next_cases h with ⟨hreplied, hfailed, hmain⟩ | ⟨k, hm, hk, rfl⟩ | ⟨hm, rfl⟩
  · refine ⟨?_, fun x hx => absurd hx (hmain x)⟩
    rw [hfailed, hI.failed, failures, failures, hreplied]
  · refine ⟨?_, fun x hx => ?_⟩
    · rw [failures_callback hk, ← hI.failed]
      exact updateCounters_failed k
    · -- a callback leaves `main` in `run()`
      have hmain : (callback requestCount reply s k).main = s.main := by
        unfold callback updateCounters
        split <;> rfl
      rw [hmain, hm] at hx
      cases hx
  · refine ⟨hI.failed, fun x hx => ?_⟩
    cases hx
    rfl

theorem inv_start : Inv reply (start requestCount) := by
  constructor
  · have hzero : count (fun k replied => replied && !(reply k).saw200) (start requestCount).replied = 0 := by
      apply tally_eq_zero
      intro k
      rfl
    exact hzero.symm
  · intro x hx
    cases hx

theorem reachable_inv (h : (client requestCount reply).Reachable s) : Inv reply s :=
  Machine.inv (Inv reply) inv_start (fun _ _ _ hI hn => inv_next hI hn) h

theorem allReplied_iff :
    AllReplied s ↔ requestCount.val = (successes reply s + failures reply s : Nat) := by
  have hsum : successes reply s + failures reply s = count (fun _ replied => replied) s.replied :=
    count_and_add_count_not _ _ _
  have hle := count_le_card (fun _ replied => replied) s.replied
  have hall := count_eq_card (p := fun (_ : Fin requestCount.val.toNat) (replied : Bool) => replied) (f := s.replied)
  rw [Fintype.card_fin] at hle hall
  unfold AllReplied
  rw [hsum, ← hall]
  omega

/-- What is reported is right exactly when the callback of each of the requests has run. -/
theorem report_iff (h : (client requestCount reply).Reachable s) {x : Nat} (hx : s.main = .reported x) :
    x = successes reply s ↔ AllReplied s := by
  obtain ⟨hfailed, hreported⟩ := reachable_inv h
  have hrange := requestCount.range
  have hle : successes reply s + failures reply s ≤ 2 ^ 62 := by
    have hsum : successes reply s + failures reply s = count (fun _ replied => replied) s.replied :=
      count_and_add_count_not _ _ _
    have hcard := count_le_card (fun _ replied => replied) s.replied
    rw [Fintype.card_fin] at hcard
    omega
  rw [hreported x hx, successful, hfailed, subSize_eq_iff hle, allReplied_iff]

end Report

end Regular

/-! ## The concurrent client -/

namespace Concurrent

/-- `main`: in the loop that spawns the threads, in `run()`, past it, and past the report with the number
of successful requests it has printed, if the product of the planned number did not overflow. -/
inductive Main
  | spawning
  | running
  | returned
  | reported (successful : Option Nat)
  deriving DecidableEq, Repr

/-- The threads, callbacks and counters, whether a signal has called `quit()`, and `main`. -/
structure Program (T R : Nat) where
  client : Client T R
  signalled : Bool
  main : Main

/-- A step of a thread or a callback, the call of `run()`, a signal, the return of `run()`, and the
report. -/
inductive Step (T R : Nat)
  | act (a : Act T R)
  | run
  | signal
  | ret
  | report
  deriving DecidableEq

/-- The step is one of a callback. -/
def isCallback {T R : Nat} : Act T R → Bool
  | .update _ _ | .count _ | .compare _ | .quit _ => true
  | .call _ | .send _ | .ret _ => false

section Steps

variable (requestsPerThread threadCount : CInt)
  (reply : Fin threadCount.val.toNat × Fin requestsPerThread.val.toNat → Reply)

/-- The threads and callbacks of the client for the two counts. -/
abbrev Planned := Program threadCount.val.toNat requestsPerThread.val.toNat

/-- The number printed as successful: `total_requests - failed_requests`. -/
def successful (s : Planned requestsPerThread threadCount) : Option Nat :=
  (requestsPerThread.mul threadCount).map fun p => subSize (toSize p.val) s.client.failedRequests

/-- Callbacks run inside `run()` only; the report comes after the joins. -/
def next (s : Planned requestsPerThread threadCount) :
    Step threadCount.val.toNat requestsPerThread.val.toNat → Option (Planned requestsPerThread threadCount)
  | .act a =>
    if isCallback a = true ∧ s.main ≠ .running then none
    else (Drogon.next reply s.client a).map fun c => { s with client := c }
  | .run => if s.main = .spawning then some { s with main := .running } else none
  | .signal => if s.main = .running then some { s with signalled := true } else none
  | .ret =>
    if s.main = .running ∧ (s.signalled = true ∨ 0 < s.client.quits) then some { s with main := .returned } else none
  | .report =>
    if s.main = .returned ∧ ∀ t, s.client.worker t = .returned then
      some { s with main := .reported (successful requestsPerThread threadCount s) }
    else none

def program : Machine (Planned requestsPerThread threadCount)
    (Step threadCount.val.toNat requestsPerThread.val.toNat) :=
  ⟨⟨start, false, .spawning⟩, next requestsPerThread threadCount reply⟩

end Steps

section Report

variable {requestsPerThread threadCount : CInt}
  {reply : Fin threadCount.val.toNat × Fin requestsPerThread.val.toNat → Reply}
  {s s' : Planned requestsPerThread threadCount}

/-- The callbacks that have received a 200 response. -/
def successes (reply : Fin threadCount.val.toNat × Fin requestsPerThread.val.toNat → Reply)
    (s : Planned requestsPerThread threadCount) : Nat :=
  count (fun k c => c.isUpdated && (reply k).saw200) s.client.callback

/-- The product of the two counts is an `int` and the number of the requests, and the callback of each
has run. -/
def AllReplied (s : Planned requestsPerThread threadCount) : Prop :=
  (∃ p, requestsPerThread.mul threadCount = some p ∧
    p.val = (threadCount.val.toNat * requestsPerThread.val.toNat : Nat)) ∧
    ∀ k, (s.client.callback k).isUpdated = true

/-- The failure counter, and what has been reported. -/
structure Inv (reply : Fin threadCount.val.toNat × Fin requestsPerThread.val.toNat → Reply)
    (s : Planned requestsPerThread threadCount) : Prop where
  sent : Sent s.client
  failed : s.client.failedRequests = failedUpdates reply s.client
  reported : ∀ x, s.main = .reported x → x = successful requestsPerThread threadCount s ∧
    ∀ t, s.client.worker t = .returned

/-- A step of a thread or a callback, taken in `run()` if it is one of a callback; or a step that leaves
them alone and moves `main` to no report; or the report. -/
theorem next_cases {a : Step threadCount.val.toNat requestsPerThread.val.toNat}
    (h : next requestsPerThread threadCount reply s a = some s') :
    (∃ b c, Drogon.next reply s.client b = some c ∧ (isCallback b = true → s.main = .running) ∧
      s' = { s with client := c }) ∨
      (s'.client = s.client ∧ ∀ x, s'.main ≠ .reported x) ∨
      (∀ t, s.client.worker t = .returned) ∧
        s' = { s with main := .reported (successful requestsPerThread threadCount s) } := by
  cases a with
  | act b =>
    simp only [next] at h
    split at h
    · cases h
    · rename_i hb
      obtain ⟨c, hc, rfl⟩ := Option.map_eq_some_iff.1 h
      exact .inl ⟨b, c, hc, fun hcallback => by_contra fun hm => hb ⟨hcallback, hm⟩, rfl⟩
  | report =>
    simp only [next] at h
    split at h
    · rename_i hm
      cases h
      exact .inr (.inr ⟨hm.2, rfl⟩)
    · cases h
  | signal =>
    simp only [next] at h
    split at h
    · rename_i hm
      cases h
      exact .inr (.inl ⟨rfl, fun x hx => by rw [hm] at hx; cases hx⟩)
    · cases h
  | run | ret =>
    simp only [next] at h
    split at h
    · cases h
      exact .inr (.inl ⟨rfl, nofun⟩)
    · cases h

/-- Once the threads have returned only callbacks take steps. -/
theorem isCallback_of_returned {T R : Nat} {reply : Fin T × Fin R → Reply} {s c : Client T R} {b : Act T R}
    (h : Drogon.next reply s b = some c) (hall : ∀ t, s.worker t = .returned) : isCallback b = true := by
  cases b with
  | call t =>
    have hw := (next_call h).1
    rw [hall t] at hw
    cases hw
  | send t =>
    obtain ⟨f, -, hw, -⟩ := next_send h
    rw [hall t] at hw
    cases hw
  | ret t =>
    obtain ⟨f, hw, -, -⟩ := next_ret h
    rw [hall t] at hw
    cases hw
  | update | count | compare | quit => rfl

theorem inv_next {a : Step threadCount.val.toNat requestsPerThread.val.toNat} (hI : Inv reply s)
    (h : next requestsPerThread threadCount reply s a = some s') : Inv reply s' := by
  obtain ⟨hsent, hfailed, hreported⟩ := hI
  rcases next_cases h with ⟨b, c, hc, hrunning, rfl⟩ | ⟨hclient, hmain⟩ | ⟨hall, rfl⟩
  · refine ⟨sent_next hsent hc, failed_next hsent hfailed hc, fun x hx => ?_⟩
    -- after the report neither a thread nor a callback takes a step
    have hmain : s.main = .reported x := hx
    have hcallback := isCallback_of_returned hc (hreported x hmain).2
    rw [hrunning hcallback] at hmain
    cases hmain
  · refine ⟨?_, ?_, fun x hx => absurd hx (hmain x)⟩
    · rw [hclient]
      exact hsent
    · rw [hclient]
      exact hfailed
  · refine ⟨hsent, hfailed, fun x hx => ?_⟩
    cases hx
    exact ⟨rfl, hall⟩

theorem inv_start : Inv reply (⟨start, false, .spawning⟩ : Planned requestsPerThread threadCount) := by
  constructor
  · exact sent_start
  · exact (tally_eq_zero fun _ => rfl).symm
  · intro x hx
    cases hx

theorem reachable_inv (h : (program requestsPerThread threadCount reply).Reachable s) : Inv reply s :=
  Machine.inv (Inv reply) inv_start (fun _ _ _ hI hn => inv_next hI hn) h

variable (reply s) in
theorem successes_add_failures :
    successes reply s + failedUpdates reply s.client = count (fun _ c => c.isUpdated) s.client.callback :=
  count_and_add_count_not _ _ _

variable (reply s) in
/-- The number of the requests whose callback has run is at most that of the requests. -/
theorem updated_le : successes reply s + failedUpdates reply s.client ≤
    threadCount.val.toNat * requestsPerThread.val.toNat := by
  have hle := count_le_card (fun _ c => c.isUpdated) s.client.callback
  rwa [Fintype.card_prod, Fintype.card_fin, Fintype.card_fin, ← successes_add_failures reply s] at hle

variable (reply) in
theorem allUpdated_iff : (∀ k, (s.client.callback k).isUpdated = true) ↔
    successes reply s + failedUpdates reply s.client = threadCount.val.toNat * requestsPerThread.val.toNat := by
  have hall := count_eq_card (p := fun _ c => c.isUpdated) (f := s.client.callback)
  rw [Fintype.card_prod, Fintype.card_fin, Fintype.card_fin] at hall
  rw [successes_add_failures reply s, hall]

theorem toNat_mul_le : threadCount.val.toNat * requestsPerThread.val.toNat ≤ 2 ^ 62 := by
  have hr := requestsPerThread.range
  have ht := threadCount.range
  calc
    threadCount.val.toNat * requestsPerThread.val.toNat ≤ 2 ^ 31 * 2 ^ 31 := Nat.mul_le_mul (by omega) (by omega)
    _ = 2 ^ 62 := by norm_num

/-- A product of counts that is the number of some of the requests is that of all of them. -/
theorem product_eq {p : CInt} (hp : requestsPerThread.mul threadCount = some p) {n : Nat} (h : p.val = n)
    (hn : n ≤ threadCount.val.toNat * requestsPerThread.val.toNat) :
    n = threadCount.val.toNat * requestsPerThread.val.toNat := by
  rw [CInt.mul_eq_some.1 hp] at h
  rcases Int.lt_or_le requestsPerThread.val 0 with hr | hr
  · rw [Int.toNat_of_nonpos hr.le, Nat.mul_zero] at hn ⊢
    omega
  · rcases Int.lt_or_le threadCount.val 0 with ht | ht
    · rw [Int.toNat_of_nonpos ht.le, Nat.zero_mul] at hn ⊢
      omega
    · zify
      rw [Int.toNat_of_nonneg hr, Int.toNat_of_nonneg ht, ← h, Int.mul_comm]

/-- What is reported is right exactly when the callback of each planned request has run. -/
theorem report_iff (h : (program requestsPerThread threadCount reply).Reachable s) {x : Option Nat}
    (hx : s.main = .reported x) : x = some (successes reply s) ↔ AllReplied s := by
  obtain ⟨-, hfailed, hreported⟩ := reachable_inv h
  have hle := updated_le reply s
  rw [(hreported x hx).1, successful, hfailed, Option.map_eq_some_iff]
  unfold AllReplied
  rw [allUpdated_iff reply]
  constructor
  · rintro ⟨p, hp, hsub⟩
    have hval := (subSize_eq_iff (hle.trans toNat_mul_le)).1 hsub
    have hfull := product_eq hp hval hle
    exact ⟨⟨p, hp, by rw [hval, hfull]⟩, hfull⟩
  · rintro ⟨⟨p, hp, hval⟩, hfull⟩
    exact ⟨p, hp, (subSize_eq_iff (hle.trans toNat_mul_le)).2 (by rw [hval, hfull])⟩

end Report

end Concurrent

/-- However the event loop of one of the clients has ended: the reported number of successful requests is
that of the callbacks with a 200 response exactly when the callback of every planned request has run. -/
theorem report_right_iff (requestCount requestsPerThread threadCount : CInt)
    (reply : Fin requestCount.val.toNat → Reply)
    (replies : Fin threadCount.val.toNat × Fin requestsPerThread.val.toNat → Reply) :
    (∀ (s : Regular.State requestCount.val.toNat) (x : Nat),
      (Regular.client requestCount reply).Reachable s → s.main = .reported x →
        (x = Regular.successes reply s ↔ Regular.AllReplied s)) ∧
      ∀ (s : Concurrent.Planned requestsPerThread threadCount) (x : Option Nat),
        (Concurrent.program requestsPerThread threadCount replies).Reachable s → s.main = .reported x →
          (x = some (Concurrent.successes replies s) ↔ Concurrent.AllReplied s) := by
  constructor
  · exact fun s x h hx => Regular.report_iff h hx
  · exact fun s x h hx => Concurrent.report_iff h hx

/-- A count of one. -/
def one : CInt := ⟨1, by decide⟩

/-- One request whose callback runs and quits. -/
theorem report_right_iff_one : ∃ s, (Regular.client one fun _ => ⟨true, some 200⟩).Reachable s ∧
    s.main = .reported (Regular.successes (fun _ => ⟨true, some 200⟩) s) := by
  have hrun : ((Regular.client one fun _ => ⟨true, some 200⟩).run
      [.send, .run, .callback ⟨0, by decide⟩, .ret, .report]).any
        (fun s => decide (s.main = .reported 1 ∧ ∀ k, s.replied k = true)) = true := by decide +kernel
  obtain ⟨s, hs, htest⟩ := Machine.exists_run hrun
  obtain ⟨hmain, hall⟩ := of_decide_eq_true htest
  have hreach : (Regular.client one fun _ => ⟨true, some 200⟩).Reachable s := ⟨_, hs⟩
  have hone := ((report_right_iff one one one _ fun _ => ⟨true, some 200⟩).1 s 1 hreach hmain).2 ⟨by decide, hall⟩
  exact ⟨s, hreach, hmain.trans (congrArg _ hone)⟩

/-- One request, and a signal before its callback has run: both clients report a success. -/
theorem signalled_report :
    (∃ s, (Regular.client one fun _ => ⟨true, some 200⟩).Reachable s ∧
      s.main = .reported 1 ∧ Regular.successes (fun _ => ⟨true, some 200⟩) s = 0) ∧
      ∃ s, (Concurrent.program one one fun _ => ⟨true, some 200⟩).Reachable s ∧
        s.main = .reported (some 1) ∧ Concurrent.successes (fun _ => ⟨true, some 200⟩) s = 0 := by
  have hregular : ((Regular.client one fun _ => ⟨true, some 200⟩).run [.send, .run, .signal, .ret, .report]).any
      (fun s => decide (s.main = .reported 1 ∧ Regular.successes (fun _ => ⟨true, some 200⟩) s = 0)) = true := by
    decide +kernel
  have hconcurrent : ((Concurrent.program one one fun _ => ⟨true, some 200⟩).run
      [.run, .act (.call ⟨0, by decide⟩), .act (.send ⟨0, by decide⟩), .act (.ret ⟨0, by decide⟩), .signal, .ret,
        .report]).any
      (fun s => decide (s.main = .reported (some 1) ∧
        Concurrent.successes (fun _ => ⟨true, some 200⟩) s = 0)) = true := by
    decide +kernel
  obtain ⟨s, hs, htest⟩ := Machine.exists_run hregular
  obtain ⟨t, ht, htest'⟩ := Machine.exists_run hconcurrent
  exact ⟨⟨s, ⟨_, hs⟩, of_decide_eq_true htest⟩, ⟨t, ⟨_, ht⟩, of_decide_eq_true htest'⟩⟩

end HttpSurvey.Drogon
