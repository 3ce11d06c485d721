/-
What the two Beast clients count against what `concurrent_httplib_client` counts in upload mode, on the
same outcomes of the same requests. The httplib client counts a request when its response has status
200, the Beast clients when there is a response at all; the figures are the same exactly when every
response received has status 200.
-/
import HttpSurvey.Beast.ClientRefinement
import HttpSurvey.Httplib.Client

namespace HttpSurvey.Compare

open HttpSurvey.Beast.Client

/-- The response that a call of `send_request` came back with. -/
def seen (a : Attempt) : Option Response := if a.fails then none else a.read.toOption

/-- What `Post` of httplib leaves behind for the same request. -/
def postOutcome (a : Attempt) : Httplib.Outcome := ⟨0, (seen a).map fun res => (res.status : Int)⟩

/-- The figures that the throughput is made of: the requests and the bytes counted. -/
@[ext] structure Figures where
  requests : Nat
  bytes : UInt64
  deriving DecidableEq, Repr

/-- `requests_sent` and `bytes_transferred`. -/
def beastFigures (s : Stats) : Figures := ⟨s.requestsSent, s.bytesTransferred⟩

/-- `completed_requests` and `total_bytes_transferred`, a `size_t`. -/
def httplibFigures (c : Httplib.Counters) : Figures := ⟨c.completedRequests, UInt64.ofNat c.totalBytes⟩

/-- The call came back with a response. -/
def answered (a : Attempt) : Bool := !a.fails

/-- The call came back with a response with status 200. -/
def succeeded (a : Attempt) : Bool := (postOutcome a).ok

theorem read_of_answered {a : Attempt} (h : a.fails = false) : ∃ res, a.read = .ok res := by
  unfold Attempt.fails exchange at h
  cases hread : a.read with
  | ok res => exact ⟨res, rfl⟩
  | error what =>
    -- a read that throws makes the call fail, whatever came before it
    rw [hread] at h
    revert h
    cases a.resolve <;> cases a.connect <;> cases a.prepare <;> cases a.write <;> exact nofun

theorem seen_eq_some {a : Attempt} {res : Response} (h : seen a = some res) : answered a = true := by
  unfold seen at h
  unfold answered
  split at h
  · cases h
  · rename_i hf
    rw [Bool.not_eq_true] at hf
    rw [hf]
    rfl

/-- A call succeeded exactly when it came back with status 200. -/
theorem succeeded_iff {a : Attempt} : succeeded a = true ↔ ∃ res, seen a = some res ∧ res.status = 200 := by
  unfold succeeded postOutcome Httplib.Outcome.ok
  cases seen a with
  | none => simp
  | some res =>
    simp only [Option.map_some, beq_iff_eq, Option.some.injEq, exists_eq_left']
    omega

theorem answered_of_succeeded {a : Attempt} (h : succeeded a = true) : answered a = true := by
  obtain ⟨res, hres, -⟩ := succeeded_iff.1 h
  exact seen_eq_some hres

theorem seen_of_answered {a : Attempt} (h : answered a = true) : ∃ res, seen a = some res := by
  unfold answered at h
  rw [Bool.not_eq_true'] at h
  obtain ⟨res, hres⟩ := read_of_answered h
  refine ⟨res, ?_⟩
  unfold seen
  rw [h, hres]
  rfl

/-! ## The figures in closed form -/

theorem beastFigures_eq (size : UInt64) (attempts : List Attempt) :
    beastFigures (Regular.requestLoop size 0 attempts) =
      ⟨attempts.countP answered, UInt64.ofNat (size.toNat * attempts.countP answered)⟩ := by
  rw [Regular.requestLoop_eq, zero_add]
  induction attempts with
  | nil => rfl
  | cons a attempts ih =>
    rw [Figures.ext_iff] at ih ⊢
    obtain ⟨hrequests, hbytes⟩ := ih
    simp only [beastFigures] at hrequests hbytes ⊢
    rw [List.map_cons, List.sum_cons, Stats.add_requestsSent, Stats.add_bytesTransferred, hrequests, hbytes,
      List.countP_cons]
    unfold answered
    cases h : a.fails with
    | true =>
      rw [sendRequest_of_fails h]
      simp
    | false =>
      rw [sendRequest_of_not_fails h]
      simp only [Bool.not_false, if_true, Nat.mul_add, Nat.mul_one, UInt64.ofNat_add, UInt64.ofNat_toNat]
      exact ⟨Nat.add_comm .., UInt64.add_comm ..⟩

theorem bytesOf_upload (payload : Nat) (attempts : List Attempt) :
    Httplib.bytesOf true payload (attempts.map postOutcome) = payload * attempts.countP succeeded := by
  induction attempts with
  | nil => rfl
  | cons a attempts ih =>
    unfold Httplib.bytesOf at ih ⊢
    rw [List.map_cons, List.map_cons, List.sum_cons, ih, List.countP_cons]
    unfold Httplib.Outcome.bytes succeeded
    cases (postOutcome a).ok <;> simp [Nat.mul_add, Nat.add_comm]

theorem httplibFigures_eq (payload : Nat) (attempts : List Attempt) :
    httplibFigures (Httplib.workerThread true payload (attempts.map postOutcome)) =
      ⟨attempts.countP succeeded, UInt64.ofNat (payload * attempts.countP succeeded)⟩ := by
  unfold httplibFigures Httplib.workerThread
  rw [Httplib.workerThread_foldl]
  have hcount : Httplib.successes (attempts.map postOutcome) = attempts.countP succeeded := by
    unfold Httplib.successes
    rw [List.countP_map]
    rfl
  simp only [Httplib.Counters.zero, Nat.zero_add, hcount, bytesOf_upload]

/-- As many calls succeeded as came back exactly when every response has status 200. -/
theorem count_answered_iff (attempts : List Attempt) :
    attempts.countP answered = attempts.countP succeeded ↔
      ∀ a ∈ attempts, ∀ res, seen a = some res → res.status = 200 := by
  have hsplit : attempts.countP answered =
      attempts.countP succeeded + attempts.countP fun a => answered a && !succeeded a := by
    induction attempts with
    | nil => rfl
    | cons a attempts ih =>
      rw [List.countP_cons, List.countP_cons, List.countP_cons, ih]
      have hsub := @answered_of_succeeded a
      cases hs : succeeded a <;> cases ha : answered a <;> simp_all <;> omega
  have hzero : attempts.countP answered = attempts.countP succeeded ↔
      attempts.countP (fun a => answered a && !succeeded a) = 0 := by omega
  rw [hzero, List.countP_eq_zero]
  apply forall₂_congr
  intro a _
  rw [Bool.and_eq_true, not_and, Bool.not_eq_true', Bool.not_eq_false]
  constructor
  · intro h res hres
    obtain ⟨res', hres', hstatus⟩ := succeeded_iff.1 (h (seen_eq_some hres))
    rw [hres] at hres'
    cases hres'
    exact hstatus
  · intro h ha
    obtain ⟨res, hres⟩ := seen_of_answered ha
    exact succeeded_iff.2 ⟨res, hres, h res hres⟩

theorem figures_iff (size : UInt64) (attempts : List Attempt) :
    beastFigures (Regular.requestLoop size 0 attempts) =
        httplibFigures (Httplib.workerThread true size.toNat (attempts.map postOutcome)) ↔
      ∀ a ∈ attempts, ∀ res, seen a = some res → res.status = 200 := by
  rw [beastFigures_eq, httplibFigures_eq, ← count_answered_iff, Figures.mk.injEq]
  constructor
  · exact And.left
  · intro h
    rw [h]
    exact ⟨rfl, rfl⟩

/-- On the same outcomes and payload, the figures of `regular_beast_client`, and those that
`concurrent_beast_client` reports in any run, are the figures of `concurrent_httplib_client` in upload
mode exactly when every response received has status 200. -/
theorem same_figures_iff (size : UInt64) :
    (∀ attempts : List Attempt,
      beastFigures (Regular.requestLoop size 0 attempts) =
          httplibFigures (Httplib.workerThread true size.toNat (attempts.map postOutcome)) ↔
        ∀ a ∈ attempts, ∀ res, seen a = some res → res.status = 200) ∧
    ∀ (T R : Nat) (attempt : Fin T → Fin R → Attempt) (s : Concurrent.Program T) (totalStats : Stats),
      (Concurrent.client size attempt).Reachable s → s.main = .reported totalStats →
      (beastFigures totalStats =
          httplibFigures (Httplib.workerThread true size.toNat
            ((Concurrent.allAttempts attempt).flatten.map postOutcome)) ↔
        ∀ t r res, seen (attempt t r) = some res → res.status = 200) := by
  refine ⟨figures_iff size, ?_⟩
  intro T R attempt s totalStats h hmain
  obtain ⟨-, htotal⟩ := (Concurrent.inv_reachable h).reported totalStats hmain
  rw [htotal, figures_iff]
  simp only [Concurrent.allAttempts, Concurrent.attempts, List.mem_flatten, List.mem_ofFn, exists_exists_eq_and]
  constructor
  · intro hall t r
    exact hall (attempt t r) ⟨t, r, rfl⟩
  · rintro hall a ⟨t, r, rfl⟩
    exact hall t r

/-- A request that is answered with status 500 after 2 ms. -/
def serverError : Attempt :=
  ⟨.ok (), .ok (), .ok (), .ok (), .ok ⟨500, "Internal Server Error"⟩, .ok (), 0, 2000000⟩

/-- The Beast clients count the request and its payload, the httplib client counts neither. -/
theorem error_response_counted :
    beastFigures (Regular.requestLoop 30720 0 [serverError]) = ⟨1, 30720⟩ ∧
    beastFigures (Concurrent.iteration 30720 0 serverError) = ⟨1, 30720⟩ ∧
    httplibFigures (Httplib.workerThread true 30720 ([serverError].map postOutcome)) = ⟨0, 0⟩ ∧
    beastFigures (Regular.requestLoop 30720 0 [serverError]) ≠
      httplibFigures (Httplib.workerThread true 30720 ([serverError].map postOutcome)) := by
  decide

/-- A refused connection beside a 200: all three clients count one request. -/
theorem same_figures_refused :
    (beastFigures (Regular.requestLoop 30720 0 (Concurrent.allAttempts Concurrent.oneRefused).flatten) =
      httplibFigures (Httplib.workerThread true 30720
        ((Concurrent.allAttempts Concurrent.oneRefused).flatten.map postOutcome))) ∧
    ∃ s totalStats, (Concurrent.client 30720 Concurrent.oneRefused).run Concurrent.oneRefusedSchedule = some s ∧
      s.main = .reported totalStats ∧
      beastFigures totalStats = httplibFigures (Httplib.workerThread true 30720
        ((Concurrent.allAttempts Concurrent.oneRefused).flatten.map postOutcome)) := by
  have hseen : ∀ t r res, seen (Concurrent.oneRefused t r) = some res → res.status = 200 := by
    intro t r res h
    fin_cases t
    · cases h
      rfl
    · cases h
  constructor
  · refine ((same_figures_iff 30720).1 _).2 ?_
    simp only [Concurrent.allAttempts, Concurrent.attempts, List.mem_flatten, List.mem_ofFn, exists_exists_eq_and]
    rintro a ⟨t, r, rfl⟩
    exact hseen t r
  · have hrun : ((Concurrent.client 30720 Concurrent.oneRefused).run Concurrent.oneRefusedSchedule).any
        (fun s => decide (s.main = .reported ⟨30720, 5, 1⟩)) = true := by decide +kernel
    obtain ⟨s, hs, hp⟩ := Lib.Machine.exists_run hrun
    have hmain : s.main = .reported ⟨30720, 5, 1⟩ := of_decide_eq_true hp
    exact ⟨s, _, hs, hmain, ((same_figures_iff 30720).2 2 1 Concurrent.oneRefused s _ ⟨_, hs⟩ hmain).2 hseen⟩

end HttpSurvey.Compare
