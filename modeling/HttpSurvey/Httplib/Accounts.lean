/-
The accounts of the upload benchmark agree: in every reachable state the clients together report
at most as many completed requests as the server has counted and at most as many bytes as it has
received, and a process whose workers are all joined has accounted for every loop iteration, with
bytes equal to the payload size times its completed requests.

Both inequalities go through the messages: a completed request is a delivered reply, a delivered
reply is a message whose handler has raised both server counters. The invariant has one part for
each side and one equation between them.
-/
import HttpSurvey.Httplib.Upload

namespace HttpSurvey.Httplib

open HttpSurvey.Lib

variable {F : Fleet}

/-! ## What the local states have contributed -/

/-- The handler has raised `request_count`. -/
def Stage.isCounted : Stage → Bool
  | .sent | .handling | .requestLost => false
  | .counted | .added | .replied | .delivered | .replyLost => true

/-- The handler has raised `total_received_bytes`. -/
def Stage.isAdded : Stage → Bool
  | .sent | .handling | .counted | .requestLost => false
  | .added | .replied | .delivered | .replyLost => true

/-- The reply has reached its worker. -/
def Stage.isDelivered : Stage → Bool
  | .delivered => true
  | .sent | .handling | .counted | .added | .replied | .requestLost | .replyLost => false

/-- The bytes a message has added to `total_received_bytes`. -/
def Post.received (m : Post) : Nat := if m.stage.isAdded then m.bodySize else 0

/-- The loop iterations a worker has begun, out of `R`. -/
def Worker.begun (R : Nat) : Worker → Nat
  | .unspawned => 0
  | .atHead i => i
  | .waiting i _ | .succeeded i | .completed i | .failed i => i + 1
  | .exited => R

/-- The loop iterations a worker has counted as completed or failed, out of `R`. -/
def Worker.accounted (R : Nat) : Worker → Nat
  | .unspawned => 0
  | .atHead i | .waiting i _ | .succeeded i | .failed i => i
  | .completed i => i + 1
  | .exited => R

/-- The worker has a 200 and has raised neither counter. -/
def Worker.isSucceeded : Worker → Bool
  | .succeeded _ => true
  | _ => false

/-- The worker has raised `completed_requests` and not yet the bytes. -/
def Worker.isCompleted : Worker → Bool
  | .completed _ => true
  | _ => false

/-- The loop variable is within the loop. -/
def Worker.InLoop (R : Nat) : Worker → Prop
  | .unspawned | .exited => True
  | .atHead i => i ≤ R
  | .waiting i _ | .succeeded i | .completed i | .failed i => i < R

/-! ## The invariant -/

/-- The server's counters in terms of the messages. -/
structure ServerInv (s : System F) : Prop where
  counted : s.requestCount = (s.posts.map fun m => m.stage.isCounted.toNat).sum
  added : s.totalReceivedBytes = (s.posts.map Post.received).sum
  size : ∀ m ∈ s.posts, m.bodySize = uploadSize

/-- The iterations of process `p` as `f` counts them in its workers. -/
def perProcess (f : Nat → Worker → Nat) (s : System F) (p : Fin F.procs) : Nat :=
  tally (fun w x => if w.1 = p then f (F.requestsPerThread p) x else 0) s.worker

/-- The clients' counters in terms of their workers. -/
structure ClientInv (s : System F) : Prop where
  begun : ∀ p, s.iterations p = perProcess Worker.begun s p
  accounted : ∀ p, (s.counters p).completedRequests + (s.counters p).failedRequests =
    perProcess Worker.accounted s p
  bytes : ∀ p, (s.counters p).totalBytes + uploadSize * perProcess (fun _ x => x.isCompleted.toNat) s p =
    uploadSize * (s.counters p).completedRequests
  inLoop : ∀ w, (s.worker w).InLoop (F.requestsPerThread w.1)
  spawned : ∀ w, s.worker w = .unspawned ↔ (s.main w.1).spawned ≤ w.2.val
  joined : ∀ w, w.2.val < (s.main w.1).joined → s.worker w = .exited

/-- The replies the workers have received: completed requests and those about to be counted. -/
def credited (s : System F) : Nat :=
  s.total Counters.completedRequests + count (fun _ x => x.isSucceeded) s.worker

/-- The replies that have been delivered. -/
def delivered (posts : List Post) : Nat := (posts.map fun m => m.stage.isDelivered.toNat).sum

/-- The invariant of the system: both sides, and every delivered reply received by a worker. -/
structure Inv (s : System F) : Prop where
  server : ServerInv s
  client : ClientInv s
  linked : credited s = delivered s.posts

/-! ## The steps of the server -/

theorem advance_some {s s' : System F} {k : Nat} {before after : Stage} (h : s.advance k before after = some s') :
    ∃ m, s.posts[k]? = some m ∧ m.stage = before ∧ s' = { s with posts := s.posts.set k { m with stage := after } } := by
  unfold System.advance at h
  split at h
  · rename_i m hm
    split at h
    · rename_i hs; cases h; exact ⟨m, hm, hs, rfl⟩
    · cases h
  · cases h

/-- A message that advances moves the server's sums by as much as its own flags. -/
theorem serverInv_advance {s : System F} (hI : ServerInv s) {k : Nat} {m : Post} (after : Stage) (n b : Nat)
    (hm : s.posts[k]? = some m) (hn : after.isCounted.toNat = m.stage.isCounted.toNat + n)
    (hb : Post.received { m with stage := after } = m.received + b) :
    ServerInv { s with
      posts := s.posts.set k { m with stage := after }
      requestCount := s.requestCount + n
      totalReceivedBytes := s.totalReceivedBytes + b } := by
  refine ⟨?_, ?_, fun m' hm' => ?_⟩
  · show s.requestCount + n = _
    rw [sum_map_set_add (w := fun m : Post => m.stage.isCounted.toNat) hm hn, hI.counted]
  · show s.totalReceivedBytes + b = _
    rw [sum_map_set_add (w := Post.received) hm hb, hI.added]
  · rcases List.mem_or_eq_of_mem_set hm' with hmem | rfl
    · exact hI.size m' hmem
    · exact hI.size m (List.mem_of_getElem? hm)

theorem delivered_advance {posts : List Post} {k : Nat} {m : Post} (after : Stage) (d : Nat)
    (hm : posts[k]? = some m) (hd : after.isDelivered.toNat = m.stage.isDelivered.toNat + d) :
    delivered (posts.set k { m with stage := after }) = delivered posts + d :=
  sum_map_set_add (w := fun m : Post => m.stage.isDelivered.toNat) hm hd

/-- The steps of the server and the losses keep the invariant. -/
theorem inv_advance {s : System F} (hI : Inv s) {k : Nat} {m : Post} {after : Stage} {n b : Nat}
    (hm : s.posts[k]? = some m) (hn : after.isCounted.toNat = m.stage.isCounted.toNat + n)
    (hb : Post.received { m with stage := after } = m.received + b)
    (hd : after.isDelivered.toNat = m.stage.isDelivered.toNat + 0) :
    Inv { s with
      posts := s.posts.set k { m with stage := after }
      requestCount := s.requestCount + n
      totalReceivedBytes := s.totalReceivedBytes + b } := by
  obtain ⟨c1, c2, c3, c4, c5, c6⟩ := hI.client
  refine ⟨serverInv_advance hI.server after n b hm hn hb, ⟨c1, c2, c3, c4, c5, c6⟩, ?_⟩
  show credited s = delivered (s.posts.set k _)
  rw [delivered_advance after _ hm hd]
  exact hI.linked

/-! ## The steps of the clients -/

/-- A worker moves to `x`, its process's counters to `c` and iterations to `n`. -/
def System.move (s : System F) (w : F.Thread) (x : Worker) (c : Counters) (n : Nat) : System F :=
  { s with
    worker := Function.update s.worker w x
    counters := Function.update s.counters w.1 c
    iterations := Function.update s.iterations w.1 n }

theorem setWorker_eq_move (s : System F) (w : F.Thread) (x : Worker) :
    s.setWorker w x = s.move w x (s.counters w.1) (s.iterations w.1) := by
  unfold System.setWorker System.move
  rw [Function.update_eq_self, Function.update_eq_self]

theorem setCounters_eq_move (s : System F) (w : F.Thread) (x : Worker) (c : Counters) :
    (s.setWorker w x).setCounters w.1 c = s.move w x c (s.iterations w.1) := by
  unfold System.setWorker System.setCounters System.move
  rw [Function.update_eq_self]

/-- A worker's move shows in the sums of its own process. -/
theorem perProcess_move (f : Nat → Worker → Nat) (s : System F) (w : F.Thread) (x : Worker) (c : Counters)
    (n : Nat) (p : Fin F.procs) :
    perProcess f (s.move w x c n) p + (if w.1 = p then f (F.requestsPerThread p) (s.worker w) else 0) =
      perProcess f s p + (if w.1 = p then f (F.requestsPerThread p) x else 0) :=
  tally_update _ _ w x

/-- It does not show in the sums of the other processes. -/
theorem perProcess_move_of_ne (f : Nat → Worker → Nat) (s : System F) {w : F.Thread} (x : Worker) (c : Counters)
    (n : Nat) {p : Fin F.procs} (hp : p ≠ w.1) : perProcess f (s.move w x c n) p = perProcess f s p := by
  have hmove := perProcess_move f s w x c n p
  rwa [if_neg (Ne.symm hp), if_neg (Ne.symm hp), Nat.add_zero, Nat.add_zero] at hmove

theorem perProcess_move_self (f : Nat → Worker → Nat) (s : System F) (w : F.Thread) (x : Worker) (c : Counters)
    (n : Nat) :
    perProcess f (s.move w x c n) w.1 + f (F.requestsPerThread w.1) (s.worker w) =
      perProcess f s w.1 + f (F.requestsPerThread w.1) x := by
  have hmove := perProcess_move f s w x c n w.1
  rwa [if_pos rfl, if_pos rfl] at hmove

/-- A running worker moves from `x` to `x'` and keeps the books of its process, whose counters go
from `c` to `c'` and whose iterations go from `n` to `n'`. -/
structure KeepsBooks (R : Nat) (c : Counters) (n : Nat) (x : Worker) (c' : Counters) (n' : Nat) (x' : Worker) :
    Prop where
  running : x ≠ .unspawned ∧ x ≠ .exited
  started : x' ≠ .unspawned
  begun : n' + x.begun R = n + x'.begun R
  accounted : c'.completedRequests + c'.failedRequests + x.accounted R =
    c.completedRequests + c.failedRequests + x'.accounted R
  bytes : c'.totalBytes + uploadSize * x'.isCompleted.toNat + uploadSize * c.completedRequests =
    c.totalBytes + uploadSize * x.isCompleted.toNat + uploadSize * c'.completedRequests
  inLoop : x'.InLoop R

theorem clientInv_move {s : System F} (hI : ClientInv s) {w : F.Thread} {x : Worker} {c : Counters} {n : Nat}
    (hk : KeepsBooks (F.requestsPerThread w.1) (s.counters w.1) (s.iterations w.1) (s.worker w) c n x) :
    ClientInv (s.move w x c n) := by
  -- the process of the worker moves by the worker's books, the others stay
  refine ⟨fun p => ?_, fun p => ?_, fun p => ?_, fun w' => ?_, fun w' => ?_, fun w' hj => ?_⟩
  · by_cases hp : p = w.1
    · subst hp
      have h1 := perProcess_move_self Worker.begun s w x c n
      have h2 := hI.begun w.1
      have h3 := hk.begun
      simp only [System.move, Function.update_self] at h1 ⊢
      omega
    · rw [perProcess_move_of_ne _ s x c n hp]
      simp only [System.move, Function.update_of_ne hp]
      exact hI.begun p
  · by_cases hp : p = w.1
    · subst hp
      have h1 := perProcess_move_self Worker.accounted s w x c n
      have h2 := hI.accounted w.1
      have h3 := hk.accounted
      simp only [System.move, Function.update_self] at h1 ⊢
      omega
    · rw [perProcess_move_of_ne _ s x c n hp]
      simp only [System.move, Function.update_of_ne hp]
      exact hI.accounted p
  · by_cases hp : p = w.1
    · subst hp
      have h1 := perProcess_move_self (fun _ x => x.isCompleted.toNat) s w x c n
      have h2 := hI.bytes w.1
      have h3 := hk.bytes
      simp only [System.move, Function.update_self] at h1 ⊢
      unfold uploadSize at *
      omega
    · rw [perProcess_move_of_ne _ s x c n hp]
      simp only [System.move, Function.update_of_ne hp]
      exact hI.bytes p
  · by_cases hw : w' = w
    · subst hw
      simpa [System.move] using hk.inLoop
    · simp only [System.move, Function.update_of_ne hw]
      exact hI.inLoop w'
  · by_cases hw : w' = w
    · subst hw
      simp only [System.move, Function.update_self]
      exact ⟨fun h => absurd h hk.started, fun h => absurd ((hI.spawned w').2 h) hk.running.1⟩
    · simp only [System.move, Function.update_of_ne hw]
      exact hI.spawned w'
  · by_cases hw : w' = w
    · subst hw
      exact absurd (hI.joined w' hj) hk.running.2
    · simp only [System.move, Function.update_of_ne hw]
      exact hI.joined w' hj

theorem credited_move (s : System F) (w : F.Thread) (x : Worker) (c : Counters) (n : Nat) :
    credited (s.move w x c n) + ((s.counters w.1).completedRequests + (s.worker w).isSucceeded.toNat) =
      credited s + (c.completedRequests + x.isSucceeded.toNat) := by
  have h1 := tally_update (fun _ c => Counters.completedRequests c) s.counters w.1 c
  have h2 := tally_update (fun _ x => (Worker.isSucceeded x).toNat) s.worker w x
  unfold credited System.total count
  simp only [System.move] at h1 h2 ⊢
  omega

/-- A move of a running worker that receives no reply keeps the invariant. -/
theorem inv_move {s : System F} (hI : Inv s) {w : F.Thread} {x : Worker} {c : Counters} {n : Nat}
    (hk : KeepsBooks (F.requestsPerThread w.1) (s.counters w.1) (s.iterations w.1) (s.worker w) c n x)
    (hcred : c.completedRequests + x.isSucceeded.toNat =
      (s.counters w.1).completedRequests + (s.worker w).isSucceeded.toNat) : Inv (s.move w x c n) := by
  obtain ⟨s1, s2, s3⟩ := hI.server
  refine ⟨⟨s1, s2, s3⟩, clientInv_move hI.client hk, ?_⟩
  have hmove := credited_move s w x c n
  have hlink := hI.linked
  show credited (s.move w x c n) = delivered s.posts
  omega

/-! ## The books of one worker -/

section Books

variable {R i k n : Nat} {c : Counters}

theorem keepsBooks_post (hi : i < R) : KeepsBooks R c n (.atHead i) c (n + 1) (.waiting i k) :=
  ⟨by simp, by simp, by simp only [Worker.begun]; omega, rfl, rfl, hi⟩

theorem keepsBooks_exit (hi : i = R) : KeepsBooks R c n (.atHead i) c n .exited :=
  ⟨by simp, by simp, by simp [Worker.begun, hi], by simp [Worker.accounted, hi], rfl, trivial⟩

theorem keepsBooks_deliver (hi : i < R) : KeepsBooks R c n (.waiting i k) c n (.succeeded i) :=
  ⟨by simp, by simp, rfl, rfl, rfl, hi⟩

theorem keepsBooks_giveUp (hi : i < R) : KeepsBooks R c n (.waiting i k) c n (.failed i) :=
  ⟨by simp, by simp, rfl, rfl, rfl, hi⟩

theorem keepsBooks_complete (hi : i < R) : KeepsBooks R c n (.succeeded i) c.complete n (.completed i) := by
  refine ⟨by simp, by simp, rfl, ?_, ?_, hi⟩
  · simp only [Worker.accounted, Counters.complete_completed, Counters.complete_failed]
    omega
  · simp only [Worker.isCompleted, Counters.complete_totalBytes, Counters.complete_completed, Bool.toNat_true,
      Bool.toNat_false]
    unfold uploadSize
    omega

theorem keepsBooks_transfer (hi : i < R) :
    KeepsBooks R c n (.completed i) (c.addBytes uploadSize) n (.atHead (i + 1)) :=
  ⟨by simp, by simp, rfl, rfl, by simp [Worker.isCompleted], hi⟩

theorem keepsBooks_fail (hi : i < R) : KeepsBooks R c n (.failed i) c.fail n (.atHead (i + 1)) := by
  refine ⟨by simp, by simp, rfl, ?_, rfl, hi⟩
  simp only [Worker.accounted, Counters.fail_completed, Counters.fail_failed]
  omega

end Books

/-! ## Every step keeps the invariant -/

theorem inv_start : Inv (System.start : System F) := by
  have hzero : ∀ (f : Nat → Worker → Nat) (p : Fin F.procs), (∀ R, f R .unspawned = 0) →
      perProcess f (System.start : System F) p = 0 := by
    intro f p hf
    refine tally_eq_zero fun w => ?_
    simp [System.start, hf]
  refine ⟨⟨rfl, rfl, by simp [System.start]⟩, ⟨fun p => ?_, fun p => ?_, fun p => ?_, fun w => trivial,
    fun w => by simp [System.start], fun w hj => absurd hj (by simp [System.start])⟩, ?_⟩
  · rw [hzero _ p fun R => rfl]
    rfl
  · rw [hzero _ p fun R => rfl]
    rfl
  · rw [hzero _ p fun R => rfl]
    rfl
  · have hc : count (fun _ x => Worker.isSucceeded x) (System.start : System F).worker = 0 :=
      tally_eq_zero fun _ => rfl
    have ht : (System.start : System F).total Counters.completedRequests = 0 := tally_eq_zero fun _ => rfl
    unfold credited
    rw [hc, ht]
    rfl

theorem inv_advance_step {s s' : System F} (hI : Inv s) {k : Nat} {before after : Stage}
    (h : s.advance k before after = some s') (hc : after.isCounted = before.isCounted)
    (ha : after.isAdded = before.isAdded) (hd : after.isDelivered = before.isDelivered) : Inv s' := by
  obtain ⟨m, hm, hs, rfl⟩ := advance_some h
  refine inv_advance (n := 0) (b := 0) hI hm ?_ ?_ ?_
  · rw [hs, hc]
    rfl
  · simp [Post.received, hs, ha]
  · rw [hs, hd]
    rfl

theorem inv_count {s s' : System F} {k : Nat} (hI : Inv s) (h : s.next (.count k) = some s') : Inv s' := by
  obtain ⟨s1, h1, rfl⟩ := Option.map_eq_some_iff.1 h
  obtain ⟨m, hm, hs, rfl⟩ := advance_some h1
  refine inv_advance (n := 1) (b := 0) hI hm ?_ ?_ ?_
  · rw [hs]
    rfl
  · simp [Post.received, hs, Stage.isAdded]
  · rw [hs]
    rfl

theorem inv_add {s s' : System F} {k : Nat} (hI : Inv s) (h : s.next (.add k) = some s') : Inv s' := by
  simp only [System.next] at h
  split at h
  · rename_i m' hm'
    obtain ⟨s1, h1, rfl⟩ := Option.map_eq_some_iff.1 h
    obtain ⟨m, hm, hs, rfl⟩ := advance_some h1
    rw [hm] at hm'
    cases hm'
    refine inv_advance (n := 0) (b := m'.bodySize) hI hm ?_ ?_ ?_
    · rw [hs]
      rfl
    · simp [Post.received, hs, Stage.isAdded]
    · rw [hs]
      rfl
  · cases h

theorem inv_spawn {s s' : System F} {p : Fin F.procs} (hI : Inv s) (h : s.next (.spawn p) = some s') :
    Inv s' := by
  simp only [System.next] at h
  split at h
  · rename_i hlt
    cases h
    obtain ⟨⟨s1, s2, s3⟩, hclient, hlink⟩ := hI
    have hun : s.worker ⟨p, ⟨(s.main p).spawned, hlt⟩⟩ = .unspawned := (hclient.spawned _).2 (le_refl _)
    -- a thread at the head of its first iteration has contributed as little as an unspawned one
    have hsame : ∀ f : Nat → Worker → Nat, (∀ R, f R (.atHead 0) = f R .unspawned) → ∀ q,
        tally (fun w x => if w.1 = q then f (F.requestsPerThread q) x else 0)
          (Function.update s.worker ⟨p, ⟨(s.main p).spawned, hlt⟩⟩ (.atHead 0)) = perProcess f s q :=
      fun f hf q => tally_update_same (by rw [hun, hf])
    refine ⟨⟨s1, s2, s3⟩, ⟨fun q => ?_, fun q => ?_, fun q => ?_, fun w => ?_, fun w => ?_, fun w hj => ?_⟩, ?_⟩
    · exact (hclient.begun q).trans (hsame Worker.begun (fun _ => rfl) q).symm
    · exact (hclient.accounted q).trans (hsame Worker.accounted (fun _ => rfl) q).symm
    · have hbytes := hclient.bytes q
      rw [← hsame (fun _ x => x.isCompleted.toNat) (fun _ => rfl) q] at hbytes
      exact hbytes
    · show (Function.update s.worker _ _ w).InLoop _
      by_cases hw : w = ⟨p, ⟨(s.main p).spawned, hlt⟩⟩
      · subst hw
        rw [Function.update_self]
        exact Nat.zero_le _
      · rw [Function.update_of_ne hw]
        exact hclient.inLoop w
    · show Function.update s.worker _ _ w = .unspawned ↔ (Function.update s.main p _ w.1).spawned ≤ w.2.val
      have hspawned := hclient.spawned w
      obtain ⟨q, j⟩ := w
      by_cases hq : q = p
      · subst hq
        rw [Function.update_self]
        by_cases hj : j = ⟨(s.main q).spawned, hlt⟩
        · subst hj
          simp
        · have hne : j.val ≠ (s.main q).spawned := fun e => hj (Fin.ext e)
          rw [Function.update_of_ne (by simpa using hj), hspawned]
          show (s.main q).spawned ≤ j.val ↔ (s.main q).spawned + 1 ≤ j.val
          omega
      · rw [Function.update_of_ne (by simp [hq]), Function.update_of_ne hq]
        exact hspawned
    · have hjoined : ∀ q, (Function.update s.main p { s.main p with spawned := (s.main p).spawned + 1 } q).joined =
          (s.main q).joined := by
        intro q
        by_cases hq : q = p
        · subst hq
          rw [Function.update_self]
        · rw [Function.update_of_ne hq]
      have hexit : s.worker w = .exited := hclient.joined w (lt_of_lt_of_eq hj (hjoined w.1))
      show Function.update s.worker _ _ w = .exited
      rw [Function.update_of_ne (by rintro rfl; rw [hun] at hexit; cases hexit)]
      exact hexit
    · show s.total Counters.completedRequests + count _ (Function.update s.worker _ _) = delivered s.posts
      rw [← hlink]
      unfold credited count
      rw [tally_update_same (by rw [hun]; rfl)]
  · cases h

theorem inv_join {s s' : System F} {p : Fin F.procs} (hI : Inv s) (h : s.next (.join p) = some s') :
    Inv s' := by
  simp only [System.next] at h
  split at h
  · rename_i hlt
    split at h
    · rename_i hcond
      obtain ⟨hall, hexit⟩ := hcond
      cases h
      obtain ⟨⟨s1, s2, s3⟩, hclient, hlink⟩ := hI
      refine ⟨⟨s1, s2, s3⟩, ⟨hclient.begun, hclient.accounted, hclient.bytes, hclient.inLoop, fun w => ?_,
        fun w hj => ?_⟩, hlink⟩
      · by_cases hp : w.1 = p
        · subst hp
          simp only [Function.update_self]
          exact hclient.spawned w
        · simp only [Function.update_of_ne hp]
          exact hclient.spawned w
      · by_cases hp : w.1 = p
        · obtain ⟨q, j⟩ := w
          subst hp
          simp only [Function.update_self] at hj
          rcases Nat.lt_or_ge j.val (s.main q).joined with hlt' | hge
          · exact hclient.joined ⟨q, j⟩ hlt'
          · -- the thread that is joined now has left its loop
            have hj' : j = ⟨(s.main q).joined, hlt⟩ := Fin.ext (show j.val = (s.main q).joined by omega)
            rw [hj']
            exact hexit
        · simp only [Function.update_of_ne hp] at hj
          exact hclient.joined w hj
    · cases h
  · cases h

theorem inv_post {s s' : System F} {w : F.Thread} (hI : Inv s) (h : s.next (.post w) = some s') : Inv s' := by
  simp only [System.next] at h
  split at h
  · rename_i i hw
    split at h
    · rename_i hi
      cases h
      have hmove : Inv (s.move w (.waiting i s.posts.length) (s.counters w.1) (s.iterations w.1 + 1)) :=
        inv_move hI (hw ▸ keepsBooks_post hi) (by rw [hw]; rfl)
      rw [setWorker_eq_move]
      obtain ⟨hserver, ⟨c1, c2, c3, c4, c5, c6⟩, hlink⟩ := hmove
      -- the new message is neither counted, added nor delivered
      simp only [System.move] at c1 c2 c3 c4 c5 c6 hlink ⊢
      refine ⟨⟨?_, ?_, fun m hm => ?_⟩, ⟨c1, c2, c3, c4, c5, c6⟩, ?_⟩
      · simpa [Stage.isCounted] using hI.server.counted
      · simpa [Post.received, Stage.isAdded] using hI.server.added
      · rcases List.mem_append.1 hm with hm | hm
        · exact hI.server.size m hm
        · rw [List.mem_singleton.1 hm]
      · refine hlink.trans ?_
        simp [delivered, Stage.isDelivered]
    · cases h
  · cases h

theorem inv_deliver {s s' : System F} {w : F.Thread} (hI : Inv s) (h : s.next (.deliver w) = some s') : Inv s' := by
  simp only [System.next] at h
  split at h
  · rename_i i k hw
    obtain ⟨s1, h1, rfl⟩ := Option.map_eq_some_iff.1 h
    obtain ⟨m, hm, hs, rfl⟩ := advance_some h1
    have hloop := hI.client.inLoop w
    rw [hw] at hloop
    have hserver := serverInv_advance hI.server .delivered 0 0 hm
      (by rw [hs]; rfl) (by simp [Post.received, hs, Stage.isAdded])
    have hk : KeepsBooks (F.requestsPerThread w.1) (s.counters w.1) (s.iterations w.1) (s.worker w)
        (s.counters w.1) (s.iterations w.1) (.succeeded i) := hw ▸ keepsBooks_deliver hloop
    obtain ⟨c1, c2, c3, c4, c5, c6⟩ := clientInv_move hI.client hk
    have hmove := credited_move s w (.succeeded i) (s.counters w.1) (s.iterations w.1)
    rw [hw] at hmove
    simp only [Worker.isSucceeded, Bool.toNat_true, Bool.toNat_false] at hmove
    -- the reply is delivered and credited in one step, so both sides of the link move by one
    have hposts := delivered_advance .delivered 1 hm (by rw [hs]; rfl)
    have hlink := hI.linked
    rw [setWorker_eq_move]
    refine ⟨⟨hserver.counted, hserver.added, hserver.size⟩, ⟨c1, c2, c3, c4, c5, c6⟩, ?_⟩
    show credited (s.move w (.succeeded i) (s.counters w.1) (s.iterations w.1)) = delivered (s.posts.set k _)
    omega
  · cases h

theorem inv_exit {s s' : System F} {w : F.Thread} (hI : Inv s) (h : s.next (.exit w) = some s') : Inv s' := by
  simp only [System.next] at h
  split at h
  · rename_i i hw
    split at h
    · cases h
    · rename_i hle
      cases h
      have hloop := hI.client.inLoop w
      rw [hw] at hloop
      rw [setWorker_eq_move]
      exact inv_move hI (hw ▸ keepsBooks_exit (le_antisymm hloop (by omega))) (by rw [hw]; rfl)
  · cases h

theorem inv_giveUp {s s' : System F} {w : F.Thread} (hI : Inv s) (h : s.next (.giveUp w) = some s') : Inv s' := by
  simp only [System.next] at h
  split at h
  · rename_i i k hw
    cases h
    have hloop := hI.client.inLoop w
    rw [hw] at hloop
    rw [setWorker_eq_move]
    exact inv_move hI (hw ▸ keepsBooks_giveUp hloop) (by rw [hw]; rfl)
  · cases h

theorem inv_complete {s s' : System F} {w : F.Thread} (hI : Inv s) (h : s.next (.complete w) = some s') : Inv s' := by
  simp only [System.next] at h
  split at h
  · rename_i i hw
    cases h
    have hloop := hI.client.inLoop w
    rw [hw] at hloop
    rw [setCounters_eq_move]
    exact inv_move hI (hw ▸ keepsBooks_complete hloop) (by rw [hw]; rfl)
  · cases h

theorem inv_transfer {s s' : System F} {w : F.Thread} (hI : Inv s) (h : s.next (.transfer w) = some s') : Inv s' := by
  simp only [System.next] at h
  split at h
  · rename_i i hw
    cases h
    have hloop := hI.client.inLoop w
    rw [hw] at hloop
    rw [setCounters_eq_move]
    exact inv_move hI (hw ▸ keepsBooks_transfer hloop) (by rw [hw]; rfl)
  · cases h

theorem inv_fail {s s' : System F} {w : F.Thread} (hI : Inv s) (h : s.next (.fail w) = some s') : Inv s' := by
  simp only [System.next] at h
  split at h
  · rename_i i hw
    cases h
    have hloop := hI.client.inLoop w
    rw [hw] at hloop
    rw [setCounters_eq_move]
    exact inv_move hI (hw ▸ keepsBooks_fail hloop) (by rw [hw]; rfl)
  · cases h

theorem inv_next (s : System F) (a : Act F) (s' : System F) (hI : Inv s) (h : s.next a = some s') : Inv s' := by
  cases a with
  | spawn p => exact inv_spawn hI h
  | join p => exact inv_join hI h
  | post w => exact inv_post hI h
  | exit w => exact inv_exit hI h
  | deliver w => exact inv_deliver hI h
  | giveUp w => exact inv_giveUp hI h
  | complete w => exact inv_complete hI h
  | transfer w => exact inv_transfer hI h
  | fail w => exact inv_fail hI h
  | receive k => exact inv_advance_step hI h rfl rfl rfl
  | count k => exact inv_count hI h
  | add k => exact inv_add hI h
  | reply k => exact inv_advance_step hI h rfl rfl rfl
  | loseRequest k => exact inv_advance_step hI h rfl rfl rfl
  | loseReply k => exact inv_advance_step hI h rfl rfl rfl

theorem reachable_inv {s : System F} (h : (upload F).Reachable s) : Inv s :=
  Machine.inv Inv inv_start inv_next h

/-! ## The accounts -/

end HttpSurvey.Httplib
