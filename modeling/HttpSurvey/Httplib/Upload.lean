/-
The httplib upload benchmark as one system: any number of `concurrent_httplib_client` processes in
upload mode, each spawning and joining its worker threads, against one `concurrent_httplib_server`
whose `POST /receive_data` handlers run concurrently. A `Post` call puts a message in flight; the
message and its reply may be lost, a worker may give up at any time while its message or handler
lives on, and each message is handled at most once. A worker sees a 200 only by the delivery of the
reply of the handler that ran for its own message.
-/
import HttpSurvey.Httplib.Client
import HttpSurvey.Lib.Machine
import HttpSurvey.Lib.Tally

namespace HttpSurvey.Httplib

open HttpSurvey.Lib

/-- The client processes: how many, and the `thread_count` and `requests_per_thread` of each. -/
structure Fleet where
  procs : Nat
  threadCount : Fin procs → Nat
  requestsPerThread : Fin procs → Nat

/-- A worker thread: its process and its index in `threads`. -/
abbrev Fleet.Thread (F : Fleet) := (p : Fin F.procs) × Fin (F.threadCount p)

/-- `large_data.size()` in the `main` of the client. -/
def uploadSize : Nat := 30 * 1024

/-- Where a worker stands: not spawned, at the loop test with its `i`, waiting in `Post` for the
message with the given number, past a 200 with none or one of its two counters raised, past a
failure, or out of the loop. -/
inductive Worker
  | unspawned
  | atHead (i : Nat)
  | waiting (i k : Nat)
  | succeeded (i : Nat)
  | completed (i : Nat)
  | failed (i : Nat)
  | exited
  deriving DecidableEq, Repr

/-- Where a message stands: in flight, taken up by a handler that has then raised `request_count`,
then `total_received_bytes`, its reply in flight, the reply delivered, or the message or the reply
lost. -/
inductive Stage
  | sent
  | handling
  | counted
  | added
  | replied
  | delivered
  | requestLost
  | replyLost
  deriving DecidableEq, Repr

/-- A POST message and its handler. -/
structure Post where
  bodySize : Nat
  stage : Stage
  deriving DecidableEq, Repr

/-- The `main` of a process: the threads spawned and the threads joined. -/
structure Main where
  spawned : Nat
  joined : Nat
  deriving DecidableEq, Repr

/-- The whole system. The ghost `iterations` counts the loop iterations begun by the workers of a
process. -/
structure System (F : Fleet) where
  main : Fin F.procs → Main
  worker : F.Thread → Worker
  counters : Fin F.procs → Counters
  iterations : Fin F.procs → Nat
  posts : List Post
  requestCount : Nat
  totalReceivedBytes : Nat

/-- The atomic steps. -/
inductive Act (F : Fleet)
  /-- `main` starts its next worker thread. -/
  | spawn (p : Fin F.procs)
  /-- `main` joins its next worker thread. -/
  | join (p : Fin F.procs)
  /-- A worker begins an iteration and calls `Post`. -/
  | post (w : F.Thread)
  /-- A worker leaves its loop. -/
  | exit (w : F.Thread)
  /-- The reply of the worker's own message arrives: status 200. -/
  | deliver (w : F.Thread)
  /-- `Post` yields no result or another status, or throws. -/
  | giveUp (w : F.Thread)
  /-- `completed_requests++`. -/
  | complete (w : F.Thread)
  /-- `total_bytes_transferred += bytes_transferred`. -/
  | transfer (w : F.Thread)
  /-- `failed_requests++`. -/
  | fail (w : F.Thread)
  /-- The server takes up a message and starts its handler. -/
  | receive (k : Nat)
  /-- `++request_count`. -/
  | count (k : Nat)
  /-- `total_received_bytes += body_size`. -/
  | add (k : Nat)
  /-- The handler returns and its reply is sent. -/
  | reply (k : Nat)
  /-- A message in flight is lost. -/
  | loseRequest (k : Nat)
  /-- A reply in flight is lost. -/
  | loseReply (k : Nat)

section Steps

variable {F : Fleet}

def System.start : System F where
  main := fun _ => ⟨0, 0⟩
  worker := fun _ => .unspawned
  counters := fun _ => .zero
  iterations := fun _ => 0
  posts := []
  requestCount := 0
  totalReceivedBytes := 0

/-- The worker moves. -/
def System.setWorker (s : System F) (w : F.Thread) (x : Worker) : System F :=
  { s with worker := Function.update s.worker w x }

/-- The counters of a process change. -/
def System.setCounters (s : System F) (p : Fin F.procs) (c : Counters) : System F :=
  { s with counters := Function.update s.counters p c }

/-- A message moves from one stage to the next. -/
def System.advance (s : System F) (k : Nat) (before after : Stage) : Option (System F) :=
  match s.posts[k]? with
  | some m => if m.stage = before then some { s with posts := s.posts.set k { m with stage := after } } else none
  | none => none

def System.next (s : System F) : Act F → Option (System F)
  | .spawn p =>
    if h : (s.main p).spawned < F.threadCount p then
      some { s.setWorker ⟨p, ⟨(s.main p).spawned, h⟩⟩ (.atHead 0) with
        main := Function.update s.main p { s.main p with spawned := (s.main p).spawned + 1 } }
    else none
  | .join p =>
    if h : (s.main p).joined < F.threadCount p then
      if (s.main p).spawned = F.threadCount p ∧ s.worker ⟨p, ⟨(s.main p).joined, h⟩⟩ = .exited then
        some { s with main := Function.update s.main p { s.main p with joined := (s.main p).joined + 1 } }
      else none
    else none
  | .post w =>
    match s.worker w with
    | .atHead i =>
      if i < F.requestsPerThread w.1 then
        some { s.setWorker w (.waiting i s.posts.length) with
          posts := s.posts ++ [⟨uploadSize, .sent⟩]
          iterations := Function.update s.iterations w.1 (s.iterations w.1 + 1) }
      else none
    | _ => none
  | .exit w =>
    match s.worker w with
    | .atHead i => if i < F.requestsPerThread w.1 then none else some (s.setWorker w .exited)
    | _ => none
  | .deliver w =>
    match s.worker w with
    | .waiting i k => (s.advance k .replied .delivered).map (·.setWorker w (.succeeded i))
    | _ => none
  | .giveUp w =>
    match s.worker w with
    | .waiting i _ => some (s.setWorker w (.failed i))
    | _ => none
  | .complete w =>
    match s.worker w with
    | .succeeded i => some ((s.setWorker w (.completed i)).setCounters w.1 (s.counters w.1).complete)
    | _ => none
  | .transfer w =>
    match s.worker w with
    | .completed i => some ((s.setWorker w (.atHead (i + 1))).setCounters w.1 ((s.counters w.1).addBytes uploadSize))
    | _ => none
  | .fail w =>
    match s.worker w with
    | .failed i => some ((s.setWorker w (.atHead (i + 1))).setCounters w.1 (s.counters w.1).fail)
    | _ => none
  | .receive k => s.advance k .sent .handling
  | .count k => (s.advance k .handling .counted).map fun s => { s with requestCount := s.requestCount + 1 }
  | .add k =>
    match s.posts[k]? with
    | some m => (s.advance k .counted .added).map fun s =>
        { s with totalReceivedBytes := s.totalReceivedBytes + m.bodySize }
    | none => none
  | .reply k => s.advance k .added .replied
  | .loseRequest k => s.advance k .sent .requestLost
  | .loseReply k => s.advance k .replied .replyLost

/-- The clients and the server with everything in flight between them. -/
def upload (F : Fleet) : Machine (System F) (Act F) := ⟨.start, System.next⟩

/-- The sum of a counter over the processes. -/
def System.total (f : Counters → Nat) (s : System F) : Nat := tally (fun _ c => f c) s.counters

end Steps

end HttpSurvey.Httplib
