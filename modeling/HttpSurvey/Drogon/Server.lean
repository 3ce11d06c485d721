/-
`regular_drogon_server` under load: `n` requests handled at once by its event loops. A handler of
`/receive_data` raises the two atomic counters one after the other, without a lock; a handler of
`/request_stats` loads them in either order, since the operands of the `+` that builds its text are
unsequenced. `request_count` is an atomic `int`, `total_received_bytes` an atomic `size_t`, and both
wrap. What the handlers print to the console is left out.
-/
import HttpSurvey.Lib.Snapshot
import HttpSurvey.Lib.Threads
import HttpSurvey.Lib.Word

namespace HttpSurvey.Drogon.Server

open HttpSurvey.Lib

/-- A request to one of the two endpoints. -/
inductive Request
  | receiveData (body : List UInt8)
  | requestStats
  deriving DecidableEq, Repr

/-- `req->getBody().size()`. -/
def Request.bodySize : Request → Nat
  | .receiveData body => body.length
  | .requestStats => 0

def Request.isPost : Request → Bool
  | .receiveData _ => true
  | .requestStats => false

/-- The text of the statistics. -/
def statsText (requestCount : Int) (totalReceivedBytes : Nat) : String :=
  "总请求数: " ++ toString requestCount ++ "\n总接收数据量: " ++
    toString (totalReceivedBytes / (1024 * 1024)) ++ " MB"

/-- The atomics of `main`. -/
structure Counters where
  requestCount : Int
  totalReceivedBytes : Nat
  deriving DecidableEq, Repr

/-- Where a handler stands: it has raised `request_count`, has raised `total_received_bytes`, has
passed its response to the callback. -/
inductive Handler
  | waiting
  | counted (count : Int)
  | added (count : Int)
  | responded (body : String)
  | stats (reader : Reader Int Nat String)
  deriving DecidableEq, Repr

/-- `++request_count` has happened. -/
def Handler.isCounted : Handler → Bool
  | .counted _ | .added _ | .responded _ => true
  | .waiting | .stats _ => false

/-- `total_received_bytes += body_size` has happened. -/
def Handler.isAdded : Handler → Bool
  | .added _ | .responded _ => true
  | .waiting | .counted _ | .stats _ => false

/-- The atomic steps. -/
inductive Op
  | increment
  | add
  | respond
  | stats (o : ReaderOp)
  deriving DecidableEq, Repr

section Steps

variable {n : Nat} (requests : Fin n → Request)

/-- A step of the handler of request `k`. -/
def step (k : Fin n) (m : Counters) : Handler → Op → Option (Counters × Handler)
  | .waiting, .increment =>
    some ({ m with requestCount := wrapInt (m.requestCount + 1) }, .counted (wrapInt (m.requestCount + 1)))
  | .counted count, .add =>
    some ({ m with totalReceivedBytes := addSize m.totalReceivedBytes (requests k).bodySize }, .added count)
  | .added _, .respond => some (m, .responded ("Received " ++ toString (requests k).bodySize ++ " bytes"))
  | .stats reader, .stats o =>
    (reader.step statsText m.requestCount m.totalReceivedBytes o).map fun reader' => (m, .stats reader')
  | _, _ => none

/-- The handler of a request before its first step. -/
def startHandler (k : Fin n) : Handler :=
  match requests k with
  | .receiveData _ => .waiting
  | .requestStats => .stats .idle

/-- The server with these requests in its event loops. -/
def server : Machine (Threads (Fin n) Counters Handler) (Fin n × Op) :=
  Threads.interleave (step requests) ⟨0, 0⟩ (startHandler requests)

/-! ## What a step does -/

/-- The steps of a handler, one constructor for each. -/
inductive Step (k : Fin n) (m : Counters) : Handler → Op → Counters → Handler → Prop
  | increment : Step k m .waiting .increment { m with requestCount := wrapInt (m.requestCount + 1) }
      (.counted (wrapInt (m.requestCount + 1)))
  | add {count : Int} : Step k m (.counted count) .add
      { m with totalReceivedBytes := addSize m.totalReceivedBytes (requests k).bodySize } (.added count)
  | respond {count : Int} (body : String) : Step k m (.added count) .respond m (.responded body)
  | stats {reader reader' : Reader Int Nat String} {o : ReaderOp}
      (h : reader.step statsText m.requestCount m.totalReceivedBytes o = some reader') :
    Step k m (.stats reader) (.stats o) m (.stats reader')

variable {requests}

theorem step_cases {k : Fin n} {m m' : Counters} {h h' : Handler} {o : Op}
    (hstep : step requests k m h o = some (m', h')) : Step requests k m h o m' h' := by
  unfold step at hstep
  split at hstep
  · cases hstep
    exact .increment
  · cases hstep
    exact .add
  · cases hstep
    exact .respond _
  · rw [Option.map_eq_some_iff] at hstep
    obtain ⟨reader', hr, heq⟩ := hstep
    cases heq
    exact .stats hr
  · cases hstep

/-! ## The counters and the handlers -/

/-- The POSTs whose handlers have raised `request_count`. -/
abbrev counted (s : Threads (Fin n) Counters Handler) : Finset (Fin n) := s.those fun _ h => h.isCounted

/-- The POSTs whose handlers have raised `total_received_bytes`. -/
abbrev added (s : Threads (Fin n) Counters Handler) : Finset (Fin n) := s.those fun _ h => h.isAdded

theorem startHandler_cases (requests : Fin n → Request) (k : Fin n) :
    startHandler requests k = .waiting ∨ startHandler requests k = .stats .idle := by
  unfold startHandler
  split
  · exact .inl rfl
  · exact .inr rfl

/-- `request_count` is the number of the handlers that have raised it, as an `int`. -/
theorem tracks_requestCount :
    Threads.Tracks (step requests) Counters.requestCount (fun _ h => h.isCounted) (fun _ => 1)
      (fun N => wrapInt N) where
  same k m h o m' h' hstep hsame := by
    cases step_cases hstep with
    | increment => cases hsame
    | _ => rfl
  raise k m h o m' h' hstep h0 h1 N hN := by
    cases step_cases hstep with
    | increment =>
      change wrapInt (m.requestCount + 1) = _
      rw [hN]
      unfold wrapInt
      rw [Int.bmod_add_bmod, Nat.cast_add, Nat.cast_one]
    | stats => cases h1
    | _ => cases h0
  stays k m h o m' h' hstep h0 := by
    cases step_cases hstep with
    | increment | stats => cases h0
    | _ => rfl

/-- `total_received_bytes` is the sum of the bodies of the POSTs that have been added. -/
theorem tracks_totalReceivedBytes :
    Threads.Tracks (step requests) Counters.totalReceivedBytes (fun _ h => h.isAdded)
      (fun k => (requests k).bodySize) (· % sizeMod) where
  same k m h o m' h' hstep hsame := by
    cases step_cases hstep with
    | add => cases hsame
    | _ => rfl
  raise k m h o m' h' hstep h0 h1 N hN := by
    cases step_cases hstep with
    | add =>
      change addSize m.totalReceivedBytes (requests k).bodySize = _
      rw [hN, addSize, Nat.mod_add_mod]
    | increment | stats => cases h1
    | respond => cases h0
  stays k m h o m' h' hstep h0 := by
    cases step_cases hstep with
    | increment | add | stats => cases h0
    | respond => rfl

variable {s : Threads (Fin n) Counters Handler}

theorem requestCount_eq (h : (server requests).Reachable s) : s.shared.requestCount = wrapInt (counted s).card := by
  rw [tracks_requestCount.reachable rfl ?_ h, Finset.sum_const, smul_eq_mul, mul_one]
  intro k
  rcases startHandler_cases requests k with hk | hk <;> rw [hk] <;> rfl

theorem totalReceivedBytes_eq (h : (server requests).Reachable s) :
    s.shared.totalReceivedBytes = (∑ k ∈ added s, (requests k).bodySize) % sizeMod := by
  apply tracks_totalReceivedBytes.reachable rfl ?_ h
  intro k
  rcases startHandler_cases requests k with hk | hk <;> rw [hk] <;> rfl

/-- The reader in the handler of a `/request_stats`. -/
def Handler.reader : Handler → Reader Int Nat String
  | .stats reader => reader
  | _ => .idle

end Steps

end HttpSurvey.Drogon.Server
