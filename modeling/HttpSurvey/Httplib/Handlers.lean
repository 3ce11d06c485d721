/-
`concurrent_httplib_server` under load: `n` requests handled at once by the threads of its pool. Each
handler goes through the atomic steps of the lambda registered for its endpoint, on the two atomic
counters, `stats_mutex` and the log that it guards; a handler of `/request_stats` loads the two
counters in either order, since the operands of the `+` that builds its text are unsequenced.

A log line keeps the value of `total_received_bytes` that its text shows in whole megabytes. The
counters wrap at `2 ^ 64`.
-/
import HttpSurvey.Httplib.Server
import HttpSurvey.Lib.Snapshot
import HttpSurvey.Lib.Threads

namespace HttpSurvey.Httplib.Handlers

open HttpSurvey.Lib

/-- A request and its peer. -/
structure Call where
  request : Request
  remoteAddr : String
  remotePort : Int
  deriving DecidableEq, Repr

/-- `req.body.size()`. -/
def Call.bodySize (c : Call) : Nat :=
  match c.request with
  | .receiveData body => body.length
  | .largeData | .requestStats => 0

def Call.isPost (c : Call) : Bool :=
  match c.request with
  | .receiveData _ => true
  | .largeData | .requestStats => false

/-- A line of the log, with the handler that printed it. -/
inductive Line (n : Nat)
  | post (k : Fin n) (count bodySize total : Nat)
  | get (k : Fin n) (count : Nat)
  deriving DecidableEq, Repr

/-- The text of a line. -/
def Line.text {n : Nat} (calls : Fin n → Call) : Line n → String
  | .post k count bodySize total =>
    "POST #" ++ toString count ++ " from " ++ (calls k).remoteAddr ++ ":" ++ toString (calls k).remotePort ++
      " - Size: " ++ toString (bodySize / (1024 * 1024)) ++ "MB" ++
      " - Total: " ++ toString (total / (1024 * 1024)) ++ "MB\n"
  | .get k count =>
    "GET #" ++ toString count ++ " from " ++ (calls k).remoteAddr ++ ":" ++ toString (calls k).remotePort ++ "\n"

/-- The globals of the server and its standard output. -/
structure Shared (n : Nat) where
  requestCount : Nat
  totalReceivedBytes : Nat
  statsMutex : Option (Fin n)
  log : List (Line n)

/-- Where a handler stands, with its local variables: it has raised `request_count`, has raised
`total_received_bytes`, holds the lock, has loaded the total for its line, has printed the line, has
released the lock, has set the response. -/
inductive Handler
  | waiting
  | counted (count : Nat)
  | added (count : Nat)
  | locked (count : Nat)
  | loaded (count total : Nat)
  | printed (count : Nat)
  | unlocked (count : Nat)
  | responded (count : Nat) (body : String)
  | stats (reader : Reader Nat Nat String)
  deriving DecidableEq, Repr

/-- The number that the handler obtained from `++request_count`. -/
def Handler.number : Handler → Option Nat
  | .waiting | .stats _ => none
  | .counted count | .added count | .locked count | .loaded count _ | .printed count | .unlocked count
  | .responded count _ => some count

/-- `++request_count` has happened. -/
def Handler.isCounted (h : Handler) : Bool := h.number.isSome

/-- The handler is past `total_received_bytes += body_size`. -/
def Handler.isAdded : Handler → Bool
  | .waiting | .stats _ | .counted _ => false
  | .added _ | .locked _ | .loaded _ _ | .printed _ | .unlocked _ | .responded _ _ => true

/-- The handler holds `stats_mutex`. -/
def Handler.holdsLock : Handler → Bool
  | .locked _ | .loaded _ _ | .printed _ => true
  | .waiting | .stats _ | .counted _ | .added _ | .unlocked _ | .responded _ _ => false

/-- The handler has returned. -/
def Handler.isFinished : Handler → Bool
  | .responded _ _ | .stats (.done _) => true
  | _ => false

/-- The atomic steps. -/
inductive Op
  | increment
  | add
  | lock
  | load
  | print
  | unlock
  | respond
  | stats (o : ReaderOp)
  deriving DecidableEq, Repr

section Steps

variable {n : Nat} (calls : Fin n → Call)

/-- `std::lock_guard lock(stats_mutex)`. -/
def acquire (k : Fin n) (m : Shared n) (count : Nat) : Option (Shared n × Handler) :=
  if m.statsMutex = none then some ({ m with statsMutex := some k }, .locked count) else none

/-- A step of the handler of request `k`. -/
def step (k : Fin n) (m : Shared n) : Handler → Op → Option (Shared n × Handler)
  | .waiting, .increment =>
    if (calls k).request.isCounted then
      some ({ m with requestCount := addSize m.requestCount 1 }, .counted (addSize m.requestCount 1))
    else none
  | .counted count, .add =>
    match (calls k).request with
    | .receiveData body =>
      some ({ m with totalReceivedBytes := addSize m.totalReceivedBytes body.length }, .added count)
    | .largeData | .requestStats => none
  | .counted count, .lock =>
    match (calls k).request with
    | .largeData => acquire k m count
    | .receiveData _ | .requestStats => none
  | .added count, .lock => acquire k m count
  | .locked count, .load =>
    match (calls k).request with
    | .receiveData _ => some (m, .loaded count m.totalReceivedBytes)
    | .largeData | .requestStats => none
  | .loaded count total, .print =>
    match (calls k).request with
    | .receiveData body => some ({ m with log := m.log ++ [.post k count body.length total] }, .printed count)
    | .largeData | .requestStats => none
  | .locked count, .print =>
    match (calls k).request with
    | .largeData => some ({ m with log := m.log ++ [.get k count] }, .printed count)
    | .receiveData _ | .requestStats => none
  | .printed count, .unlock => some ({ m with statsMutex := none }, .unlocked count)
  | .unlocked count, .respond =>
    match (calls k).request with
    | .receiveData body => some (m, .responded count (receivedText body.length))
    | .largeData => some (m, .responded count largeData)
    | .requestStats => none
  | .stats reader, .stats o =>
    (reader.step (fun count total => statsText (toString count) total) m.requestCount m.totalReceivedBytes o).map
      fun reader' => (m, .stats reader')
  | _, _ => none

def startShared : Shared n := { requestCount := 0, totalReceivedBytes := 0, statsMutex := none, log := [] }

/-- The handler of a request before its first step. -/
def startHandler (k : Fin n) : Handler :=
  match (calls k).request with
  | .requestStats => .stats .idle
  | .receiveData _ | .largeData => .waiting

/-- The server with these requests in its pool. -/
def server : Machine (Threads (Fin n) (Shared n) Handler) (Fin n × Op) :=
  Threads.interleave (step calls) startShared (startHandler calls)

/-! ## What a step does -/

/-- The steps of a handler, one constructor for each. -/
inductive Step (k : Fin n) (m : Shared n) : Handler → Op → Shared n → Handler → Prop
  | increment (hreq : (calls k).request.isCounted = true) :
    Step k m .waiting .increment { m with requestCount := addSize m.requestCount 1 }
      (.counted (addSize m.requestCount 1))
  | add {body : List UInt8} {count : Nat} (hreq : (calls k).request = .receiveData body) :
    Step k m (.counted count) .add
      { m with totalReceivedBytes := addSize m.totalReceivedBytes body.length } (.added count)
  | lockGet {count : Nat} (hreq : (calls k).request = .largeData) (hfree : m.statsMutex = none) :
    Step k m (.counted count) .lock { m with statsMutex := some k } (.locked count)
  | lockPost {count : Nat} (hfree : m.statsMutex = none) :
    Step k m (.added count) .lock { m with statsMutex := some k } (.locked count)
  | load {body : List UInt8} {count : Nat} (hreq : (calls k).request = .receiveData body) :
    Step k m (.locked count) .load m (.loaded count m.totalReceivedBytes)
  | printPost {body : List UInt8} {count total : Nat} (hreq : (calls k).request = .receiveData body) :
    Step k m (.loaded count total) .print { m with log := m.log ++ [.post k count body.length total] }
      (.printed count)
  | printGet {count : Nat} (hreq : (calls k).request = .largeData) :
    Step k m (.locked count) .print { m with log := m.log ++ [.get k count] } (.printed count)
  | unlock {count : Nat} : Step k m (.printed count) .unlock { m with statsMutex := none } (.unlocked count)
  | respond {count : Nat} (body : String) : Step k m (.unlocked count) .respond m (.responded count body)
  | stats {reader reader' : Reader Nat Nat String} {o : ReaderOp}
      (h : reader.step (fun count total => statsText (toString count) total) m.requestCount
        m.totalReceivedBytes o = some reader') :
    Step k m (.stats reader) (.stats o) m (.stats reader')

variable {calls}

theorem acquire_eq_some {k : Fin n} {m m' : Shared n} {count : Nat} {h' : Handler}
    (h : acquire k m count = some (m', h')) :
    m.statsMutex = none ∧ m' = { m with statsMutex := some k } ∧ h' = .locked count := by
  unfold acquire at h
  split at h
  · rename_i hfree
    cases h
    exact ⟨hfree, rfl, rfl⟩
  · cases h

theorem step_cases {k : Fin n} {m m' : Shared n} {h h' : Handler} {o : Op}
    (hstep : step calls k m h o = some (m', h')) : Step calls k m h o m' h' := by
  unfold step at hstep
  split at hstep
  · split at hstep
    · rename_i hreq
      cases hstep
      exact .increment hreq
    · cases hstep
  · split at hstep
    · rename_i hreq
      cases hstep
      exact .add hreq
    all_goals cases hstep
  · split at hstep
    · rename_i hreq
      obtain ⟨hfree, rfl, rfl⟩ := acquire_eq_some hstep
      exact .lockGet hreq hfree
    all_goals cases hstep
  · obtain ⟨hfree, rfl, rfl⟩ := acquire_eq_some hstep
    exact .lockPost hfree
  · split at hstep
    · rename_i hreq
      cases hstep
      exact .load hreq
    all_goals cases hstep
  · split at hstep
    · rename_i hreq
      cases hstep
      exact .printPost hreq
    all_goals cases hstep
  · split at hstep
    · rename_i hreq
      cases hstep
      exact .printGet hreq
    all_goals cases hstep
  · cases hstep
    exact .unlock
  · split at hstep
    · cases hstep
      exact .respond _
    · cases hstep
      exact .respond _
    · cases hstep
  · rw [Option.map_eq_some_iff] at hstep
    obtain ⟨reader', hr, heq⟩ := hstep
    cases heq
    exact .stats hr
  · cases hstep

/-! ## The counters and the handlers -/

/-- The handlers that have raised `request_count`. -/
abbrev counted (s : Threads (Fin n) (Shared n) Handler) : Finset (Fin n) :=
  s.those fun _ h => h.isCounted

/-- The POSTs whose handlers have raised `total_received_bytes`. -/
abbrev added (calls : Fin n → Call) (s : Threads (Fin n) (Shared n) Handler) : Finset (Fin n) :=
  s.those fun k h => (calls k).isPost && h.isAdded

theorem startHandler_cases (calls : Fin n → Call) (k : Fin n) : startHandler calls k = .waiting ∨ startHandler calls k = .stats .idle := by
  unfold startHandler
  split
  · exact .inr rfl
  · exact .inl rfl
  · exact .inl rfl

/-- `request_count` is the number of the handlers that have raised it. -/
theorem tracks_requestCount :
    Threads.Tracks (step calls) Shared.requestCount (fun _ h => h.isCounted) (fun _ => 1) (· % sizeMod) where
  same k m h o m' h' hstep hsame := by
    cases step_cases hstep with
    | increment => cases hsame
    | _ => rfl
  raise k m h o m' h' hstep h0 h1 N hN := by
    cases step_cases hstep with
    | increment =>
      change addSize m.requestCount 1 = _
      rw [hN, addSize, Nat.mod_add_mod]
    | stats => cases h1
    | _ => cases h0
  stays k m h o m' h' hstep h0 := by
    cases step_cases hstep with
    | increment | stats => cases h0
    | _ => rfl

theorem isPost_of_receiveData {k : Fin n} {body : List UInt8} (h : (calls k).request = .receiveData body) :
    (calls k).isPost = true ∧ (calls k).bodySize = body.length := by
  unfold Call.isPost Call.bodySize
  rw [h]
  exact ⟨rfl, rfl⟩

theorem isPost_of_largeData {k : Fin n} (h : (calls k).request = .largeData) : (calls k).isPost = false := by
  unfold Call.isPost
  rw [h]

/-- `total_received_bytes` is the sum of the bodies of the POSTs that have been added. -/
theorem tracks_totalReceivedBytes :
    Threads.Tracks (step calls) Shared.totalReceivedBytes (fun k h => (calls k).isPost && h.isAdded)
      (fun k => (calls k).bodySize) (· % sizeMod) where
  same k m h o m' h' hstep hsame := by
    cases step_cases hstep with
    | add hreq => simp [isPost_of_receiveData hreq, Handler.isAdded] at hsame
    | _ => rfl
  raise k m h o m' h' hstep h0 h1 N hN := by
    cases step_cases hstep with
    | @add body count hreq =>
      change addSize m.totalReceivedBytes body.length = _
      rw [hN, addSize, Nat.mod_add_mod, (isPost_of_receiveData hreq).2]
    | increment | stats => simp [Handler.isAdded] at h1
    | lockGet hreq => simp [isPost_of_largeData hreq] at h1
    | _ =>
      simp only [Handler.isAdded] at h0 h1
      rw [h0] at h1
      cases h1
  stays k m h o m' h' hstep h0 := by
    cases step_cases hstep with
    | increment | add | lockGet | stats => simp [Handler.isAdded] at h0
    | _ => exact h0

variable {s : Threads (Fin n) (Shared n) Handler}

theorem counted_init (calls : Fin n → Call) (k : Fin n) : (startHandler calls k).isCounted = false := by
  rcases startHandler_cases calls k with h | h <;> rw [h] <;> rfl

theorem added_init (calls : Fin n → Call) (k : Fin n) : ((calls k).isPost && (startHandler calls k).isAdded) = false := by
  rcases startHandler_cases calls k with h | h <;> rw [h] <;> exact Bool.and_false _

/-- The requests whose handlers take a number and print a line. -/
def logging (calls : Fin n → Call) : Finset (Fin n) :=
  Finset.univ.filter fun k => (calls k).request.isCounted

theorem counted_subset_logging (h : (server calls).Reachable s) : counted s ⊆ logging calls := by
  intro k hk
  rw [Threads.mem_those] at hk
  have hown := Threads.reachable_forall
    (fun _ k h => h.isCounted = true → (calls k).request.isCounted = true) ?_ ?_ ?_ h k hk
  · exact Finset.mem_filter.2 ⟨Finset.mem_univ k, hown⟩
  · intro k hk
    rw [counted_init] at hk
    cases hk
  · intro k m h o m' h' hk hstep
    cases step_cases hstep with
    | increment hreq => exact fun _ => hreq
    | stats => exact hk
    | _ => exact fun _ => hk rfl
  · intro i j m h o m' h' k hji hi hj hstep
    exact hj

theorem requestCount_eq (h : (server calls).Reachable s) :
    s.shared.requestCount = (counted s).card % sizeMod := by
  rw [tracks_requestCount.reachable rfl (counted_init calls) h, Finset.sum_const, smul_eq_mul, mul_one]

theorem totalReceivedBytes_eq (h : (server calls).Reachable s) :
    s.shared.totalReceivedBytes = (∑ k ∈ added calls s, (calls k).bodySize) % sizeMod :=
  tracks_totalReceivedBytes.reachable rfl (added_init calls) h

/-- The reader in the handler of a `/request_stats`. -/
def Handler.reader : Handler → Reader Nat Nat String
  | .stats reader => reader
  | _ => .idle

end Steps

end HttpSurvey.Httplib.Handlers
