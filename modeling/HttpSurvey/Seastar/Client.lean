/-
`client_connect` of the Seastar client: it connects, reads in a `do_until` loop until `DATA_SIZE` bytes
have been received, and closes its two streams, with an exception handler around the transfer and one
around the whole. The lambdas of the `then` chain are the statements of a coroutine; `total_received`
and `last_logged`, which they share by reference, are the state of the loop.

`Receiver` is the same client as a machine of five stages, and `refines` says that it does exactly what
the coroutine does.
-/
import HttpSurvey.Lib.DoUntil
import HttpSurvey.Lib.Word
import HttpSurvey.Seastar.Server

namespace HttpSurvey.Seastar.Client

open HttpSurvey.Lib HttpSurvey.Lib.Async

/-- A `temporary_buffer<char>`. No object is larger than the largest `ptrdiff_t`. -/
structure Buffer where
  data : List Char
  fits : data.length < 2 ^ 63

/-- `data.size()`. -/
def Buffer.size (b : Buffer) : Nat := b.data.length

/-- What `in.read()` yields at the end of the stream. -/
def Buffer.empty : Buffer := ⟨[], by decide⟩

/-- The operations that the client awaits. -/
inductive ClientOp
  | connect
  | read
  | closeOut
  | closeIn
  deriving DecidableEq, Repr

@[reducible] def ClientOp.Result : ClientOp → Type
  | .read => Buffer
  | .connect | .closeOut | .closeIn => Unit

def DATA_SIZE : Nat := 30 * 1024 * 1024

def LOG_INTERVAL : Nat := 1024 * 1024

/-- `total_received` and `last_logged`. -/
structure Progress where
  totalReceived : Nat
  lastLogged : Nat
  deriving DecidableEq, Repr

/-- `total_received * 100 / DATA_SIZE`. -/
def percent (totalReceived : Nat) : Nat := totalReceived * 100 % sizeMod / DATA_SIZE

/-- The progress line. -/
def progressLine (totalReceived : Nat) : String :=
  "Received " ++ toString totalReceived ++ "/" ++ toString DATA_SIZE ++ " bytes (" ++
    toString (percent totalReceived) ++ "%)"

/-- A future of the loop's body. -/
abbrev BodyFuture := Async ClientOp ClientOp.Result String Progress

/-- A future of `client_connect`. -/
abbrev Future := Async (Call ClientOp) (Call.Result ClientOp.Result Progress) String Unit

/-- The lambda that takes the data of a read. -/
def onData (st : Progress) (data : Buffer) : BodyFuture :=
  if data.size = 0 then do
    log "Connection closed by server"
    ready st
  else
    let totalReceived := addSize st.totalReceived data.size
    if LOG_INTERVAL ≤ subSize totalReceived st.lastLogged then do
      log (progressLine totalReceived)
      ready ⟨totalReceived, totalReceived⟩
    else ready ⟨totalReceived, st.lastLogged⟩

/-- The body of the loop. -/
def body (st : Progress) : BodyFuture := do
  let data ← Async.op ClientOp.read
  onData st data

/-- The condition of the loop. -/
def received (st : Progress) : Bool := DATA_SIZE ≤ st.totalReceived

/-- The `then` chain on the future of the loop. -/
def closeStreams (st : Progress) : Future := do
  log ("Transfer complete. Total received: " ++ toString st.totalReceived ++ " bytes")
  log "Closing output..."
  Async.op (Call.op ClientOp.closeOut)
  log "Closing input..."
  Async.op (Call.op ClientOp.closeIn)

def transferErrorHandler (ep : String) : Future := log ("Error during transfer: " ++ ep)

def connectionErrorHandler (ep : String) : Future := log ("Connection error: " ++ ep)

/-- `client_connect`. -/
def clientConnect : Future :=
  handleException
    (do
      Async.op (Call.op ClientOp.connect)
      log "Successfully connected to server"
      log "Starting to receive data..."
      handleException
        (do
          let st ← Async.op Call.loop
          closeStreams st)
        transferErrorHandler)
    connectionErrorHandler

/-- `client_connect` with its loop. -/
def program : Looping ClientOp ClientOp.Result String Progress Unit where
  main := clientConnect
  start := ⟨0, 0⟩
  stop := received
  action := body

/-- The client, run by the completions of its operations. -/
abbrev client : Machine (Process ClientOp ClientOp.Result String Progress Unit)
    (Event ClientOp ClientOp.Result String) := program.process

/-- The connection is made. -/
def connected : Event ClientOp ClientOp.Result String := ⟨.connect, .ok ()⟩

/-! ## The client as a machine of five stages -/

/-- What the lambda for the data of a read makes of the two counters. -/
def receive (st : Progress) (data : Buffer) : Progress :=
  if data.size = 0 then st
  else
    let totalReceived := addSize st.totalReceived data.size
    if LOG_INTERVAL ≤ subSize totalReceived st.lastLogged then ⟨totalReceived, totalReceived⟩
    else ⟨totalReceived, st.lastLogged⟩

/-- What it logs. -/
def dataLines (st : Progress) (data : Buffer) : List String :=
  if data.size = 0 then ["Connection closed by server"]
  else
    let totalReceived := addSize st.totalReceived data.size
    if LOG_INTERVAL ≤ subSize totalReceived st.lastLogged then [progressLine totalReceived] else []

/-- The lines at the end of the loop. -/
def completionLines (st : Progress) : List String :=
  ["Transfer complete. Total received: " ++ toString st.totalReceived ++ " bytes", "Closing output..."]

/-- What the client waits for: the connection, a read of the loop with its two counters, one of the two
closes, or nothing more. -/
inductive Stage
  | connecting
  | receiving (st : Progress)
  | closingOut
  | closingIn
  | resolved
  deriving DecidableEq, Repr

def Stage.op : Stage → Option ClientOp
  | .connecting => some .connect
  | .receiving _ => some .read
  | .closingOut => some .closeOut
  | .closingIn => some .closeIn
  | .resolved => none

structure Receiver where
  stage : Stage
  log : List String
  deriving DecidableEq, Repr

namespace Receiver

/-- The condition of the loop. -/
def test (log : List String) (st : Progress) : Receiver :=
  if received st then ⟨.closingOut, log ++ completionLines st⟩ else ⟨.receiving st, log⟩

def next (s : Receiver) : Event ClientOp ClientOp.Result String → Option Receiver
  | ⟨.connect, r⟩ =>
    match s.stage, r with
    | .connecting, .ok _ =>
      some (test (s.log ++ ["Successfully connected to server", "Starting to receive data..."]) ⟨0, 0⟩)
    | .connecting, .error ex => some ⟨.resolved, s.log ++ ["Connection error: " ++ ex]⟩
    | _, _ => none
  | ⟨.read, r⟩ =>
    match s.stage, r with
    | .receiving st, .ok data => some (test (s.log ++ dataLines st data) (receive st data))
    | .receiving _, .error ex => some ⟨.resolved, s.log ++ ["Error during transfer: " ++ ex]⟩
    | _, _ => none
  | ⟨.closeOut, r⟩ =>
    match s.stage, r with
    | .closingOut, .ok _ => some ⟨.closingIn, s.log ++ ["Closing input..."]⟩
    | .closingOut, .error ex => some ⟨.resolved, s.log ++ ["Error during transfer: " ++ ex]⟩
    | _, _ => none
  | ⟨.closeIn, r⟩ =>
    match s.stage, r with
    | .closingIn, .ok _ => some ⟨.resolved, s.log⟩
    | .closingIn, .error ex => some ⟨.resolved, s.log ++ ["Error during transfer: " ++ ex]⟩
    | _, _ => none

end Receiver

/-- The client at its stages. -/
def receiver : Machine Receiver (Event ClientOp ClientOp.Result String) := ⟨⟨.connecting, []⟩, Receiver.next⟩

/-! ## The stages are those of the coroutine -/

/-- The coroutine resolves after logging the lines. -/
def Resolves (t : Future) (lines : List String) : Prop := t.front = .done (.ready ()) ∧ t.lines = lines

/-- The coroutine waits for `o` after logging the lines, with a continuation that has `K`. -/
def WaitsFor (t : Future) (o : ClientOp) (lines : List String)
    (K : (Except String o.Result → Future) → Prop) : Prop :=
  ∃ k, t.front = .waits (.op o) k ∧ t.lines = lines ∧ K k

/-- The continuation of `in.close()`. -/
structure AfterCloseIn (k : Except String Unit → Future) : Prop where
  ok : Resolves (k (.ok ())) []
  error : ∀ ex, Resolves (k (.error ex)) ["Error during transfer: " ++ ex]

/-- The continuation of `out.close()`. -/
structure AfterCloseOut (k : Except String Unit → Future) : Prop where
  ok : WaitsFor (k (.ok ())) .closeIn ["Closing input..."] AfterCloseIn
  error : ∀ ex, Resolves (k (.error ex)) ["Error during transfer: " ++ ex]

/-- The continuation of the loop. -/
structure AfterLoop (k : Except String Progress → Future) : Prop where
  ok : ∀ st, WaitsFor (k (.ok st)) .closeOut (completionLines st) AfterCloseOut
  error : ∀ ex, Resolves (k (.error ex)) ["Error during transfer: " ++ ex]

/-- The continuation of the connection. -/
structure AfterConnect (k : Except String Unit → Future) : Prop where
  ok : ∃ k', (k (.ok ())).front = .waits .loop k' ∧
    (k (.ok ())).lines = ["Successfully connected to server", "Starting to receive data..."] ∧ AfterLoop k'
  error : ∀ ex, Resolves (k (.error ex)) ["Connection error: " ++ ex]

theorem clientConnect_waits : WaitsFor clientConnect .connect [] AfterConnect := by
  refine ⟨_, rfl, rfl, ⟨_, rfl, rfl, fun st => ⟨_, rfl, rfl, ⟨_, rfl, rfl, ⟨rfl, rfl⟩, fun ex => ⟨rfl, rfl⟩⟩,
    fun ex => ⟨rfl, rfl⟩⟩, fun ex => ⟨rfl, rfl⟩⟩, fun ex => ⟨rfl, rfl⟩⟩

/-- The stage that the coroutine is at. -/
def Stage.At (control : Control ClientOp ClientOp.Result String Progress Unit) : Stage → Prop
  | .connecting => ∃ t, control = .main t ∧ ∃ k, t.front = .waits (.op .connect) k ∧ AfterConnect k
  | .receiving st => ∃ k, control = .loop (body st) k ∧ AfterLoop k
  | .closingOut => ∃ t, control = .main t ∧ ∃ k, t.front = .waits (.op .closeOut) k ∧ AfterCloseOut k
  | .closingIn => ∃ t, control = .main t ∧ ∃ k, t.front = .waits (.op .closeIn) k ∧ AfterCloseIn k
  | .resolved => ∃ t, control = .main t ∧ t.front = .done (.ready ())

/-- The coroutine and the machine of stages are at the same stage and have logged the same. -/
structure Sim (s : Process ClientOp ClientOp.Result String Progress Unit) (r : Receiver) : Prop where
  stage : r.stage.At s.control
  log : s.log = r.log

theorem onData_eq (st : Progress) (data : Buffer) :
    (onData st data).front = .done (.ready (receive st data)) ∧ (onData st data).lines = dataLines st data := by
  unfold onData receive dataLines
  by_cases h0 : data.size = 0
  · rw [if_pos h0, if_pos h0, if_pos h0]
    exact ⟨rfl, rfl⟩
  · rw [if_neg h0, if_neg h0, if_neg h0]
    by_cases hlog : LOG_INTERVAL ≤ subSize (addSize st.totalReceived data.size) st.lastLogged
    · simp only [if_pos hlog]
      exact ⟨rfl, rfl⟩
    · simp only [if_neg hlog]
      exact ⟨rfl, rfl⟩

/-- The condition of the loop leads both to the same stage. -/
theorem sim_test {k : Except String Progress → Future} (hk : AfterLoop k) (log : List String) (st : Progress) :
    Sim (program.test log st k) (Receiver.test log st) := by
  unfold Looping.test Receiver.test
  change Sim (if received st = true then _ else _) _
  by_cases h : received st = true
  · rw [if_pos h, if_pos h]
    obtain ⟨k', hf, hlines, hk'⟩ := hk.ok st
    refine ⟨⟨_, rfl, k', hf, hk'⟩, ?_⟩
    rw [hlines]
  · rw [if_neg h, if_neg h]
    exact ⟨⟨k, rfl, hk⟩, List.append_nil log⟩

/-- The loop ends with the exception of a read. -/
theorem sim_raised {k : Except String Progress → Future} (hk : AfterLoop k) (log : List String) (ex : String) :
    Sim (program.proceed log (raised ex) k) ⟨.resolved, log ++ ["Error during transfer: " ++ ex]⟩ := by
  obtain ⟨hdone, hlines⟩ := hk.error ex
  have hraised : (raised ex : BodyFuture).front = .done (.raised ex) := rfl
  rw [Looping.proceed_raised hraised, hlines]
  exact ⟨⟨_, rfl, hdone⟩, by simp [Async.lines]⟩

/-- The loop goes on with the data of a read. -/
theorem sim_onData {k : Except String Progress → Future} (hk : AfterLoop k) (log : List String) (st : Progress)
    (data : Buffer) :
    Sim (program.proceed log (onData st data) k) (Receiver.test (log ++ dataLines st data) (receive st data)) := by
  obtain ⟨hready, hlines⟩ := onData_eq st data
  rw [Looping.proceed_ready hready, hlines]
  exact sim_test hk _ _

theorem sim_waits {t : Future} {o : ClientOp} {lines : List String}
    {K : (Except String o.Result → Future) → Prop} (stage : Stage) (h : WaitsFor t o lines K)
    (hstage : ∀ k, t.front = .waits (.op o) k → K k → stage.At (.main t)) (log : List String) :
    Sim (program.settle log t) ⟨stage, log ++ lines⟩ := by
  obtain ⟨k, hf, rfl, hk⟩ := h
  rw [Looping.settle_waits hf]
  exact ⟨hstage k hf hk, rfl⟩

theorem sim_loop {t : Future} {k : Except String Progress → Future} {lines : List String}
    (hf : t.front = .waits .loop k) (hlines : t.lines = lines) (hk : AfterLoop k) (log : List String) :
    Sim (program.settle log t) (Receiver.test (log ++ lines) ⟨0, 0⟩) := by
  rw [Looping.settle_loop hf, hlines]
  exact sim_test hk _ _

theorem sim_resolves {t : Future} {lines : List String} (h : Resolves t lines) (log : List String) :
    Sim (program.settle log t) ⟨.resolved, log ++ lines⟩ := by
  rw [Looping.settle_done h.1, h.2]
  exact ⟨⟨t, rfl, h.1⟩, rfl⟩

variable {s : Process ClientOp ClientOp.Result String Progress Unit} {r : Receiver}

/-- An event is refused at both, or leads both to the same stage with the same lines. -/
theorem sim_next (h : Sim s r) (e : Event ClientOp ClientOp.Result String) :
    Option.Rel Sim (program.next s e) (r.next e) := by
  obtain ⟨stage, log⟩ := r
  obtain ⟨hstage, rfl⟩ := h
  obtain ⟨op, res⟩ := e
  cases stage with
  | connecting =>
    obtain ⟨t, hc, k, hf, hk⟩ := hstage
    cases op with
    | connect =>
      rw [Looping.next_main hc hf]
      cases res with
      | ok u =>
        obtain ⟨k', hf', hlines, hk'⟩ := hk.ok
        exact .some (sim_loop hf' hlines hk' s.log)
      | error ex => exact .some (sim_resolves (hk.error ex) s.log)
    | read | closeOut | closeIn =>
      rw [Looping.next_main_ne hc hf (by simp)]
      exact .none
  | receiving st =>
    obtain ⟨k, hc, hk⟩ := hstage
    obtain ⟨k', hf, hok, herror⟩ : ∃ k' : Except String Buffer → BodyFuture,
        (body st).front = .waits ClientOp.read k' ∧ (∀ data, k' (.ok data) = onData st data) ∧
          ∀ ex, k' (.error ex) = raised ex := ⟨_, rfl, fun _ => rfl, fun _ => rfl⟩
    cases op with
    | read =>
      rw [Looping.next_loop hc hf]
      cases res with
      | ok data =>
        rw [hok]
        exact .some (sim_onData hk s.log st data)
      | error ex =>
        rw [herror]
        exact .some (sim_raised hk s.log ex)
    | connect | closeOut | closeIn =>
      rw [Looping.next_loop_ne hc hf (by simp)]
      exact .none
  | closingOut =>
    obtain ⟨t, hc, k, hf, hk⟩ := hstage
    cases op with
    | closeOut =>
      rw [Looping.next_main hc hf]
      cases res with
      | ok u => exact .some (sim_waits .closingIn hk.ok (fun k' hf' hk' => ⟨_, rfl, k', hf', hk'⟩) s.log)
      | error ex => exact .some (sim_resolves (hk.error ex) s.log)
    | connect | read | closeIn =>
      rw [Looping.next_main_ne hc hf (by simp)]
      exact .none
  | closingIn =>
    obtain ⟨t, hc, k, hf, hk⟩ := hstage
    cases op with
    | closeIn =>
      rw [Looping.next_main hc hf]
      cases res with
      | ok u =>
        have hsim := sim_resolves hk.ok s.log
        rw [List.append_nil] at hsim
        exact .some hsim
      | error ex => exact .some (sim_resolves (hk.error ex) s.log)
    | connect | read | closeOut =>
      rw [Looping.next_main_ne hc hf (by simp)]
      exact .none
  | resolved =>
    obtain ⟨t, hc, hf⟩ := hstage
    rw [Looping.next_done hc hf]
    cases op <;> exact .none

theorem sim_init : Sim client.init receiver.init := by
  have hsim := sim_waits .connecting clientConnect_waits (fun k hf hk => ⟨_, rfl, k, hf, hk⟩) []
  exact hsim

/-- The coroutine and the machine of stages have the same runs, with the same stages and lines. -/
theorem refines (es : List (Event ClientOp ClientOp.Result String)) :
    Option.Rel Sim (client.run es) (receiver.run es) :=
  Machine.exec_rel Sim (fun _ _ e h => sim_next h e) es _ _ sim_init

theorem run_receiver {es : List (Event ClientOp ClientOp.Result String)} (h : client.run es = some s) :
    ∃ r, receiver.run es = some r ∧ Sim s r := by
  have hrel := refines es
  rw [h] at hrel
  generalize receiver.run es = o at hrel
  cases hrel with
  | some hsim => exact ⟨_, rfl, hsim⟩

theorem run_client {es : List (Event ClientOp ClientOp.Result String)} (h : receiver.run es = some r) :
    ∃ s, client.run es = some s ∧ Sim s r := by
  have hrel := refines es
  rw [h] at hrel
  generalize client.run es = o at hrel
  cases hrel with
  | some hsim => exact ⟨_, rfl, hsim⟩

/-- The future of `client_connect` has resolved at the last stage, and it is ready. -/
theorem outcome_eq_some (h : Sim s r) {out : Outcome String Unit} :
    Looping.outcome s.control = some out ↔ r.stage = .resolved ∧ out = .ready () := by
  obtain ⟨stage, log⟩ := r
  obtain ⟨hstage, -⟩ := h
  unfold Looping.outcome
  cases stage with
  | connecting | closingOut | closingIn =>
    obtain ⟨t, hc, k, hf, -⟩ := hstage
    rw [hc]
    simp [hf]
  | receiving st =>
    obtain ⟨k, hc, -⟩ := hstage
    rw [hc]
    simp
  | resolved =>
    obtain ⟨t, hc, hf⟩ := hstage
    rw [hc]
    simp [hf, eq_comm]

end HttpSurvey.Seastar.Client
