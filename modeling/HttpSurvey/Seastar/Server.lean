/-
`service_loop` of the Seastar server: `keep_doing` over an iteration that accepts a connection, runs
`handle_connection` on it and handles the exceptions of both with two nested `handle_exception`. The
listener is a machine: connections arrive in the backlog, and the operation that the current
iteration awaits completes or fails. Exceptions are `std::exception`s, given by their `what()`. The
peer's address in the log line of an accepted connection is left out.
-/
import HttpSurvey.Lib.Async
import HttpSurvey.Lib.Machine

namespace HttpSurvey.Seastar

open HttpSurvey.Lib HttpSurvey.Lib.Async

/-- A connected socket, numbered in the order of acceptance. -/
abbrev Socket := Nat

/-- The operations on a connection's streams. -/
inductive StreamOp
  | write (data : List Char)
  | flush
  | closeOut
  | closeIn
  deriving DecidableEq, Repr

/-- The operations that the server awaits. -/
inductive Op
  | accept
  | stream (op : StreamOp) (socket : Socket)
  deriving DecidableEq, Repr

/-- What an operation results in. -/
def Op.Result : Op → Type
  | .accept => Socket
  | .stream _ _ => Unit

/-- A future of the server; exceptions are given by their `what()`. -/
abbrev Future := Async Op Op.Result String

def DATA_SIZE : Nat := 30 * 1024 * 1024

/-- `co_await` of a stream operation. -/
def stream (op : StreamOp) (socket : Socket) : Future Unit := Async.op (Op.stream op socket)

/-- `listener.accept()`. -/
def accept : Future Socket := Async.op Op.accept

/-- `handle_connection`. -/
def handleConnection (socket : Socket) : Future Unit := do
  log "Starting to handle new connection"
  let data := List.replicate DATA_SIZE 'A'
  log "Created 30MB data buffer, starting to send data..."
  handleException
    (do
      stream (.write data) socket
      log "Data sent, flushing..."
      stream .flush socket
      log "Data flushed successfully")
    fun ex => do
      log ("Error sending data: " ++ ex)
      throwing ex
  handleException
    (do
      log "Closing connection..."
      stream .closeOut socket
      stream .closeIn socket
      log "Connection closed gracefully")
    fun ex => do
      log ("Error closing connection: " ++ ex)
      throwing ex

/-- The handler of a connection's exception. Its `return` stands after the rethrow, inside the `try`;
the `catch` has none. -/
def connectionErrorHandler (ep : String) : Future Unit :=
  valued <|
    andThen
      (handleException (andThen (throwing ep) (returning ()))
        fun ex => do
          log ("Connection error: " ++ ex)
          reachEnd)
      reachEnd

/-- The handler of an accept's exception, a `void` lambda. -/
def acceptErrorHandler (ep : String) : Future Unit :=
  void <|
    handleException (throwing ep)
      fun ex => do
        log ("Accept error: " ++ ex)
        reachEnd

/-- The action of `keep_doing`. -/
def iteration : Future Unit :=
  handleException
    (do
      let socket ← accept
      log "Accepted connection"
      handleException (handleConnection socket) connectionErrorHandler)
    acceptErrorHandler

/-- The listener: the loop, the connections in its backlog, the number it has accepted, and those
accepted whose last operation neither completed nor failed. -/
structure Listener where
  loop : KeepDoing Op Op.Result String
  waiting : Nat
  accepted : Nat
  serving : List Socket

/-- What can happen: a connection arrives, `accept` gives one or fails, and the awaited operation on
a connection completes or fails. -/
inductive Act
  | arrive
  | accept
  | acceptFails (what : String)
  | progress
  | connectionFails (what : String)
  deriving DecidableEq, Repr

def Listener.next (s : Listener) : Act → Option Listener
  | .arrive => some { s with waiting := s.waiting + 1 }
  | .accept =>
    match s.loop.current.front with
    | .waits .accept k =>
      if s.waiting = 0 then none
      else
        some
          { loop := s.loop.proceed iteration (k (.ok s.accepted))
            waiting := s.waiting - 1
            accepted := s.accepted + 1
            serving := s.serving ++ [s.accepted] }
    | _ => none
  | .acceptFails what =>
    match s.loop.current.front with
    | .waits .accept k => some { s with loop := s.loop.proceed iteration (k (.error what)) }
    | _ => none
  | .progress =>
    match s.loop.current.front with
    | .waits (.stream op socket) k =>
      some
        { s with
          loop := s.loop.proceed iteration (k (.ok ()))
          serving := if op = .closeIn then s.serving.erase socket else s.serving }
    | _ => none
  | .connectionFails what =>
    match s.loop.current.front with
    | .waits (.stream _ socket) k =>
      some
        { s with
          loop := s.loop.proceed iteration (k (.error what))
          serving := s.serving.erase socket }
    | _ => none

/-- `service_loop`, once it listens. -/
def serviceLoop : Machine Listener Act where
  init := { loop := KeepDoing.start iteration, waiting := 0, accepted := 0, serving := [] }
  next := Listener.next

end HttpSurvey.Seastar
