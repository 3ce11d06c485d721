/-
`session` and `listener` of the Beast server. The member functions of `session` take the session's
state to the new state and the asynchronous operations they start; `Conn` is a session beside the
operations it has pending and the completion handlers that are due, and `Server` is the listener
beside all connections. An operation completes in one step and its handler runs in a later one; the
strands let the handlers of one session run one at a time. The console output is left out.
-/
import HttpSurvey.Beast.Message
import HttpSurvey.Lib.Machine

namespace HttpSurvey.Beast

open HttpSurvey.Lib

/-- A `beast::error_code` that is set. -/
structure ErrorCode where
  message : String
  deriving DecidableEq, Repr

/-- `http::request_parser<http::string_body>`: its body limit and the message it has read. -/
structure Parser where
  bodyLimit : Nat
  message : Option Request
  deriving DecidableEq, Repr

/-- The operations a session starts; a write carries what is bound to `on_write`. -/
inductive Op
  | dispatch
  | read
  | write (res : Response) (close : Bool)
  deriving DecidableEq, Repr

/-- The members of `session`: `buffer_`, `parser_` and whether the sending side was shut down. Beside
them, the number of parsers made so far and the octets that `buffer_.consume` dropped. -/
structure Session where
  buffer : List Char
  parser : Option Parser
  shutdown : Bool
  parsersMade : Nat
  consumed : List Char
  deriving DecidableEq, Repr

/-- `std::numeric_limits<std::uint64_t>::max()`. -/
def uint64Max : Nat := 2 ^ 64 - 1

/-- `session::run`. -/
def Session.run (s : Session) : Session × List Op := (s, [.dispatch])

/-- `session::read_request`. -/
def Session.readRequest (s : Session) : Session × List Op :=
  ({ s with
      parser := some { bodyLimit := uint64Max, message := none }
      parsersMade := s.parsersMade + 1 },
    [.read])

/-- `session::on_read`; there is no result when `parser_->get()` has no message to give. -/
def Session.onRead (s : Session) : Option ErrorCode → Option (Session × List Op)
  | some _ => some (s, [])
  | none => do
    let parser ← s.parser
    let req ← parser.message
    let res := respond req
    return (s, [.write res res.needEof])

/-- `buffer_.consume(n)`. -/
def Session.consume (s : Session) (n : Nat) : Session :=
  { s with
    buffer := s.buffer.drop n
    consumed := s.consumed ++ s.buffer.take n }

/-- `session::on_write`. -/
def Session.onWrite (s : Session) (close : Bool) : Option ErrorCode → Session × List Op
  | some _ => (s, [])
  | none =>
    if close then ({ s with shutdown := true }, [])
    else (s.consume s.buffer.length).readRequest

/-- The completion handlers of a session. -/
inductive Handler
  | readRequest
  | onRead (ec : Option ErrorCode)
  | onWrite (res : Response) (close : Bool) (ec : Option ErrorCode)
  deriving DecidableEq, Repr

def Handler.run (s : Session) : Handler → Option (Session × List Op)
  | .readRequest => some s.readRequest
  | .onRead ec => s.onRead ec
  | .onWrite _ close ec => some (s.onWrite close ec)

/-- How an operation completes: a read gives a request and what is left in the buffer. -/
inductive Result
  | ok
  | request (req : Request) (buffer : List Char)
  | error (ec : ErrorCode)
  deriving DecidableEq, Repr

/-- The completion of an operation: what it does to the session, and the handler that is due. -/
def Op.complete (s : Session) : Op → Result → Option (Session × Handler)
  | .dispatch, .ok => some (s, .readRequest)
  | .read, .request req buffer =>
    some ({ s with buffer, parser := s.parser.map ({ · with message := some req }) }, .onRead none)
  | .read, .error ec => some (s, .onRead (some ec))
  | .write res close, .ok => some (s, .onWrite res close none)
  | .write res close, .error ec => some (s, .onWrite res close (some ec))
  | _, _ => none

/-- A session with its pending operations and due handlers. Beside them, the requests completely read,
the responses started and completely written, the number of operations started, and whether the
session has ended: by a read error, a write error or a written response that needs the end of the
connection. -/
structure Conn where
  session : Session
  pending : List Op
  running : List Handler
  requests : List Request
  started : List Response
  written : List Response
  opsStarted : Nat
  ended : Bool
  deriving DecidableEq, Repr

/-- `std::make_shared<session>(std::move(socket))->run()`. -/
def Conn.start : Conn :=
  let session : Session := { buffer := [], parser := none, shutdown := false, parsersMade := 0, consumed := [] }
  { session := session.run.1
    pending := session.run.2
    running := []
    requests := []
    started := []
    written := []
    opsStarted := session.run.2.length
    ended := false }

/-- The record of a completion. -/
def Conn.note (c : Conn) : Op → Result → Conn
  | .read, .request req _ => { c with requests := c.requests ++ [req] }
  | .read, .error _ => { c with ended := true }
  | .write res _, .ok =>
    { c with
      written := c.written ++ [res]
      ended := c.ended || res.needEof }
  | .write _ _, .error _ => { c with ended := true }
  | _, _ => c

/-- The response of a write. -/
def Op.response : Op → Option Response
  | .write res _ => some res
  | _ => none

/-- What can happen on a connection: a pending operation completes, a due handler runs. -/
inductive ConnAct
  | opDone (j : Nat) (r : Result)
  | handle (j : Nat)
  deriving DecidableEq, Repr

def Conn.next (c : Conn) : ConnAct → Option Conn
  | .opDone j r =>
    match c.pending[j]? with
    | none => none
    | some op =>
      match Op.complete c.session op r with
      | none => none
      | some (session, handler) =>
        some
          { c.note op r with
            session
            pending := c.pending.eraseIdx j
            running := c.running ++ [handler] }
  | .handle j =>
    match c.running[j]? with
    | none => none
    | some handler =>
      match Handler.run c.session handler with
      | none => none
      | some (session, ops) =>
        some
          { c with
            session
            pending := c.pending ++ ops
            running := c.running.eraseIdx j
            started := c.started ++ ops.filterMap Op.response
            opsStarted := c.opsStarted + ops.length }

/-- The listener and the connections. Beside them, the number of accepts that succeeded. -/
structure Server where
  accepts : Nat
  onAccept : List (Option ErrorCode)
  successes : Nat
  conns : List Conn
  deriving DecidableEq, Repr

/-- `listener::do_accept`. -/
def Server.doAccept (s : Server) : Server := { s with accepts := s.accepts + 1 }

/-- `listener::on_accept`. -/
def Server.runOnAccept (s : Server) (ec : Option ErrorCode) : Server :=
  match ec with
  | none => { s with conns := s.conns ++ [Conn.start] }.doAccept
  | some _ => s.doAccept

/-- What can happen: an accept completes, `on_accept` runs, and the steps of each connection. -/
inductive Act
  | accepted (ec : Option ErrorCode)
  | onAccept (j : Nat)
  | conn (i : Nat) (a : ConnAct)
  deriving DecidableEq, Repr

def Server.next (s : Server) : Act → Option Server
  | .accepted ec =>
    if s.accepts = 0 then none
    else
      some
        { s with
          accepts := s.accepts - 1
          onAccept := s.onAccept ++ [ec]
          successes := if ec = none then s.successes + 1 else s.successes }
  | .onAccept j =>
    match s.onAccept[j]? with
    | none => none
    | some ec => some { s.runOnAccept ec with onAccept := s.onAccept.eraseIdx j }
  | .conn i a =>
    match s.conns[i]? with
    | none => none
    | some c =>
      match c.next a with
      | none => none
      | some c' => some { s with conns := s.conns.set i c' }

/-- The server, from `listener::run` on. -/
def server : Machine Server Act where
  init := Server.doAccept { accepts := 0, onAccept := [], successes := 0, conns := [] }
  next := Server.next

end HttpSurvey.Beast
