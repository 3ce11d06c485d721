/-
The life of a Beast session as an automaton of stages, of which every connection of the server is an
instance (`At`, kept by `next_rel`), and the lifecycle of the server that follows: one accept at a
time, at most one operation or handler for each session, responses that stay within one of the
requests, and no operation after the end of a session.
-/
import HttpSurvey.Beast.Session
import Mathlib.Data.Option.Basic

namespace HttpSurvey.Beast

open HttpSurvey.Lib

/-! ## Stages -/

/-- How far a session has come. A session is finished with the request whose response could not be
written, if there was one. -/
inductive Stage
  | starting
  | due
  | reading
  | received (req : Request)
  | readFailed (ec : ErrorCode)
  | writing (req : Request)
  | answered (req : Request)
  | writeFailed (req : Request) (ec : ErrorCode)
  | finished (left : Option Request)
  deriving DecidableEq, Repr

namespace Stage

/-- The operation that is pending in a stage. -/
def pending : Stage → List Op
  | starting => [.dispatch]
  | reading => [.read]
  | writing req => [.write (respond req) (respond req).needEof]
  | _ => []

/-- The handler that is due in a stage. -/
def running : Stage → List Handler
  | due => [.readRequest]
  | received _ => [.onRead none]
  | readFailed ec => [.onRead (some ec)]
  | answered req => [.onWrite (respond req) (respond req).needEof none]
  | writeFailed req ec => [.onWrite (respond req) (respond req).needEof (some ec)]
  | _ => []

/-- The session starts no operation any more. -/
def ended : Stage → Bool
  | readFailed _ | writeFailed _ _ | finished _ => true
  | answered req => (respond req).needEof
  | _ => false

/-- The request that was read and whose response is not completely written. -/
def unanswered : Stage → List Request
  | received req | writing req | writeFailed req _ => [req]
  | finished left => left.toList
  | _ => []

/-- The response that was started and is not completely written. -/
def inFlight : Stage → List Response
  | writing req | writeFailed req _ => [respond req]
  | finished left => left.toList.map respond
  | _ => []

/-- What `parser_` holds: a parser while a read is pending, and the request when it was read. -/
def HasParser : Stage → Option Parser → Prop
  | reading, p => p.isSome
  | received req, p => p.bind Parser.message = some req
  | _, _ => True

/-- The next stage. -/
def next : Stage → ConnAct → Option Stage
  | starting, .opDone 0 .ok => some due
  | due, .handle 0 => some reading
  | reading, .opDone 0 (.request req _) => some (received req)
  | reading, .opDone 0 (.error ec) => some (readFailed ec)
  | received req, .handle 0 => some (writing req)
  | readFailed _, .handle 0 => some (finished none)
  | writing req, .opDone 0 .ok => some (answered req)
  | writing req, .opDone 0 (.error ec) => some (writeFailed req ec)
  | answered req, .handle 0 => some (if (respond req).needEof then finished none else reading)
  | writeFailed req _, .handle 0 => some (finished (some req))
  | _, _ => none

theorem length_le_one (st : Stage) : st.pending.length + st.running.length ≤ 1 := by
  cases st <;> simp [pending, running]

theorem inFlight_le (st : Stage) : st.inFlight.length ≤ st.unanswered.length := by
  cases st with
  | finished left => simp [inFlight, unanswered]
  | _ => simp [inFlight, unanswered]

theorem unanswered_le_one (st : Stage) : st.unanswered.length ≤ 1 := by
  cases st with
  | finished left => cases left <;> simp [unanswered]
  | _ => simp [unanswered]

/-- A session that has ended stays so, with nothing pending. -/
theorem next_of_ended {st st' : Stage} {a : ConnAct} (he : st.ended = true) (h : st.next a = some st') :
    st'.ended = true ∧ st'.pending = [] := by
  unfold next at h
  split at h <;> cases h <;> first | exact ⟨rfl, rfl⟩ | cases he | skip
  -- a written response that needs the end of the connection
  rename_i req
  rw [if_pos (show (respond req).needEof = true from he)]
  exact ⟨rfl, rfl⟩

end Stage

/-! ## Every connection is in a stage -/

/-- The connection is in the stage `st`. -/
structure At (st : Stage) (c : Conn) : Prop where
  pending : c.pending = st.pending
  running : c.running = st.running
  ended : c.ended = st.ended
  requests : c.requests.map respond = c.written ++ st.unanswered.map respond
  started : c.started = c.written ++ st.inFlight
  parser : st.HasParser c.session.parser

theorem at_start : At .starting Conn.start :=
  { pending := rfl, running := rfl, ended := rfl, requests := rfl, started := rfl, parser := trivial }

/-- A connection in a stage does what the stage does. -/
theorem next_rel {st : Stage} {c : Conn} (h : At st c) (a : ConnAct) :
    Option.Rel At (st.next a) (c.next a) := by
  obtain ⟨⟨buffer, parser, shutdown, made, consumed⟩, pending, running, requests, started, written, n, ended⟩ := c
  obtain ⟨hp, hr, he, hreq, hst, hpar⟩ := h
  simp only at hp hr he hreq hst hpar
  subst hp hr he hst
  cases st with
  | starting =>
    rcases a with ⟨_ | j, _ | _ | _⟩ | j
    case opDone.zero.ok => exact .some ⟨rfl, rfl, rfl, hreq, rfl, trivial⟩
    all_goals exact .none
  | due =>
    rcases a with ⟨j, r⟩ | _ | j
    case handle.zero => exact .some ⟨rfl, rfl, rfl, hreq, by simp [Stage.inFlight, Op.response], rfl⟩
    all_goals exact .none
  | reading =>
    obtain ⟨p, rfl⟩ := Option.isSome_iff_exists.1 hpar
    rcases a with ⟨_ | j, _ | ⟨req, buffer'⟩ | ec⟩ | j
    case opDone.zero.request =>
      exact .some ⟨rfl, rfl, rfl, by simp [Conn.note, hreq, Stage.unanswered], rfl, rfl⟩
    case opDone.zero.error => exact .some ⟨rfl, rfl, rfl, hreq, rfl, trivial⟩
    all_goals exact .none
  | received req =>
    obtain ⟨p, rfl, hm⟩ := Option.bind_eq_some_iff.1 hpar
    rcases a with ⟨j, r⟩ | _ | j
    case handle.zero =>
      have hnext : Handler.run ⟨buffer, some p, shutdown, made, consumed⟩ (.onRead none) =
          some (⟨buffer, some p, shutdown, made, consumed⟩, [.write (respond req) (respond req).needEof]) := by
        simp [Handler.run, Session.onRead, hm]
      simp only [Conn.next, Stage.running, List.getElem?_cons_zero, hnext]
      exact .some ⟨rfl, rfl, rfl, hreq, by simp [Stage.inFlight, Op.response], trivial⟩
    all_goals exact .none
  | readFailed ec =>
    rcases a with ⟨j, r⟩ | _ | j
    case handle.zero => exact .some ⟨rfl, rfl, rfl, hreq, by simp [Stage.inFlight], trivial⟩
    all_goals exact .none
  | writing req =>
    rcases a with ⟨_ | j, _ | _ | ec⟩ | j
    case opDone.zero.ok =>
      exact .some ⟨rfl, rfl, rfl, by simpa [Conn.note, Stage.unanswered] using hreq,
        by simp [Conn.note, Stage.inFlight], trivial⟩
    case opDone.zero.error => exact .some ⟨rfl, rfl, rfl, hreq, rfl, trivial⟩
    all_goals exact .none
  | answered req =>
    rcases a with ⟨j, r⟩ | _ | j
    case handle.zero =>
      by_cases heof : (respond req).needEof = true
      · simp only [Conn.next, Stage.next, Stage.running, List.getElem?_cons_zero, Handler.run,
          Session.onWrite, if_pos heof]
        exact .some ⟨rfl, rfl, heof, hreq, by simp [Stage.inFlight], trivial⟩
      · -- the connection goes on: the buffer is emptied and the next request read
        simp only [Conn.next, Stage.next, Stage.running, List.getElem?_cons_zero, Handler.run,
          Session.onWrite, if_neg heof]
        exact .some ⟨rfl, rfl, by simpa [Stage.ended] using heof, hreq,
          by simp [Stage.inFlight, Session.readRequest, Op.response], rfl⟩
    all_goals exact .none
  | writeFailed req ec =>
    rcases a with ⟨j, r⟩ | _ | j
    case handle.zero => exact .some ⟨rfl, rfl, rfl, hreq, by simp [Stage.inFlight], trivial⟩
    all_goals exact .none
  | finished left =>
    rcases a with ⟨j, r⟩ | j <;> exact .none

/-- What a stage keeps. -/
theorem At.next {st : Stage} {c c' : Conn} {a : ConnAct} (h : At st c) (hn : c.next a = some c') :
    ∃ st', st.next a = some st' ∧ At st' c' := by
  have hrel := next_rel h a
  rw [hn] at hrel
  cases hst : st.next a with
  | none => rw [hst] at hrel; cases hrel
  | some st' =>
    rw [hst] at hrel
    cases hrel with
    | some h' => exact ⟨st', rfl, h'⟩

/-! ## What a step of a connection does -/

/-- A step either completes the one pending operation or runs the one handler that is due. -/
theorem Conn.next_cases {c c' : Conn} {a : ConnAct} (h : c.next a = some c') :
    (∃ (j : Nat) (op : Op) (r : Result) (session : Session) (handler : Handler),
      c.pending[j]? = some op ∧ Op.complete c.session op r = some (session, handler) ∧
        c'.session = session ∧ c'.opsStarted = c.opsStarted) ∨
    ∃ (j : Nat) (handler : Handler) (session : Session) (ops : List Op),
      c.running[j]? = some handler ∧ Handler.run c.session handler = some (session, ops) ∧
        c'.session = session ∧ c'.pending = c.pending ++ ops ∧ c'.opsStarted = c.opsStarted + ops.length := by
  cases a with
  | opDone j r =>
    simp only [Conn.next] at h
    split at h
    · cases h
    · rename_i op hop
      split at h
      · cases h
      · rename_i session handler hc
        cases h
        refine .inl ⟨j, op, r, session, handler, hop, hc, rfl, ?_⟩
        cases op <;> cases r <;> rfl
  | handle j =>
    simp only [Conn.next] at h
    split at h
    · cases h
    · rename_i handler hh
      split at h
      · cases h
      · rename_i session ops hr
        cases h
        exact .inr ⟨j, handler, session, ops, hh, hr, rfl, rfl, rfl⟩

/-- A step after which nothing is pending has started nothing. -/
theorem Conn.next_opsStarted {c c' : Conn} {a : ConnAct} (h : c.next a = some c') (hp : c'.pending = []) :
    c'.opsStarted = c.opsStarted := by
  rcases Conn.next_cases h with ⟨_, _, _, _, _, _, _, _, ho⟩ | ⟨_, _, _, ops, _, _, _, hpend, ho⟩
  · exact ho
  · rw [hp] at hpend
    rw [ho, (List.append_eq_nil_iff.1 hpend.symm).2, List.length_nil, Nat.add_zero]

theorem Op.complete_parsersMade {s s' : Session} {op : Op} {r : Result} {handler : Handler}
    (h : Op.complete s op r = some (s', handler)) : s'.parsersMade = s.parsersMade := by
  cases op <;> cases r <;> cases h <;> rfl

theorem Session.onRead_parsersMade {s s' : Session} {ec : Option ErrorCode} {ops : List Op}
    (h : s.onRead ec = some (s', ops)) : s'.parsersMade = s.parsersMade := by
  cases ec with
  | some e => cases h; rfl
  | none =>
    obtain ⟨p, -, h⟩ := Option.bind_eq_some_iff.1 h
    obtain ⟨req, -, h⟩ := Option.bind_eq_some_iff.1 h
    cases h
    rfl

/-- The parser is replaced only when no read is pending and `on_read` is not running. -/
theorem At.parser_kept {st : Stage} {c c' : Conn} {a : ConnAct} (h : At st c) (hn : c.next a = some c')
    (hne : c'.session.parsersMade ≠ c.session.parsersMade) :
    .read ∉ c.pending ∧ ∀ ec, .onRead ec ∉ c.running := by
  rcases Conn.next_cases hn with ⟨_, op, r, session, handler, -, hc, hs, -⟩ |
    ⟨j, handler, session, ops, hh, hr, hs, -⟩
  · rw [hs, Op.complete_parsersMade hc] at hne
    exact absurd rfl hne
  · have hmem : handler ∈ c.running := List.mem_of_getElem? hh
    have hlen := st.length_le_one
    rw [← h.pending, ← h.running] at hlen
    have hpos : 0 < c.running.length := List.length_pos_of_mem hmem
    refine ⟨fun hread => ?_, fun ec hmem' => ?_⟩
    · have := List.length_pos_of_mem hread
      omega
    · obtain ⟨x, hx⟩ := List.length_eq_one_iff.1 (by omega : c.running.length = 1)
      rw [hx, List.mem_singleton] at hmem hmem'
      rw [← hmem'] at hmem
      subst hmem
      rw [hs, Session.onRead_parsersMade hr] at hne
      exact absurd rfl hne

/-! ## The server -/

/-- What every step of the server keeps. -/
structure Inv (s : Server) : Prop where
  acceptor : s.accepts + s.onAccept.length = 1
  sessions : s.successes = s.conns.length + s.onAccept.count none
  conns : ∀ c ∈ s.conns, ∃ st, At st c

theorem inv_init : Inv server.init := ⟨rfl, rfl, nofun⟩

theorem next_conn {s s' : Server} {i : Nat} {a : ConnAct} (h : s.next (.conn i a) = some s') :
    ∃ c c', s.conns[i]? = some c ∧ c.next a = some c' ∧ s' = { s with conns := s.conns.set i c' } := by
  simp only [Server.next] at h
  split at h
  · cases h
  · rename_i c hc
    split at h
    · cases h
    · rename_i c' hc'
      cases h
      exact ⟨c, c', hc, hc', rfl⟩

theorem inv_accepted {s s' : Server} {ec : Option ErrorCode} (h : Inv s)
    (hn : s.next (.accepted ec) = some s') : Inv s' := by
  simp only [Server.next] at hn
  split at hn
  · cases hn
  · rename_i hpos
    cases hn
    have hacc := h.acceptor
    have hses := h.sessions
    refine ⟨?_, ?_, h.conns⟩
    · simp only [List.length_append, List.length_singleton]
      omega
    · cases ec with
      | none => simp [hses, Nat.add_assoc]
      | some e => simp [hses]

theorem inv_onAccept {s s' : Server} {j : Nat} (h : Inv s) (hn : s.next (.onAccept j) = some s') : Inv s' := by
  simp only [Server.next] at hn
  split at hn
  · cases hn
  · rename_i ec hj
    cases hn
    have hacc := h.acceptor
    -- the handler is the only one that is due
    obtain ⟨hlt, rfl⟩ := List.getElem?_eq_some_iff.1 hj
    obtain ⟨x, hx⟩ := List.length_eq_one_iff.1 (by omega : s.onAccept.length = 1)
    have hj0 : j = 0 := by rw [hx] at hlt; simpa using hlt
    have hses := h.sessions
    subst hj0
    simp only [hx, List.length_singleton] at hacc hses ⊢
    cases x with
    | none =>
      refine ⟨?_, ?_, ?_⟩
      · simp [Server.runOnAccept, Server.doAccept]
        omega
      · simpa [Server.runOnAccept, Server.doAccept] using hses
      · intro c hc
        rcases List.mem_append.1 hc with hc | hc
        · exact h.conns c hc
        · exact ⟨.starting, List.mem_singleton.1 hc ▸ at_start⟩
    | some e =>
      refine ⟨?_, ?_, h.conns⟩
      · simp [Server.runOnAccept, Server.doAccept]
        omega
      · simpa [Server.runOnAccept, Server.doAccept] using hses

theorem inv_conn {s s' : Server} {i : Nat} {a : ConnAct} (h : Inv s) (hn : s.next (.conn i a) = some s') :
    Inv s' := by
  obtain ⟨c, c', hc, hcn, rfl⟩ := next_conn hn
  refine ⟨h.acceptor, ?_, fun x hx => ?_⟩
  · rw [List.length_set]
    exact h.sessions
  · rcases List.mem_or_eq_of_mem_set hx with hx | rfl
    · exact h.conns x hx
    · obtain ⟨st, hst⟩ := h.conns c (List.mem_of_getElem? hc)
      obtain ⟨st', -, hst'⟩ := hst.next hcn
      exact ⟨st', hst'⟩

theorem inv_next {s s' : Server} {a : Act} (h : Inv s) (hn : server.next s a = some s') : Inv s' := by
  cases a with
  | accepted ec => exact inv_accepted h hn
  | onAccept j => exact inv_onAccept h hn
  | conn i a => exact inv_conn h hn

theorem inv_reachable {s : Server} (h : server.Reachable s) : Inv s :=
  server.inv Inv inv_init (fun _ _ _ h hn => inv_next h hn) h

/-- A step of the server leaves a connection as it is or is a step of it. -/
theorem next_getElem? {s s' : Server} {a : Act} {i : Nat} {c : Conn} (hn : s.next a = some s')
    (hc : s.conns[i]? = some c) :
    ∃ c', s'.conns[i]? = some c' ∧ (c' = c ∨ ∃ b, c.next b = some c') := by
  cases a with
  | accepted ec =>
    simp only [Server.next] at hn
    split at hn <;> cases hn
    exact ⟨c, hc, .inl rfl⟩
  | onAccept j =>
    simp only [Server.next] at hn
    split at hn
    · cases hn
    · rename_i ec hj
      cases hn
      refine ⟨c, ?_, .inl rfl⟩
      cases ec with
      | none => exact List.getElem?_append_left (List.getElem?_eq_some_iff.1 hc).1 ▸ hc
      | some e => exact hc
  | conn k b =>
    obtain ⟨d, d', hd, hb, rfl⟩ := next_conn hn
    by_cases hk : k = i
    · subst hk
      rw [hc] at hd
      cases hd
      exact ⟨d', List.getElem?_set_self (List.getElem?_eq_some_iff.1 hc).1, .inr ⟨b, hb⟩⟩
    · exact ⟨c, by rw [List.getElem?_set_ne hk]; exact hc, .inl rfl⟩

/-- An ended session starts nothing in any later step. -/
theorem ended_exec {i : Nat} : ∀ (as : List Act) {s t : Server} {c : Conn}, Inv s → s.conns[i]? = some c →
    c.ended = true → server.exec s as = some t → ∃ c', t.conns[i]? = some c' ∧ c'.opsStarted = c.opsStarted
  | [], s, t, c, _, hc, _, h => by cases h; exact ⟨c, hc, rfl⟩
  | a :: as, s, t, c, hs, hc, he, h => by
    obtain ⟨s', hn, h⟩ := Machine.exec_cons.1 h
    obtain ⟨c', hc', hstep⟩ := next_getElem? hn hc
    have hs' := inv_next hs hn
    rcases hstep with rfl | ⟨b, hb⟩
    · exact ended_exec as hs' hc' he h
    · obtain ⟨st, hst⟩ := hs.conns c (List.mem_of_getElem? hc)
      obtain ⟨st', hnst, hst'⟩ := hst.next hb
      obtain ⟨he', hp'⟩ := Stage.next_of_ended (hst.ended ▸ he) hnst
      obtain ⟨c'', hc'', ho⟩ := ended_exec as hs' hc' (hst'.ended.trans he') h
      exact ⟨c'', hc'', ho.trans (Conn.next_opsStarted hb (hst'.pending.trans hp'))⟩

/-- A session is at most one request ahead of its responses. -/
theorem At.counts {st : Stage} {c : Conn} (h : At st c) :
    c.written.length ≤ c.started.length ∧ c.started.length ≤ c.requests.length ∧
      c.requests.length ≤ c.written.length + 1 := by
  have hreq := congrArg List.length h.requests
  have hst := congrArg List.length h.started
  have hle := st.inFlight_le
  have hone := st.unanswered_le_one
  simp only [List.length_map, List.length_append] at hreq hst
  omega

/-- The lifecycle of the server: (a) one accept is pending or its handler is due, and each success
started one session; and for each session (b) at most one operation or handler, with the parser kept
while a read is pending or its handler is due, (c) responses written, responses started and requests
read within one of each other, (d) no operation after its end. -/
theorem lifecycle {s : Server} (h : server.Reachable s) :
    (s.accepts + s.onAccept.length = 1 ∧ s.successes = s.conns.length + s.onAccept.count none) ∧
    ∀ (i : Nat) (c : Conn), s.conns[i]? = some c →
      (c.pending.length + c.running.length ≤ 1 ∧
        ∀ (a : Act) (s' : Server) (c' : Conn), server.next s a = some s' → s'.conns[i]? = some c' →
          c'.session.parsersMade ≠ c.session.parsersMade →
            .read ∉ c.pending ∧ ∀ ec, .onRead ec ∉ c.running) ∧
      (c.written.length ≤ c.started.length ∧ c.started.length ≤ c.requests.length ∧
        c.requests.length ≤ c.written.length + 1) ∧
      (c.ended = true → ∀ (as : List Act) (t : Server), server.exec s as = some t →
        ∃ c' : Conn, t.conns[i]? = some c' ∧ c'.opsStarted = c.opsStarted) := by
  have hinv := inv_reachable h
  refine ⟨⟨hinv.acceptor, hinv.sessions⟩, fun i c hc => ?_⟩
  obtain ⟨st, hst⟩ := hinv.conns c (List.mem_of_getElem? hc)
  refine ⟨⟨?_, fun a s' c' hn hc' hne => ?_⟩, hst.counts, fun he as t ht => ended_exec as hinv hc he ht⟩
  · rw [hst.pending, hst.running]
    exact st.length_le_one
  · obtain ⟨c'', hc'', hstep⟩ := next_getElem? hn hc
    rw [hc'] at hc''
    cases hc''
    rcases hstep with rfl | ⟨b, hb⟩
    · exact absurd rfl hne
    · exact hst.parser_kept hb hne

/-- Two clients; the first is answered and asks for the end of its connection, the second's read
fails, and an accept fails in between. -/
theorem lifecycle_two_clients :
    ∃ s c, server.run [.accepted none, .onAccept 0, .accepted none, .onAccept 0,
        .conn 0 (.opDone 0 .ok), .conn 1 (.opDone 0 .ok), .conn 0 (.handle 0), .accepted (some ⟨"reset"⟩),
        .conn 0 (.opDone 0 (.request ⟨"POST", "/", 11, false, "abc"⟩ [])), .conn 1 (.handle 0),
        .onAccept 0, .conn 1 (.opDone 0 (.error ⟨"end of stream"⟩)), .conn 0 (.handle 0),
        .conn 0 (.opDone 0 .ok)] = some s ∧
      s.conns[0]? = some c ∧ c.written = c.requests.map respond ∧
      ∀ as t, server.exec s as = some t → ∃ c', t.conns[0]? = some c' ∧ c'.opsStarted = 3 := by
  obtain ⟨s, hs⟩ := Option.isSome_iff_exists.1 (by decide : (server.run [.accepted none, .onAccept 0,
    .accepted none, .onAccept 0, .conn 0 (.opDone 0 .ok), .conn 1 (.opDone 0 .ok), .conn 0 (.handle 0),
    .accepted (some ⟨"reset"⟩), .conn 0 (.opDone 0 (.request ⟨"POST", "/", 11, false, "abc"⟩ [])),
    .conn 1 (.handle 0), .onAccept 0, .conn 1 (.opDone 0 (.error ⟨"end of stream"⟩)), .conn 0 (.handle 0),
    .conn 0 (.opDone 0 .ok)]).isSome)
  obtain ⟨c, hc⟩ := Option.isSome_iff_exists.1 (by cases hs; decide : s.conns[0]?.isSome)
  have hlife := ((lifecycle ⟨_, hs⟩).2 0 c hc).2.2
  cases hs
  cases hc
  exact ⟨_, _, rfl, rfl, rfl, hlife rfl⟩

end HttpSurvey.Beast
