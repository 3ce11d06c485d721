/-
One keep-alive connection with its octets. The client's octets wait to be sent, lie in the socket, or
have been received into `buffer_`; `async_read` receives more only when the parser asks for more, and
leaves what it received past the end of the message in the buffer. The parser is a parameter
(`RequestFormat`): it reads the requests of the format one at a time.

`on_write` empties the buffer before it reads the next request. The session answers every request, in
order and without dropping an octet of them, exactly in the runs in which it never finds something
there.
-/
import HttpSurvey.Beast.Lifecycle
import HttpSurvey.Beast.Wire

namespace HttpSurvey.Beast

open HttpSurvey.Lib

/-- A connection, the octets that the client has yet to send and those in the socket. -/
structure Link where
  conn : Conn
  unsent : List Char
  socket : List Char
  deriving DecidableEq, Repr

/-- The client sends, the pending read receives, has its message or cannot have one; a dispatch or a
write completes; the handler that is due runs. -/
inductive LinkAct
  | send (n : Nat)
  | recv (n : Nat)
  | parsed
  | refused (ec : ErrorCode)
  | completed
  | handle
  deriving DecidableEq, Repr

/-- `buffer_`. -/
def Link.buffer (s : Link) : List Char := s.conn.session.buffer

/-- A step of the connection. -/
def Link.step (s : Link) (a : ConnAct) : Option Link := (s.conn.next a).map fun c => { s with conn := c }

def Link.next (F : RequestFormat) (s : Link) : LinkAct → Option Link
  | .send n =>
    if 0 < n ∧ n ≤ s.unsent.length then
      some
        { s with
          unsent := s.unsent.drop n
          socket := s.socket ++ s.unsent.take n }
    else none
  | .recv n =>
    if 0 < n ∧ n ≤ s.socket.length ∧ s.conn.pending = [.read] ∧ F.read s.buffer = .more then
      some
        { s with
          conn.session.buffer := s.buffer ++ s.socket.take n
          socket := s.socket.drop n }
    else none
  | .parsed =>
    match F.read s.buffer with
    | .done req rest => s.step (.opDone 0 (.request req rest))
    | _ => none
  | .refused ec =>
    match F.read s.buffer with
    | .failed => if s.conn.pending = [.read] then s.step (.opDone 0 (.error ec)) else none
    | _ => none
  | .completed => s.step (.opDone 0 .ok)
  | .handle => s.step (.handle 0)

/-- A connection whose client sends the requests `rs`. -/
def link (F : RequestFormat) (rs : List Request) : Machine Link LinkAct where
  init := { conn := Conn.start, unsent := F.octets rs, socket := [] }
  next := Link.next F

/-- The handler that is due is an `on_write` that goes on to the next request. -/
def Conn.goesOn (c : Conn) : Bool :=
  match c.running with
  | .onWrite _ false none :: _ => true
  | _ => false

/-- An `on_write` that goes on finds nothing in the buffer. -/
def BufferEmpty (s : Link) (a : LinkAct) : Prop := a = .handle → s.conn.goesOn = true → s.buffer = []

instance (s : Link) (a : LinkAct) : Decidable (BufferEmpty s a) :=
  inferInstanceAs (Decidable (a = .handle → s.conn.goesOn = true → s.buffer = []))

/-- In every state of the run nothing was dropped and the responses written are those of the first
requests, in order; and when the run can go no further, those of all requests. -/
def Served (F : RequestFormat) (rs : List Request) (as : List LinkAct) : Prop :=
  ∀ bs, bs <+: as → ∀ u, (link F rs).run bs = some u →
    u.conn.session.consumed = [] ∧ u.conn.written <+: rs.map respond ∧
      ((link F rs).Stuck u → u.conn.written = rs.map respond)

/-! ## What a step does -/

theorem step_eq {s s' : Link} {a : ConnAct} (h : s.step a = some s') :
    ∃ c, s.conn.next a = some c ∧ s' = { s with conn := c } := by
  obtain ⟨c, hc, rfl⟩ := Option.map_eq_some_iff.1 h
  exact ⟨c, hc, rfl⟩

section ConnSteps

variable {c c' : Conn}

/-- A read that completes with a request. -/
theorem next_request {req : Request} {rest : List Char}
    (h : c.next (.opDone 0 (.request req rest)) = some c') :
    c'.requests = c.requests ++ [req] ∧ c'.session.buffer = rest ∧
      c'.session.consumed = c.session.consumed := by
  simp only [Conn.next] at h
  split at h
  · cases h
  · rename_i op hop
    cases op <;> cases h
    exact ⟨rfl, rfl, rfl⟩

/-- Any other completion. -/
theorem next_opDone {r : Result} (hr : ∀ req rest, r ≠ .request req rest)
    (h : c.next (.opDone 0 r) = some c') : c'.requests = c.requests ∧ c'.session = c.session := by
  simp only [Conn.next] at h
  split at h
  · cases h
  · rename_i op hop
    cases r with
    | request req rest => exact absurd rfl (hr req rest)
    | ok | error => cases op <;> cases h <;> exact ⟨rfl, rfl⟩

/-- A handler that runs: only an `on_write` that goes on touches the buffer. -/
theorem next_handle (h : c.next (.handle 0) = some c') :
    c'.requests = c.requests ∧ c'.written = c.written ∧
      c'.session.buffer = (if c.goesOn then [] else c.session.buffer) ∧
      c'.session.consumed = c.session.consumed ++ (if c.goesOn then c.session.buffer else []) := by
  obtain ⟨session, pending, running, requests, started, written, n, ended⟩ := c
  cases running with
  | nil => cases h
  | cons handler running =>
    simp only [Conn.next, List.getElem?_cons_zero] at h
    split at h
    · cases h
    · rename_i s' ops hrun
      cases h
      refine ⟨rfl, rfl, ?_⟩
      rcases handler with _ | (_ | ec) | ⟨res, close, _ | ec⟩
      · cases hrun
        exact ⟨rfl, (List.append_nil _).symm⟩
      · obtain ⟨p, -, hrun⟩ := Option.bind_eq_some_iff.1 hrun
        obtain ⟨req, -, hrun⟩ := Option.bind_eq_some_iff.1 hrun
        cases hrun
        exact ⟨rfl, (List.append_nil _).symm⟩
      · cases hrun
        exact ⟨rfl, (List.append_nil _).symm⟩
      · -- a written response: the buffer is emptied only when the connection goes on
        cases close with
        | true =>
          cases hrun
          exact ⟨rfl, (List.append_nil _).symm⟩
        | false =>
          cases hrun
          simp [Conn.goesOn, Session.consume]
      · cases hrun
        cases close <;> exact ⟨rfl, (List.append_nil _).symm⟩

end ConnSteps

/-- In a stage that has not ended, `on_write` goes on exactly when it is due. -/
theorem At.goesOn {st : Stage} {c : Conn} (h : At st c) (he : st.ended = false) :
    c.goesOn = true ↔ ∃ req, st = .answered req := by
  unfold Conn.goesOn
  rw [h.running]
  cases st with
  | answered req =>
    have heof : (respond req).needEof = false := he
    simp [Stage.running, heof]
  | _ => simp [Stage.running]

/-! ## Runs that find the buffer empty -/

/-- The connection has read the first requests, dropped nothing, and has the octets of the others
before it. -/
structure Reads (F : RequestFormat) (rs : List Request) (st : Stage) (s : Link) : Prop where
  stage : At st s.conn
  alive : st.ended = false
  consumed : s.conn.session.consumed = []
  stream : ∃ later, rs = s.conn.requests ++ later ∧
    s.buffer ++ (s.socket ++ s.unsent) = F.octets later

section Run

variable {F : RequestFormat} {rs : List Request} {st : Stage} {s s' : Link}

theorem reads_init : Reads F rs .starting (link F rs).init :=
  ⟨at_start, rfl, rfl, rs, rfl, rfl⟩

/-- The response to a request that has been read keeps the connection open. -/
theorem Reads.needEof (h : Reads F rs st s) (hrs : ∀ r ∈ rs, r.keepAlive = true) {req : Request}
    (hreq : req ∈ st.unanswered) : (respond req).needEof = false := by
  have hmem : respond req ∈ s.conn.requests.map respond := by
    rw [h.stage.requests]
    exact List.mem_append_right _ (List.mem_map_of_mem hreq)
  obtain ⟨r, hr, heq⟩ := List.mem_map.1 hmem
  obtain ⟨later, hlater, -⟩ := h.stream
  have hka := hrs r (by rw [hlater]; exact List.mem_append_left _ hr)
  rw [← heq, respond_needEof, hka]
  rfl

/-- A stage goes on from one that has not ended, unless a read or a write fails. -/
theorem Stage.alive_next {st st' : Stage} {a : ConnAct} (hn : st.next a = some st') (he : st.ended = false)
    (ha : ∀ ec, a ≠ .opDone 0 (.error ec)) (heof : ∀ r ∈ st.unanswered, (respond r).needEof = false) :
    st'.ended = false := by
  cases st with
  | reading =>
    rcases a with ⟨_ | j, _ | _ | ec⟩ | j <;> cases hn
    · rfl
    · exact absurd rfl (ha ec)
  | writing req =>
    rcases a with ⟨_ | j, _ | _ | ec⟩ | j <;> cases hn
    · exact heof req (List.mem_singleton_self _)
    · exact absurd rfl (ha ec)
  | answered req =>
    obtain ⟨j, r⟩ | _ | j := a <;> cases hn
    have heof' : (respond req).needEof = false := he
    rw [if_neg (by simp [heof'])]
    rfl
  | starting | due | received req =>
    rcases a with ⟨_ | j, _ | _ | ec⟩ | _ | j
    all_goals cases hn
    rfl
  | readFailed | writeFailed | finished => cases he

theorem reads_next {a : LinkAct} (hrs : ∀ r ∈ rs, F.wf r ∧ r.keepAlive = true) (h : Reads F rs st s)
    (hg : BufferEmpty s a) (hn : s.next F a = some s') : ∃ st', Reads F rs st' s' := by
  have hka := fun r hr => (hrs r hr).2
  obtain ⟨later, hlater, hstream⟩ := h.stream
  have hlaterwf : ∀ r ∈ later, F.wf r := fun r hr =>
    (hrs r (by rw [hlater]; exact List.mem_append_right _ hr)).1
  cases a with
  | send n =>
    simp only [Link.next] at hn
    split at hn <;> cases hn
    refine ⟨st, h.stage, h.alive, h.consumed, later, hlater, ?_⟩
    rw [← hstream]
    simp [Link.buffer]
  | recv n =>
    simp only [Link.next] at hn
    split at hn <;> cases hn
    refine ⟨st, ⟨h.stage.pending, h.stage.running, h.stage.ended, h.stage.requests, h.stage.started,
      h.stage.parser⟩, h.alive, h.consumed, later, hlater, ?_⟩
    simp only [Link.buffer, List.append_assoc] at hstream ⊢
    rw [← List.append_assoc (s.socket.take n), List.take_append_drop, hstream]
  | parsed =>
    simp only [Link.next] at hn
    split at hn
    · rename_i req rest hread
      obtain ⟨c, hc, rfl⟩ := step_eq hn
      obtain ⟨st', hst', hat⟩ := h.stage.next hc
      obtain ⟨hreq, hbuf, hcons⟩ := next_request hc
      obtain ⟨later', rfl, hrest⟩ := F.reads.read_done hlaterwf hstream hread
      refine ⟨st', hat, Stage.alive_next hst' h.alive (by simp) fun r hr => h.needEof hka hr, ?_, later',
        ?_, ?_⟩
      · exact hcons.trans h.consumed
      · simpa [hreq] using hlater
      · simpa only [Link.buffer, hbuf, RequestFormat.octets] using hrest
    · cases hn
  | refused ec =>
    simp only [Link.next] at hn
    split at hn
    · rename_i hread
      exact absurd hread (F.reads.read_ne_failed hlaterwf hstream)
    · cases hn
  | completed =>
    obtain ⟨c, hc, rfl⟩ := step_eq hn
    obtain ⟨st', hst', hat⟩ := h.stage.next hc
    obtain ⟨hreq, hses⟩ := next_opDone (by simp) hc
    refine ⟨st', hat, Stage.alive_next hst' h.alive (by simp) fun r hr => h.needEof hka hr, ?_, later, ?_, ?_⟩
    · simpa [hses] using h.consumed
    · simpa [hreq] using hlater
    · simpa [Link.buffer, hses] using hstream
  | handle =>
    obtain ⟨c, hc, rfl⟩ := step_eq hn
    obtain ⟨st', hst', hat⟩ := h.stage.next hc
    obtain ⟨hreq, -, hbuf, hcons⟩ := next_handle hc
    -- an `on_write` that goes on drops an empty buffer
    have hkept : c.session.buffer = s.buffer := by
      rw [hbuf]
      by_cases hgo : s.conn.goesOn = true
      · rw [if_pos hgo, hg rfl hgo]
      · rw [if_neg hgo]
        rfl
    refine ⟨st', hat, Stage.alive_next hst' h.alive (by simp) fun r hr => h.needEof hka hr, ?_, later, ?_, ?_⟩
    · rw [hcons, h.consumed]
      by_cases hgo : s.conn.goesOn = true
      · simpa [hgo, Link.buffer] using hg rfl hgo
      · simp [hgo]
    · simpa [hreq] using hlater
    · simpa [Link.buffer, hkept] using hstream

theorem reads_run {as : List LinkAct} (hrs : ∀ r ∈ rs, F.wf r ∧ r.keepAlive = true)
    (h : (link F rs).run as = some s) (hg : (link F rs).Along BufferEmpty (link F rs).init as) :
    ∃ st, Reads F rs st s :=
  Machine.alongInv (fun s => ∃ st, Reads F rs st s) (fun _ _ _ hg ⟨_, h⟩ hn => reads_next hrs h hg hn)
    as _ s hg ⟨.starting, reads_init⟩ h

/-- The responses written are those of the first requests. -/
theorem Reads.written_prefix (h : Reads F rs st s) : s.conn.written <+: rs.map respond := by
  obtain ⟨later, hlater, -⟩ := h.stream
  rw [hlater, List.map_append, h.stage.requests, List.append_assoc]
  exact List.prefix_append _ _

/-- A connection that can do what its stage does is not stuck. -/
theorem At.isSome_next {c : Conn} {a : ConnAct} (h : At st c) (ha : (st.next a).isSome) : (c.next a).isSome := by
  obtain ⟨st', hst'⟩ := Option.isSome_iff_exists.1 ha
  have hrel := next_rel h a
  rw [hst'] at hrel
  cases hc : c.next a with
  | none => rw [hc] at hrel; cases hrel
  | some c' => rfl

/-- A connection that can go no further has answered every request. -/
theorem Reads.stuck (hrs : ∀ r ∈ rs, F.wf r) (h : Reads F rs st s) (hs : (link F rs).Stuck s) :
    s.conn.written = rs.map respond := by
  have hstep : ∀ a b, s.next F b = s.step a → ¬(st.next a).isSome := by
    intro a b hb ha
    obtain ⟨c, hc⟩ := Option.isSome_iff_exists.1 (h.stage.isSome_next ha)
    have hnone := hs b
    change s.next F b = none at hnone
    rw [hb, Link.step, hc] at hnone
    cases hnone
  have hhandle := hstep (.handle 0) .handle rfl
  have hdone := hstep (.opDone 0 .ok) .completed rfl
  cases st with
  | starting | writing => exact absurd rfl hdone
  | due | received | answered => exact absurd rfl hhandle
  | readFailed | writeFailed | finished => cases h.alive
  | reading =>
    obtain ⟨later, hlater, hstream⟩ := h.stream
    have hwf : ∀ r ∈ later, F.wf r := fun r hr => hrs r (by rw [hlater]; exact List.mem_append_right _ hr)
    cases hread : F.read s.buffer with
    | done req rest =>
      exact absurd rfl (hstep (.opDone 0 (.request req rest)) .parsed (by simp only [Link.next, hread]))
    | failed => exact absurd hread (F.reads.read_ne_failed hwf hstream)
    | more =>
      -- nothing is left to receive or to send
      have hsocket : s.socket = [] := by
        have hrecv := hs (.recv 1)
        change s.next F (.recv 1) = none at hrecv
        simp only [Link.next, hread, h.stage.pending, Stage.pending] at hrecv
        split at hrecv
        · cases hrecv
        · rename_i hno
          by_contra hne
          exact hno ⟨Nat.one_pos, List.length_pos_iff.2 hne, trivial, trivial⟩
      have hunsent : s.unsent = [] := by
        have hsend := hs (.send 1)
        change s.next F (.send 1) = none at hsend
        simp only [Link.next] at hsend
        split at hsend
        · cases hsend
        · rename_i hno
          by_contra hne
          exact hno ⟨Nat.one_pos, List.length_pos_iff.2 hne⟩
      rw [hsocket, hunsent, List.append_nil, List.append_nil] at hstream
      have hlater0 : later = [] := F.reads.read_more hwf hstream hread
      rw [hlater0, List.append_nil] at hlater
      rw [hlater, h.stage.requests]
      exact (List.append_nil _).symm

end Run

/-! ## Every run ends -/

/-- The steps a session can still take before it reads or ends. -/
def Stage.rank : Stage → Nat
  | received _ => 5
  | starting | writing _ => 4
  | due | answered _ => 3
  | reading => 2
  | readFailed _ | writeFailed _ _ => 1
  | finished _ => 0

theorem Stage.rank_next {st st' : Stage} {a : ConnAct} (h : st.next a = some st')
    (ha : ∀ req rest, a ≠ .opDone 0 (.request req rest)) : st'.rank < st.rank := by
  cases st with
  | reading =>
    rcases a with ⟨_ | j, _ | ⟨req, rest⟩ | ec⟩ | j <;> cases h
    · exact absurd rfl (ha req rest)
    · simp [Stage.rank]
  | answered req =>
    obtain ⟨j, r⟩ | _ | j := a <;> cases h
    split <;> simp [Stage.rank]
  | starting | due | received | readFailed | writing | writeFailed | finished =>
    rcases a with ⟨_ | j, _ | _ | ec⟩ | _ | j <;> cases h <;> simp [Stage.rank]

theorem Stage.rank_request {st st' : Stage} {req : Request} {rest : List Char}
    (h : st.next (.opDone 0 (.request req rest)) = some st') : st'.rank = st.rank + 3 := by
  cases st <;> cases h
  rfl

/-- What is left to do on a connection: an octet is sent, received and parsed. -/
def Link.left (st : Stage) (s : Link) : Nat :=
  6 * s.unsent.length + 5 * s.socket.length + 4 * s.buffer.length + st.rank

theorem left_next {F : RequestFormat} {st : Stage} {s s' : Link} {a : LinkAct} (h : At st s.conn)
    (hn : s.next F a = some s') : ∃ st', At st' s'.conn ∧ s'.left st' < s.left st := by
  cases a with
  | send n =>
    simp only [Link.next] at hn
    split at hn <;> cases hn
    refine ⟨st, h, ?_⟩
    simp only [Link.left, Link.buffer, List.length_drop, List.length_append, List.length_take]
    omega
  | recv n =>
    simp only [Link.next] at hn
    split at hn <;> cases hn
    refine ⟨st, ⟨h.pending, h.running, h.ended, h.requests, h.started, h.parser⟩, ?_⟩
    simp only [Link.left, Link.buffer, List.length_drop, List.length_append, List.length_take]
    omega
  | parsed =>
    simp only [Link.next] at hn
    split at hn
    · rename_i req rest hread
      obtain ⟨c, hc, rfl⟩ := step_eq hn
      obtain ⟨st', hst', hat⟩ := h.next hc
      obtain ⟨-, hbuf, -⟩ := next_request hc
      have hshort := F.reads.shorter hread
      have hrank := Stage.rank_request hst'
      refine ⟨st', hat, ?_⟩
      simp only [Link.left, Link.buffer, hbuf] at hshort ⊢
      omega
    · cases hn
  | refused ec =>
    simp only [Link.next] at hn
    split at hn
    · split at hn
      · obtain ⟨c, hc, rfl⟩ := step_eq hn
        obtain ⟨st', hst', hat⟩ := h.next hc
        obtain ⟨-, hses⟩ := next_opDone (by simp) hc
        have hrank := Stage.rank_next hst' (by simp)
        refine ⟨st', hat, ?_⟩
        simp only [Link.left, Link.buffer, hses]
        omega
      · cases hn
    · cases hn
  | completed =>
    obtain ⟨c, hc, rfl⟩ := step_eq hn
    obtain ⟨st', hst', hat⟩ := h.next hc
    obtain ⟨-, hses⟩ := next_opDone (by simp) hc
    have hrank := Stage.rank_next hst' (by simp)
    refine ⟨st', hat, ?_⟩
    simp only [Link.left, Link.buffer, hses]
    omega
  | handle =>
    obtain ⟨c, hc, rfl⟩ := step_eq hn
    obtain ⟨st', hst', hat⟩ := h.next hc
    obtain ⟨-, -, hbuf, -⟩ := next_handle hc
    have hrank := Stage.rank_next hst' (by simp)
    have hle : c.session.buffer.length ≤ s.conn.session.buffer.length := by
      rw [hbuf]
      split
      · exact Nat.zero_le _
      · exact le_rfl
    refine ⟨st', hat, ?_⟩
    simp only [Link.left, Link.buffer]
    omega

/-- A run takes at most as many steps as there is left to do. -/
theorem length_le_left {F : RequestFormat} {rs : List Request} : ∀ (as : List LinkAct) {s t : Link} {st : Stage},
    At st s.conn → (link F rs).exec s as = some t → as.length ≤ s.left st
  | [], _, _, _, _, _ => Nat.zero_le _
  | a :: as, s, t, st, hat, h => by
    obtain ⟨s', hn, h⟩ := Machine.exec_cons.1 h
    obtain ⟨st', hat', hlt⟩ := left_next hat hn
    have := length_le_left as hat' h
    rw [List.length_cons]
    omega

theorem run_length_le {F : RequestFormat} {rs : List Request} {as : List LinkAct} {t : Link}
    (h : (link F rs).run as = some t) : as.length ≤ 6 * (F.octets rs).length + 4 := by
  simpa [Link.left, Link.buffer, link, Conn.start, Session.run, Stage.rank] using
    length_le_left as at_start h

/-! ## Every request is answered -/

section Served

variable {F : RequestFormat} {rs : List Request} {as : List LinkAct}

theorem served_of_bufferEmpty (hrs : ∀ r ∈ rs, F.wf r ∧ r.keepAlive = true)
    (hg : (link F rs).Along BufferEmpty (link F rs).init as) : Served F rs as := by
  intro bs hb u hu
  obtain ⟨st, hst⟩ := reads_run hrs hu (Machine.along_prefix hg hb)
  exact ⟨hst.consumed, hst.written_prefix, hst.stuck fun r hr => (hrs r hr).1⟩

/-- An `on_write` that goes on drops what is in the buffer. -/
theorem bufferEmpty_of_served {t : Link} (h : (link F rs).run as = some t) (hserved : Served F rs as) :
    (link F rs).Along BufferEmpty (link F rs).init as := by
  refine Machine.along_of_prefixes ?_
  rintro bs _ hb u hu rfl hgo
  obtain ⟨u', hu'⟩ := Machine.exec_prefix h hb
  obtain ⟨v, hv, hn⟩ := Machine.exec_snoc.1 hu'
  rw [hu] at hv
  cases hv
  obtain ⟨c, hc, rfl⟩ := step_eq hn
  obtain ⟨-, -, -, hcons⟩ := next_handle hc
  have hnone := (hserved _ hb _ hu').1
  rw [if_pos hgo] at hcons
  rw [hcons] at hnone
  exact (List.append_eq_nil_iff.1 hnone).2

/-- Every run of a connection ends, and it serves the requests exactly when no `on_write` that goes on
to the next request finds octets in the buffer. -/
theorem requests_served_iff {t : Link} (hrs : ∀ r ∈ rs, F.wf r ∧ r.keepAlive = true)
    (h : (link F rs).run as = some t) :
    as.length ≤ 6 * (F.octets rs).length + 4 ∧
      (Served F rs as ↔ (link F rs).Along BufferEmpty (link F rs).init as) :=
  ⟨run_length_le h, bufferEmpty_of_served h, served_of_bufferEmpty hrs⟩

end Served

/-- Two requests, the second sent after the first was answered. -/
theorem requests_served_two :
    Served http11Requests [post "abc", post "hello"] [.send 41, .completed, .handle, .recv 20, .recv 21,
      .parsed, .handle, .completed, .handle, .send 43, .recv 43, .parsed, .handle, .completed, .handle] := by
  obtain ⟨t, ht⟩ := Option.isSome_iff_exists.1 (by decide +kernel :
    ((link http11Requests [post "abc", post "hello"]).run [.send 41, .completed, .handle, .recv 20, .recv 21,
      .parsed, .handle, .completed, .handle, .send 43, .recv 43, .parsed, .handle, .completed, .handle]).isSome)
  exact (requests_served_iff (posts_wf ["abc", "hello"]) ht).2.2 (by decide +kernel)

/-- The same two requests, sent and received together: the first `on_write` drops the second, which is
never answered. -/
theorem second_request_dropped :
    ∃ t, (link http11Requests [post "abc", post "hello"]).run [.send 84, .completed, .handle, .recv 84,
        .parsed, .handle, .completed, .handle] = some t ∧
      t.conn.written = [respond (post "abc")] ∧
      t.conn.session.consumed = http11Requests.encode (post "hello") ∧ t.unsent = [] ∧ t.socket = [] ∧
      ¬Served http11Requests [post "abc", post "hello"] [.send 84, .completed, .handle, .recv 84, .parsed,
        .handle, .completed, .handle] := by
  obtain ⟨t, ht, hp⟩ := Machine.exists_run (by decide +kernel :
    ((link http11Requests [post "abc", post "hello"]).run [.send 84, .completed, .handle, .recv 84, .parsed,
      .handle, .completed, .handle]).any (fun t => t.conn.written = [respond (post "abc")] ∧
        t.conn.session.consumed = http11Requests.encode (post "hello") ∧ t.unsent = [] ∧ t.socket = []) = true)
  obtain ⟨hwritten, hconsumed, hunsent, hsocket⟩ := of_decide_eq_true hp
  refine ⟨t, ht, hwritten, hconsumed, hunsent, hsocket, fun hserved => ?_⟩
  have hnone := (hserved _ (List.prefix_refl _) t ht).1
  rw [hconsumed] at hnone
  exact http11Requests.reads.encode_ne_nil (plain_post "hello") hnone

end HttpSurvey.Beast
