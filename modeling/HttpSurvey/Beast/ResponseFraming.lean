/-
The octets of the responses on one connection, as a client reads them that sends one request at a
time. Such a client never leaves octets of a later request in the buffer, so every request it sent is
answered; what it decodes is decided by the framing of the messages alone. `session::on_read` gives
every response a body, and the client reads none after a HEAD: the responses are decoded exactly when
no request is a HEAD.
-/
import HttpSurvey.Beast.Pipeline

namespace HttpSurvey.Beast

open HttpSurvey.Lib

/-! ## One request at a time -/

/-- The client sends octets of a request only when the responses to those before it are written. -/
def OneAtATime (F : RequestFormat) (rs : List Request) (s : Link) : LinkAct → Prop
  | .send n =>
    (F.octets rs).length - s.unsent.length + n ≤ (F.octets (rs.take (s.conn.written.length + 1))).length
  | _ => True

instance (F : RequestFormat) (rs : List Request) (s : Link) : ∀ a, Decidable (OneAtATime F rs s a)
  | .send n => inferInstanceAs (Decidable ((F.octets rs).length - s.unsent.length + n ≤ _))
  | .recv _ | .parsed | .refused _ | .completed | .handle => isTrue trivial

/-- The client is at most one request ahead of the responses, and the buffer holds octets only while
they are read. -/
structure Paced (F : RequestFormat) (rs : List Request) (s : Link) : Prop where
  reads : ∃ st, Reads F rs st s
  sent : (F.octets rs).length ≤ s.unsent.length + (F.octets (rs.take (s.conn.written.length + 1))).length
  buffer : s.conn.pending = [.read] ∨ s.buffer = []

section Paced

variable {F : RequestFormat} {rs : List Request} {s s' : Link}

theorem octets_append (F : RequestFormat) (rs rs' : List Request) :
    F.octets (rs ++ rs') = F.octets rs ++ F.octets rs' := List.flatMap_append

theorem octets_take_mono (F : RequestFormat) (rs : List Request) {m n : Nat} (h : m ≤ n) :
    (F.octets (rs.take m)).length ≤ (F.octets (rs.take n)).length := by
  obtain ⟨later, hlater⟩ := List.take_prefix_take_left h (l := rs)
  rw [← hlater, octets_append, List.length_append]
  exact Nat.le_add_right _ _

theorem paced_init : Paced F rs (link F rs).init := by
  refine ⟨⟨.starting, reads_init⟩, ?_, .inr rfl⟩
  exact Nat.le_add_right _ _

/-- A handler runs only when no read is pending. -/
theorem Paced.buffer_of_running (h : Paced F rs s) {c : Conn} (hc : s.conn.next (.handle 0) = some c) :
    s.buffer = [] := by
  obtain ⟨st, hst⟩ := h.reads
  rcases h.buffer with hread | hempty
  · have hlen := st.length_le_one
    rw [← hst.stage.pending, ← hst.stage.running, hread] at hlen
    have hnil : s.conn.running = [] := List.length_eq_zero_iff.1 (by simp only [List.length_singleton] at hlen; omega)
    simp [Conn.next, hnil] at hc
  · exact hempty

theorem Paced.bufferEmpty (h : Paced F rs s) {a : LinkAct} (hn : s.next F a = some s') : BufferEmpty s a := by
  rintro rfl -
  obtain ⟨c, hc, -⟩ := step_eq hn
  exact h.buffer_of_running hc

/-- While a read is pending every request that was read has been answered. -/
theorem Reads.of_read {st : Stage} (h : Reads F rs st s) {req : Request} {rest : List Char} {c : Conn}
    (hc : s.conn.next (.opDone 0 (.request req rest)) = some c) :
    s.conn.requests.length = s.conn.written.length ∧ c.written = s.conn.written := by
  obtain ⟨st', hst', hat⟩ := h.stage.next hc
  cases st with
  | reading =>
    have hlen := congrArg List.length h.stage.requests
    simp only [Stage.unanswered, List.map_nil, List.append_nil, List.length_map] at hlen
    refine ⟨hlen, ?_⟩
    simp only [Conn.next, h.stage.pending, Stage.pending, List.getElem?_cons_zero, Op.complete] at hc
    cases hc
    rfl
  | starting | due | received | readFailed | writing | answered | writeFailed | finished => cases hst'

/-- A dispatch or a write that completes: no read was pending, and the responses written only grow. -/
theorem next_completed {c c' : Conn} (h : c.next (.opDone 0 .ok) = some c') :
    c.written.length ≤ c'.written.length ∧ c.pending ≠ [.read] := by
  refine ⟨?_, fun hread => ?_⟩
  · simp only [Conn.next] at h
    split at h
    · cases h
    · rename_i op hop
      cases op <;> cases h
      · exact le_rfl
      · simp [Conn.note]
  · simp [Conn.next, hread, Op.complete] at h

/-- What is left in the buffer after a request of a client that waits for its response. -/
theorem Paced.rest_eq_nil (hrs : ∀ r ∈ rs, F.wf r ∧ r.keepAlive = true) (h : Paced F rs s) {req : Request}
    {rest : List Char} {c : Conn} (hread : F.read s.buffer = .done req rest)
    (hc : s.conn.next (.opDone 0 (.request req rest)) = some c) : rest = [] := by
  obtain ⟨st, hst⟩ := h.reads
  obtain ⟨hlen, -⟩ := hst.of_read hc
  obtain ⟨later, hlater, hstream⟩ := hst.stream
  have hwf : ∀ r ∈ later, F.wf r := fun r hr =>
    (hrs r (by rw [hlater]; exact List.mem_append_right _ hr)).1
  obtain ⟨later', rfl, hrest⟩ := F.reads.read_done hwf hstream hread
  have hsplit : rs = (s.conn.requests ++ [req]) ++ later' := by rw [hlater, List.append_assoc]; rfl
  have htake : rs.take (s.conn.written.length + 1) = s.conn.requests ++ [req] := by
    rw [hsplit, ← hlen]
    exact List.take_left' (by simp)
  -- the octets after the request are all unsent
  have htotal := congrArg (fun rs => (F.octets rs).length) hsplit
  have hleft := congrArg List.length hrest
  have hsent := h.sent
  rw [htake] at hsent
  simp only [octets_append, List.length_append] at htotal hsent hleft
  refine List.length_eq_zero_iff.1 ?_
  unfold RequestFormat.octets at *
  omega

theorem unsent_le {st : Stage} (h : Reads F rs st s) : s.unsent.length ≤ (F.octets rs).length := by
  obtain ⟨later, hlater, hstream⟩ := h.stream
  have hlen := congrArg List.length hstream
  rw [hlater, octets_append, List.length_append]
  simp only [List.length_append] at hlen
  omega

theorem paced_next {a : LinkAct} (hrs : ∀ r ∈ rs, F.wf r ∧ r.keepAlive = true) (hg : OneAtATime F rs s a)
    (h : Paced F rs s) (hn : s.next F a = some s') : Paced F rs s' := by
  obtain ⟨st, hst⟩ := h.reads
  have hreads := reads_next hrs hst (h.bufferEmpty hn) hn
  have hsent := h.sent
  cases a with
  | send n =>
    have hle := unsent_le hst
    simp only [Link.next] at hn
    split at hn <;> cases hn
    rename_i hpos
    refine ⟨hreads, ?_, h.buffer⟩
    simp only [OneAtATime] at hg
    simp only [List.length_drop]
    omega
  | recv n =>
    simp only [Link.next] at hn
    split at hn <;> cases hn
    rename_i hread
    exact ⟨hreads, hsent, .inl hread.2.2.1⟩
  | parsed =>
    simp only [Link.next] at hn
    split at hn
    · rename_i req rest hread
      obtain ⟨c, hc, rfl⟩ := step_eq hn
      obtain ⟨-, hwritten⟩ := hst.of_read hc
      obtain ⟨-, hbuf, -⟩ := next_request hc
      refine ⟨hreads, by simpa only [hwritten] using hsent, .inr ?_⟩
      exact hbuf.trans (h.rest_eq_nil hrs hread hc)
    · cases hn
  | refused ec =>
    obtain ⟨later, hlater, hstream⟩ := hst.stream
    simp only [Link.next] at hn
    split at hn
    · rename_i hread
      refine absurd hread (F.reads.read_ne_failed (fun r hr => ?_) hstream)
      exact (hrs r (by rw [hlater]; exact List.mem_append_right _ hr)).1
    · cases hn
  | completed =>
    obtain ⟨c, hc, rfl⟩ := step_eq hn
    obtain ⟨-, hses⟩ := next_opDone (by simp) hc
    obtain ⟨hle, hnr⟩ := next_completed hc
    refine ⟨hreads, hsent.trans (Nat.add_le_add_left (octets_take_mono F rs ?_) _), .inr ?_⟩
    · exact Nat.succ_le_succ hle
    · have hempty := h.buffer.resolve_left hnr
      simpa only [Link.buffer, hses] using hempty
  | handle =>
    obtain ⟨c, hc, rfl⟩ := step_eq hn
    obtain ⟨-, hwritten, hbuf, -⟩ := next_handle hc
    have hempty := h.buffer_of_running hc
    refine ⟨hreads, by simpa only [hwritten] using hsent, .inr ?_⟩
    change s.conn.session.buffer = [] at hempty
    change c.session.buffer = []
    rw [hbuf, hempty, ite_self]

/-- A client that sends one request at a time finds the buffer empty after every response. -/
theorem paced_run {as : List LinkAct} (hrs : ∀ r ∈ rs, F.wf r ∧ r.keepAlive = true)
    (h : (link F rs).run as = some s) (hg : (link F rs).Along (OneAtATime F rs) (link F rs).init as) :
    (link F rs).Along BufferEmpty (link F rs).init as :=
  Machine.along_of_inv (Paced F rs) (fun _ _ _ hg h hn => paced_next hrs hg h hn)
    (fun _ _ _ _ h hn => h.bufferEmpty hn) as _ s h hg paced_init

end Paced

/-! ## Framing -/

/-- `async_write` of a response: its head, then all of its body. -/
def ResponseFormat.write (W : ResponseFormat) (res : Response) : List Char := W.encode res.toHead ++ res.body.toList

/-- The size of the body that follows a head, by the method of the request: none after HEAD. -/
def bodyLength (method : String) (h : Head) : Option Nat :=
  if method = "HEAD" then some 0 else (h.field "Content-Length").bind fun value => readDecimal value.toList

/-- A client that reads one response for each method, and what is left over. -/
def decodeResponses (W : ResponseFormat) : List String → List Char → Option (List Response × List Char)
  | [], p => some ([], p)
  | method :: methods, p =>
    match W.read p with
    | .done h rest =>
      match bodyLength method h with
      | none => none
      | some n =>
        if rest.length < n then none
        else
          (decodeResponses W methods (rest.drop n)).map fun d =>
            ({ toHead := h, body := String.ofList (rest.take n) } :: d.1, d.2)
    | _ => none

/-- What the client is to read for a request. -/
def received (req : Request) : Response :=
  if req.method = "HEAD" then { respond req with body := "" } else respond req

section Framing

variable {W : ResponseFormat}

theorem bodyLength_respond {req : Request} (h : req.method ≠ "HEAD") :
    bodyLength req.method (respond req).toHead = some (respond req).body.length := by
  unfold bodyLength
  rw [if_neg h, respond_contentLength, Option.bind_some, readDecimal_toString]

/-- A response to another method than HEAD is read as it was written. -/
theorem decode_cons {req : Request} (hv : req.version = 11) (hm : req.method ≠ "HEAD") (methods : List String)
    (p : List Char) :
    decodeResponses W (req.method :: methods) (W.write (respond req) ++ p) =
      (decodeResponses W methods p).map fun d => (respond req :: d.1, d.2) := by
  have hlen : (respond req).body.toList.length = (respond req).body.length := String.length_toList
  simp only [decodeResponses, ResponseFormat.write, List.append_assoc, W.reads.done _ ⟨req, hv, rfl⟩,
    bodyLength_respond hm]
  rw [if_neg (by rw [List.length_append, hlen]; omega), List.take_left' hlen, List.drop_left' hlen,
    String.ofList_toList]

/-- The body that follows the head of a response to HEAD is left for the next response. -/
theorem decode_cons_head {req : Request} (hv : req.version = 11) (hm : req.method = "HEAD")
    (methods : List String) (p : List Char) :
    decodeResponses W (req.method :: methods) (W.write (respond req) ++ p) =
      (decodeResponses W methods ((respond req).body.toList ++ p)).map fun d =>
        ({ respond req with body := "" } :: d.1, d.2) := by
  simp only [decodeResponses, ResponseFormat.write, List.append_assoc, W.reads.done _ ⟨req, hv, rfl⟩,
    bodyLength, if_pos hm, Nat.not_lt_zero, if_false, List.drop_zero, List.take_zero]

theorem body_eq (req : Request) : ∃ text, (respond req).body.toList = 'D' :: text := by
  have hdata : "Data received. Size: ".toList = 'D' :: "ata received. Size: ".toList := by decide
  rw [respond_eq]
  unfold sizeText
  rw [String.toList_append, String.toList_append, hdata]
  exact ⟨_, rfl⟩

/-- The body of a response does not begin like a response. -/
theorem decode_body (req : Request) (method : String) (methods : List String) (p : List Char) :
    decodeResponses W (method :: methods) ((respond req).body.toList ++ p) = none := by
  unfold decodeResponses
  split
  · rename_i h rest hread
    obtain ⟨text, htext⟩ := body_eq req
    have hhttp : "HTTP/".toList = 'H' :: "TTP/".toList := by decide
    have hpre := W.starts hread
    rw [htext, hhttp, List.cons_append, List.cons_prefix_cons] at hpre
    exact absurd hpre.1 (by decide)
  · rfl

/-- The responses to a sequence of requests are decoded, each as the one built for its request and with
nothing left over, exactly when no request is a HEAD. -/
theorem decode_iff (W : ResponseFormat) : ∀ (rs : List Request), (∀ r ∈ rs, r.version = 11) →
    (decodeResponses W (rs.map Request.method) ((rs.map respond).flatMap W.write) = some (rs.map received, []) ↔
      ∀ r ∈ rs, r.method ≠ "HEAD")
  | [], _ => by simp [decodeResponses]
  | r :: rs, hv => by
    have hr := hv r (List.mem_cons_self ..)
    have ih := decode_iff W rs fun r' hr' => hv r' (List.mem_cons_of_mem _ hr')
    simp only [List.map_cons, List.flatMap_cons]
    by_cases hm : r.method = "HEAD"
    · rw [decode_cons_head hr hm]
      refine iff_of_false ?_ fun hno => hno r (List.mem_cons_self ..) hm
      cases rs with
      | nil =>
        -- the body is left over
        obtain ⟨text, htext⟩ := body_eq r
        simp [decodeResponses, htext]
      | cons r' rs =>
        -- the body is read in place of the next head
        rw [List.map_cons, decode_body]
        nofun
    · have hreceived : received r = respond r := if_neg hm
      rw [decode_cons hr hm, hreceived, List.forall_mem_cons, and_iff_right hm, ← ih,
        Option.map_eq_some_iff]
      constructor
      · rintro ⟨d, hd, heq⟩
        obtain ⟨hd1, hd2⟩ := Prod.mk.inj heq
        rw [hd, ← (List.cons.inj hd1).2, ← hd2]
      · intro hd
        exact ⟨_, hd, rfl⟩

end Framing

/-- On a connection whose client sends its HTTP/1.1 requests one at a time, the messages written so far
are decoded as the responses to the first requests, with nothing left over, exactly when none of these
is a HEAD; every run ends, and a connection that can go no further has answered all requests. -/
theorem responses_decode_iff {F : RequestFormat} (W : ResponseFormat) {rs : List Request} {as : List LinkAct}
    {t : Link} (hrs : ∀ r ∈ rs, F.wf r ∧ r.keepAlive = true) (hv : ∀ r ∈ rs, r.version = 11)
    (h : (link F rs).run as = some t) (hone : (link F rs).Along (OneAtATime F rs) (link F rs).init as) :
    (decodeResponses W ((rs.take t.conn.written.length).map Request.method) (t.conn.written.flatMap W.write) =
        some ((rs.take t.conn.written.length).map received, []) ↔
      ∀ r ∈ rs.take t.conn.written.length, r.method ≠ "HEAD") ∧
    as.length ≤ 6 * (F.octets rs).length + 4 ∧ ((link F rs).Stuck t → t.conn.written.length = rs.length) := by
  obtain ⟨st, hst⟩ := reads_run hrs h (paced_run hrs h hone)
  have hwritten : t.conn.written = (rs.take t.conn.written.length).map respond := by
    rw [List.map_take]
    exact List.prefix_iff_eq_take.1 hst.written_prefix
  refine ⟨?_, run_length_le h, fun hstuck => ?_⟩
  · have hdecode := decode_iff W (rs.take t.conn.written.length)
      fun r hr => hv r (List.mem_of_mem_take hr)
    rwa [← hwritten] at hdecode
  · rw [hst.stuck (fun r hr => (hrs r hr).1) hstuck, List.length_map]

/-- Two posts, one after the other. -/
theorem responses_decode_two :
    ∃ t, (link http11Requests [post "abc", post "hello"]).run [.send 41, .completed, .handle, .recv 41,
        .parsed, .handle, .completed, .handle, .send 43, .recv 43, .parsed, .handle, .completed] = some t ∧
      decodeResponses http11Responses ["POST", "POST"] (t.conn.written.flatMap http11Responses.write) =
        some ([respond (post "abc"), respond (post "hello")], []) := by
  obtain ⟨t, ht, hp⟩ := Machine.exists_run (by decide +kernel :
    ((link http11Requests [post "abc", post "hello"]).run [.send 41, .completed, .handle, .recv 41, .parsed,
      .handle, .completed, .handle, .send 43, .recv 43, .parsed, .handle, .completed]).any
        (fun t => t.conn.written.length = 2) = true)
  have hlen : t.conn.written.length = 2 := of_decide_eq_true hp
  have hdecode := (responses_decode_iff http11Responses (posts_wf ["abc", "hello"]) (by decide) ht
    (by decide +kernel)).1
  rw [hlen] at hdecode
  exact ⟨t, ht, hdecode.2 (by decide)⟩

/-- A HEAD and a post, one after the other: the client finds the body of the first response where it
looks for the head of the second. -/
theorem head_body_misread :
    ∃ t, (link http11Requests [ask "HEAD" "", post "abc"]).run [.send 38, .completed, .handle, .recv 38,
        .parsed, .handle, .completed, .handle, .send 41, .recv 41, .parsed, .handle, .completed] = some t ∧
      (link http11Requests [ask "HEAD" "", post "abc"]).Along
        (OneAtATime http11Requests [ask "HEAD" "", post "abc"]) (link http11Requests [ask "HEAD" "", post "abc"]).init
        [.send 38, .completed, .handle, .recv 38, .parsed, .handle, .completed, .handle, .send 41, .recv 41,
          .parsed, .handle, .completed] ∧
      t.conn.written = [respond (ask "HEAD" ""), respond (post "abc")] ∧
      decodeResponses http11Responses ["HEAD", "POST"] (t.conn.written.flatMap http11Responses.write) = none := by
  obtain ⟨t, ht, hp⟩ := Machine.exists_run (by decide +kernel :
    ((link http11Requests [ask "HEAD" "", post "abc"]).run [.send 38, .completed, .handle, .recv 38, .parsed,
      .handle, .completed, .handle, .send 41, .recv 41, .parsed, .handle, .completed]).any
        (fun t => t.conn.written = [respond (ask "HEAD" ""), respond (post "abc")]) = true)
  have hwritten := of_decide_eq_true hp
  refine ⟨t, ht, by decide +kernel, hwritten, ?_⟩
  rw [hwritten]
  decide +kernel

end HttpSurvey.Beast
