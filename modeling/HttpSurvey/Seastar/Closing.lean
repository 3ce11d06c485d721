/-
Which of the two streams of a connection the server and the client have closed when their futures
resolve. Both write the two closes one after the other at the end of the path on which nothing fails,
and an exception leaves that path: it goes to a rethrow in the server and to the last handler of the
chain in the client. Each stream is closed exactly once when nothing fails before the last close, and
only then (`closed_once_iff`).
-/
import HttpSurvey.Seastar.Client

namespace HttpSurvey.Seastar

open HttpSurvey.Lib HttpSurvey.Lib.Async

/-! ## Histories of operations -/

section History

variable {ω : Type} {ρ : ω → Type} {ε : Type} [DecidableEq ω]

/-- Each of the two closes was called exactly once. -/
def ClosedOnce (closeOut closeIn : ω) (es : List (Event ω ρ ε)) : Prop :=
  calls closeOut es = 1 ∧ calls closeIn es = 1

/-- No operation other than `o` failed. -/
def FailsOnlyAt (o : ω) (es : List (Event ω ρ ε)) : Prop := ∀ e ∈ es, e.failed = true → e.op = o

/-- Nothing has failed so far; the output was closed `n` times and the input not yet. -/
structure Unbroken (closeOut closeIn : ω) (n : Nat) (es : List (Event ω ρ ε)) : Prop where
  closeOut : calls closeOut es = n
  closeIn : calls closeIn es = 0
  failed : ∀ e ∈ es, e.failed = false

variable {closeOut closeIn : ω} {n : Nat} {es : List (Event ω ρ ε)} {e : Event ω ρ ε}

theorem unbroken_nil : Unbroken closeOut closeIn 0 ([] : List (Event ω ρ ε)) := ⟨rfl, rfl, nofun⟩

omit [DecidableEq ω] in
theorem not_failed_snoc (h : ∀ d ∈ es, d.failed = false) (he : e.failed = false) :
    ∀ d ∈ es ++ [e], d.failed = false := by
  intro d hd
  rcases List.mem_append.1 hd with hd | hd
  · exact h d hd
  · rwa [List.mem_singleton.1 hd]

theorem Unbroken.snoc (h : Unbroken closeOut closeIn n es) (hout : e.op ≠ closeOut) (hin : e.op ≠ closeIn)
    (he : e.failed = false) : Unbroken closeOut closeIn n (es ++ [e]) := by
  constructor
  · rw [calls_snoc, if_neg hout, h.closeOut, Nat.add_zero]
  · rw [calls_snoc, if_neg hin, h.closeIn]
  · exact not_failed_snoc h.failed he

/-- The output is closed. -/
theorem Unbroken.closing (h : Unbroken closeOut closeIn 0 es) (hout : e.op = closeOut) (hin : e.op ≠ closeIn)
    (he : e.failed = false) : Unbroken closeOut closeIn 1 (es ++ [e]) := by
  constructor
  · rw [calls_snoc, if_pos hout, h.closeOut]
  · rw [calls_snoc, if_neg hin, h.closeIn]
  · exact not_failed_snoc h.failed he

/-- A failure before the close of the input leaves that close uncalled. -/
theorem Unbroken.broken (h : Unbroken closeOut closeIn n es) (hin : e.op ≠ closeIn) (he : e.failed = true) :
    ClosedOnce closeOut closeIn (es ++ [e]) ↔ FailsOnlyAt closeIn (es ++ [e]) := by
  refine iff_of_false ?_ ?_
  · rintro ⟨-, hcalls⟩
    rw [calls_snoc, if_neg hin, h.closeIn] at hcalls
    cases hcalls
  · intro hfails
    exact hin (hfails e (List.mem_append_right _ (List.mem_singleton_self e)) he)

/-- The close of the input comes last, and both closes have been called, however it ends. -/
theorem Unbroken.closed (h : Unbroken closeOut closeIn 1 es) (hout : e.op ≠ closeOut) (hin : e.op = closeIn) :
    ClosedOnce closeOut closeIn (es ++ [e]) ↔ FailsOnlyAt closeIn (es ++ [e]) := by
  refine iff_of_true ⟨?_, ?_⟩ ?_
  · rw [calls_snoc, if_neg hout, h.closeOut]
  · rw [calls_snoc, if_pos hin, h.closeIn]
  · intro d hd hfailed
    rcases List.mem_append.1 hd with hd | hd
    · rw [h.failed d hd] at hfailed
      cases hfailed
    · rwa [List.mem_singleton.1 hd]

end History

/-! ## The server -/

theorem follows_stream_history {Q : List (Event Op Op.Result String) → Outcome String Unit → Prop}
    {es : List (Event Op Op.Result String)} (op : StreamOp) (socket : Socket) :
    Follows history Q es (stream op socket) ↔
      Q (es ++ [⟨Op.stream op socket, .ok ()⟩]) (.ready ()) ∧
        ∀ ex, Q (es ++ [⟨Op.stream op socket, .error ex⟩]) (.raised ex) := by
  refine (follows_history_op (o := Op.stream op socket)).trans ⟨?_, ?_⟩
  · rintro ⟨hok, herror⟩
    exact ⟨hok (), herror⟩
  · rintro ⟨hok, herror⟩
    exact ⟨fun _ => hok, herror⟩

/-- On every path of `handle_connection`. -/
theorem handleConnection_closes (socket : Socket) :
    Follows history
      (fun es _ => ClosedOnce (Op.stream .closeOut socket) (Op.stream .closeIn socket) es ↔
        FailsOnlyAt (Op.stream .closeIn socket) es)
      [] (handleConnection socket) := by
  unfold handleConnection
  simp only [follows_do, follows_log, follows_handleException, follows_stream_history, follows_throwing, afterBind,
    afterCatch]
  have h₀ : Unbroken (Op.stream .closeOut socket) (Op.stream .closeIn socket) 0
      ([] : List (Event Op Op.Result String)) := unbroken_nil
  have h₁ := h₀.snoc (e := ⟨.stream (.write (List.replicate DATA_SIZE 'A')) socket, .ok ()⟩) (by simp) (by simp) rfl
  have h₂ := h₁.snoc (e := ⟨.stream .flush socket, .ok ()⟩) (by simp) (by simp) rfl
  have h₃ := h₂.closing (e := ⟨.stream .closeOut socket, .ok ()⟩) rfl (by simp) rfl
  -- nothing fails, or the close of the input, or that of the output, or the flush, or the write
  refine ⟨⟨⟨⟨?_, fun ex => ?_⟩, fun ex => ?_⟩, fun ex => ?_⟩, fun ex => ?_⟩
  · exact h₃.closed (by simp) rfl
  · exact h₃.closed (by simp) rfl
  · exact h₂.broken (by simp) rfl
  · exact h₁.broken (by simp) rfl
  · exact h₀.broken (by simp) rfl

/-! ## The client -/

namespace Client

variable {es : List (Event ClientOp ClientOp.Result String)} {e : Event ClientOp ClientOp.Result String}
  {r r' : Receiver}

/-- What the events were when the client is at a stage. -/
def Stage.History (es : List (Event ClientOp ClientOp.Result String)) : Stage → Prop
  | .connecting => es = []
  | .receiving _ | .closingOut => Unbroken ClientOp.closeOut ClientOp.closeIn 0 es
  | .closingIn => Unbroken ClientOp.closeOut ClientOp.closeIn 1 es
  | .resolved => connected ∈ es → (ClosedOnce ClientOp.closeOut ClientOp.closeIn es ↔ FailsOnlyAt ClientOp.closeIn es)

theorem history_test {log : List String} {st : Progress} (h : Unbroken ClientOp.closeOut ClientOp.closeIn 0 es) :
    (Receiver.test log st).stage.History es := by
  unfold Receiver.test
  split <;> exact h

theorem history_next (h : r.stage.History es) (hn : r.next e = some r') : r'.stage.History (es ++ [e]) := by
  obtain ⟨stage, log⟩ := r
  obtain ⟨op, res⟩ := e
  cases stage with
  | connecting =>
    cases (show es = [] from h)
    cases op with
    | connect =>
      cases res with
      | ok u =>
        cases hn
        exact history_test (unbroken_nil.snoc (by simp) (by simp) rfl)
      | error ex =>
        cases hn
        intro hmem
        cases List.mem_singleton.1 hmem
    | read | closeOut | closeIn => cases hn
  | receiving st =>
    have hbefore : Unbroken ClientOp.closeOut ClientOp.closeIn 0 es := h
    cases op with
    | read =>
      cases res with
      | ok data =>
        cases hn
        exact history_test (hbefore.snoc (by simp) (by simp) rfl)
      | error ex =>
        cases hn
        exact fun _ => hbefore.broken (by simp) rfl
    | connect | closeOut | closeIn => cases hn
  | closingOut =>
    have hbefore : Unbroken ClientOp.closeOut ClientOp.closeIn 0 es := h
    cases op with
    | closeOut =>
      cases res with
      | ok u =>
        cases hn
        exact hbefore.closing rfl (by simp) rfl
      | error ex =>
        cases hn
        exact fun _ => hbefore.broken (by simp) rfl
    | connect | read | closeIn => cases hn
  | closingIn =>
    have hbefore : Unbroken ClientOp.closeOut ClientOp.closeIn 1 es := h
    cases op with
    | closeIn =>
      cases res with
      | ok u | error ex =>
        cases hn
        exact fun _ => hbefore.closed (by simp) rfl
    | connect | read | closeOut => cases hn
  | resolved => cases op <;> cases hn

theorem history_run (h : receiver.run es = some r) : r.stage.History es :=
  Machine.historyInv (fun es r => r.stage.History es) rfl (fun _ _ _ _ _ hs hn => history_next hs hn) h

/-- In every run of the client that has connected and resolved. -/
theorem client_closes {s : Process ClientOp ClientOp.Result String Progress Unit} {out : Outcome String Unit}
    (hrun : client.run es = some s) (hout : Looping.outcome s.control = some out) (hconn : connected ∈ es) :
    ClosedOnce ClientOp.closeOut ClientOp.closeIn es ↔ FailsOnlyAt ClientOp.closeIn es := by
  obtain ⟨r, hr, hsim⟩ := run_receiver hrun
  obtain ⟨stage, log⟩ := r
  obtain ⟨hstage, -⟩ := (outcome_eq_some hsim).1 hout
  cases (show stage = .resolved from hstage)
  exact history_run hr hconn

end Client

/-- When the future of `handle_connection` has resolved, and when that of `client_connect` has on a
connection, each of the two streams has been closed exactly once if no operation but the close of the
input has failed, and otherwise not. -/
theorem closed_once_iff (socket : Socket) (served : List (Event Op Op.Result String))
    (received : List (Event Client.ClientOp Client.ClientOp.Result String)) :
    (∀ (t : Future Unit) (out : Outcome String Unit),
      (handleConnection socket).process.run served = some t → t.front = .done out →
        (ClosedOnce (Op.stream .closeOut socket) (Op.stream .closeIn socket) served ↔
          FailsOnlyAt (Op.stream .closeIn socket) served)) ∧
      ∀ (s : Process Client.ClientOp Client.ClientOp.Result String Client.Progress Unit) (out : Outcome String Unit),
        Client.client.run received = some s → Looping.outcome s.control = some out → Client.connected ∈ received →
          (ClosedOnce Client.ClientOp.closeOut Client.ClientOp.closeIn received ↔
            FailsOnlyAt Client.ClientOp.closeIn received) := by
  constructor
  · exact fun t out hrun hout => (handleConnection_closes socket).events hrun hout
  · exact fun s out hrun hout hconn => Client.client_closes hrun hout hconn

/-- The write of the whole payload. -/
abbrev writeAll : StreamOp := .write (List.replicate DATA_SIZE 'A')

/-- The events of a connection on which nothing fails. -/
def served (socket : Socket) : List (Event Op Op.Result String) :=
  [⟨.stream writeAll socket, .ok ()⟩, ⟨.stream .flush socket, .ok ()⟩, ⟨.stream .closeOut socket, .ok ()⟩,
    ⟨.stream .closeIn socket, .ok ()⟩]

/-- A connection on which nothing fails. -/
theorem closed_once_iff_served : ClosedOnce (Op.stream .closeOut 0) (Op.stream .closeIn 0) (served 0) := by
  obtain ⟨k₁, h₁, k₂, h₂, k₃, h₃, k₄, h₄, hd⟩ :
      ∃ k₁, (handleConnection 0).front = .waits (.stream writeAll 0) k₁ ∧
        ∃ k₂, (k₁ (.ok ())).front = .waits (.stream .flush 0) k₂ ∧
          ∃ k₃, (k₂ (.ok ())).front = .waits (.stream .closeOut 0) k₃ ∧
            ∃ k₄, (k₃ (.ok ())).front = .waits (.stream .closeIn 0) k₄ ∧
              (k₄ (.ok ())).front = .done (.ready ()) := ⟨_, rfl, _, rfl, _, rfl, _, rfl, rfl⟩
  have hrun : (handleConnection 0).process.run (served 0) = some (k₄ (.ok ())) := by
    unfold served
    rw [Machine.run, show (handleConnection 0).process.init = handleConnection 0 from rfl, exec_waits h₁,
      exec_waits h₂, exec_waits h₃, exec_waits h₄, Machine.exec_nil]
  refine ((closed_once_iff 0 (served 0) []).1 _ _ hrun hd).2 ?_
  intro e he hfailed
  unfold served at he
  simp only [List.mem_cons, List.not_mem_nil, or_false] at he
  rcases he with rfl | rfl | rfl | rfl <;> cases hfailed

/-- When the server's write fails, and when the client's first read does, neither stream is closed. -/
theorem streams_left_open :
    (∃ es t what, (handleConnection 0).process.run es = some t ∧ t.front = .done (.raised what) ∧
      calls (Op.stream .closeOut 0) es = 0 ∧ calls (Op.stream .closeIn 0) es = 0) ∧
      ∃ es s, Client.client.run es = some s ∧ Client.connected ∈ es ∧
        Looping.outcome s.control = some (.ready ()) ∧
        calls Client.ClientOp.closeOut es = 0 ∧ calls Client.ClientOp.closeIn es = 0 := by
  constructor
  · obtain ⟨k, hf, hd⟩ : ∃ k, (handleConnection 0).front = .waits (.stream writeAll 0) k ∧
        (k (.error "Broken pipe")).front = .done (.raised "Broken pipe") := ⟨_, rfl, rfl⟩
    refine ⟨[⟨.stream writeAll 0, .error "Broken pipe"⟩], _, _, exec_waits hf _ [], hd, ?_, ?_⟩
    · simp [calls, writeAll]
    · simp [calls, writeAll]
  · have hrun : Client.receiver.run [Client.connected, ⟨.read, .error "Connection reset by peer"⟩] =
        some ⟨.resolved, _⟩ := rfl
    obtain ⟨s, hs, hsim⟩ := Client.run_client hrun
    refine ⟨_, s, hs, List.mem_cons_self, ?_, by decide, by decide⟩
    exact (Client.outcome_eq_some hsim).2 ⟨rfl, rfl⟩

end HttpSurvey.Seastar
