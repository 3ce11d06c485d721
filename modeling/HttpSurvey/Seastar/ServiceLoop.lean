/-
What `service_loop` does over whole runs. `iteration_follows` says once what an iteration comes to: it
accepts, works on the accepted socket alone, and is ready at the end exactly when no operation on the
connection failed. The invariant of the listener follows a step at a time: it waits in `accept`, or
serves the one connection it accepted last, or has stopped.
-/
import HttpSurvey.Seastar.Server

namespace HttpSurvey.Seastar

open HttpSurvey.Lib HttpSurvey.Lib.Async

/-! ## What an iteration comes to -/

/-- How far an iteration has come. -/
inductive Phase
  | accepting
  | serving (socket : Socket)
  | finished
  | failed
  deriving DecidableEq, Repr

/-- An iteration accepts, then works on the accepted socket until its input is closed or an operation
fails. -/
def iterationProtocol : Protocol Op Op.Result String Phase where
  allows
    | .accepting, .accept => True
    | .serving socket, .stream _ socket' => socket' = socket
    | _, _ => False
  after
    | .accepting, .accept, .ok socket => .serving socket
    | .serving socket, .stream op _, .ok _ => if op = .closeIn then .finished else .serving socket
    | .serving _, .stream _ _, .error _ => .failed
    | _, _, _ => .finished

/-- The future of a connection is ready when it is finished and an exception when it failed. -/
def connectionEnds : Phase → Outcome String Unit → Prop
  | .finished, .ready _ => True
  | .failed, .raised _ => True
  | _, _ => False

/-- An iteration is ready when it is finished; when its connection failed, control ran off the end of
a handler. -/
def iterationEnds : Phase → Outcome String Unit → Prop
  | .finished, .ready _ => True
  | .failed, .fellOff => True
  | _, _ => False

/-- The handler of a connection's exception logs it and falls off its end. -/
theorem connectionErrorHandler_eq (ep : String) :
    connectionErrorHandler ep = emit ("Connection error: " ++ ep) fellOff := rfl

/-- The handler of an accept's exception logs it and returns. -/
theorem acceptErrorHandler_eq (ep : String) :
    acceptErrorHandler ep = emit ("Accept error: " ++ ep) (ready ()) := rfl

theorem follows_stream {Q : Phase → Outcome String Unit → Prop} {socket : Socket} (op : StreamOp) :
    Follows iterationProtocol Q (.serving socket) (stream op socket) ↔
      Q (if op = .closeIn then .finished else .serving socket) (.ready ()) ∧
        ∀ what, Q .failed (.raised what) := by
  refine (follows_op (o := Op.stream op socket)).trans ⟨?_, ?_⟩
  · rintro ⟨-, hok, herror⟩
    exact ⟨hok (), herror⟩
  · rintro ⟨hok, herror⟩
    exact ⟨rfl, fun _ => hok, herror⟩

theorem follows_accept {Q : Phase → Outcome String Socket → Prop} :
    Follows iterationProtocol Q .accepting accept ↔
      (∀ socket, Q (.serving socket) (.ready socket)) ∧ ∀ what, Q .finished (.raised what) := by
  refine (follows_op (o := Op.accept)).trans ⟨?_, ?_⟩
  · rintro ⟨-, hok, herror⟩
    exact ⟨hok, herror⟩
  · rintro ⟨hok, herror⟩
    exact ⟨trivial, hok, herror⟩

theorem handleConnection_follows (socket : Socket) :
    Follows iterationProtocol connectionEnds (.serving socket) (handleConnection socket) := by
  simp [handleConnection, follows_stream, afterBind, afterCatch, connectionEnds]

theorem iteration_follows : Follows iterationProtocol iterationEnds .accepting iteration := by
  unfold iteration
  rw [follows_handleException, follows_do, follows_accept]
  refine ⟨fun socket => ?_, fun what => ?_⟩
  · -- `accept` gave a socket
    rw [afterBind, follows_do, follows_log, afterBind, follows_handleException]
    refine (handleConnection_follows socket).mono ?_
    intro p out h
    cases p with
    | accepting | serving _ => cases out <;> cases h
    | finished =>
      cases out with
      | ready u => trivial
      | raised what | fellOff => cases h
    | failed =>
      cases out with
      | ready u | fellOff => cases h
      | raised what =>
        -- the connection's handler falls off its end
        rw [afterCatch, connectionErrorHandler_eq, follows_emit, follows_fellOff]
        trivial
  · -- `accept` failed: the outer handler returns
    change Follows iterationProtocol iterationEnds .finished (acceptErrorHandler what)
    rw [acceptErrorHandler_eq, follows_emit, follows_ready]
    trivial

/-! ## What a step does -/

section Proceed

variable {loop : KeepDoing Op Op.Result String} {t : Future Unit}

theorem proceed_serving {socket : Socket} (hs : loop.Survives)
    (ht : Follows iterationProtocol iterationEnds (.serving socket) t) :
    (loop.proceed iteration t).Survives ∧ (loop.proceed iteration t).current = t := by
  rcases KeepDoing.proceed_cases iteration hs ht with ⟨h, hc, -⟩ | ⟨-, -, hq⟩ | ⟨-, out, -, hq⟩
  · exact ⟨h, hc⟩
  · cases hq
  · cases out <;> cases hq

theorem proceed_finished (hs : loop.Survives) (ht : Follows iterationProtocol iterationEnds .finished t) :
    (loop.proceed iteration t).Survives ∧ (loop.proceed iteration t).current = iteration := by
  rcases KeepDoing.proceed_cases iteration hs ht with
    ⟨-, -, o, ho⟩ | ⟨h, hc, -⟩ | ⟨-, out, hne, hq⟩
  · cases o <;> cases ho
  · exact ⟨h, hc⟩
  · cases out with
    | ready u => exact absurd rfl hne
    | raised what | fellOff => cases hq

theorem proceed_failed (hs : loop.Survives) (ht : Follows iterationProtocol iterationEnds .failed t) :
    (loop.proceed iteration t).Ended := by
  rcases KeepDoing.proceed_cases iteration hs ht with ⟨-, -, o, ho⟩ | ⟨-, -, hq⟩ | ⟨h, -⟩
  · cases o <;> cases ho
  · cases hq
  · exact h

end Proceed

theorem next_accept {s s' : Listener} (h : s.next .accept = some s') :
    ∃ k, s.loop.current.front = .waits .accept k ∧ 0 < s.waiting ∧
      s' =
        { loop := s.loop.proceed iteration (k (.ok s.accepted))
          waiting := s.waiting - 1
          accepted := s.accepted + 1
          serving := s.serving ++ [s.accepted] } := by
  simp only [Listener.next] at h
  split at h
  · rename_i k hf
    split at h
    · cases h
    · rename_i hw
      cases h
      exact ⟨k, hf, Nat.pos_of_ne_zero hw, rfl⟩
  · cases h

theorem next_acceptFails {s s' : Listener} {what : String} (h : s.next (.acceptFails what) = some s') :
    ∃ k, s.loop.current.front = .waits .accept k ∧
      s' = { s with loop := s.loop.proceed iteration (k (.error what)) } := by
  simp only [Listener.next] at h
  split at h
  · rename_i k hf
    cases h
    exact ⟨k, hf, rfl⟩
  · cases h

theorem next_progress {s s' : Listener} (h : s.next .progress = some s') :
    ∃ op socket k, s.loop.current.front = .waits (.stream op socket) k ∧
      s' =
        { s with
          loop := s.loop.proceed iteration (k (.ok ()))
          serving := if op = .closeIn then s.serving.erase socket else s.serving } := by
  simp only [Listener.next] at h
  split at h
  · rename_i op socket k hf
    cases h
    exact ⟨op, socket, k, hf, rfl⟩
  · cases h

theorem next_connectionFails {s s' : Listener} {what : String}
    (h : s.next (.connectionFails what) = some s') :
    ∃ op socket k, s.loop.current.front = .waits (.stream op socket) k ∧
      s' =
        { s with
          loop := s.loop.proceed iteration (k (.error what))
          serving := s.serving.erase socket } := by
  simp only [Listener.next] at h
  split at h
  · rename_i op socket k hf
    cases h
    exact ⟨op, socket, k, hf, rfl⟩
  · cases h

/-! ## The runs of the loop -/

/-- The loop waits in `accept`, or serves the connection it accepted last, or has stopped. -/
inductive Inv (s : Listener) : Prop
  | accepting (survives : s.loop.Survives)
      (follows : Follows iterationProtocol iterationEnds .accepting s.loop.current)
      (serving : s.serving = [])
  | serving (socket : Socket) (survives : s.loop.Survives)
      (follows : Follows iterationProtocol iterationEnds (.serving socket) s.loop.current)
      (serving : s.serving = [socket]) (last : s.accepted = socket + 1)
  | ended (ended : s.loop.Ended) (serving : s.serving = [])

/-- A state that waits in `accept` is in the first case. -/
theorem Inv.of_accept {s : Listener} (h : Inv s) {k} (hf : s.loop.current.front = .waits .accept k) :
    s.loop.Survives ∧ s.serving = [] ∧
      ∀ r, Follows iterationProtocol iterationEnds (iterationProtocol.after .accepting .accept r) (k r) := by
  cases h with
  | accepting hs ht hc => exact ⟨hs, hc, (ht.of_waits hf).2⟩
  | serving socket hs ht hc hl => exact (ht.of_waits hf).1.elim
  | ended he hc =>
    obtain ⟨out, -, -, hd⟩ := he
    rw [hf] at hd
    cases hd

/-- A state that waits for an operation on a connection is in the second case. -/
theorem Inv.of_stream {s : Listener} (h : Inv s) {op : StreamOp} {socket : Socket} {k}
    (hf : s.loop.current.front = .waits (.stream op socket) k) :
    s.loop.Survives ∧ s.serving = [socket] ∧ s.accepted = socket + 1 ∧
      ∀ r, Follows iterationProtocol iterationEnds
        (iterationProtocol.after (.serving socket) (.stream op socket) r) (k r) := by
  cases h with
  | accepting hs ht hc => exact (ht.of_waits hf).1.elim
  | serving socket' hs ht hc hl =>
    obtain ⟨rfl, hk⟩ := ht.of_waits hf
    exact ⟨hs, hc, hl, hk⟩
  | ended he hc =>
    obtain ⟨out, -, -, hd⟩ := he
    rw [hf] at hd
    cases hd

theorem inv_init : Inv serviceLoop.init :=
  .accepting (KeepDoing.survives_start _) iteration_follows rfl

/-- A step keeps the invariant, and stops a running loop exactly when it is the failure of an
operation on a connection. -/
theorem inv_next {s s' : Listener} {a : Act} (h : Inv s) (hn : s.next a = some s') :
    Inv s' ∧ (s'.loop.Survives ↔ s.loop.Survives ∧ ∀ what, a ≠ .connectionFails what) := by
  cases a with
  | arrive =>
    cases hn
    refine ⟨?_, by simp⟩
    cases h with
    | accepting hs ht hc => exact .accepting hs ht hc
    | serving socket hs ht hc hl => exact .serving socket hs ht hc hl
    | ended he hc => exact .ended he hc
  | accept =>
    obtain ⟨k, hf, -, rfl⟩ := next_accept hn
    obtain ⟨hs, hc, hk⟩ := h.of_accept hf
    obtain ⟨hs', hc'⟩ := proceed_serving hs (hk (.ok s.accepted))
    refine ⟨.serving s.accepted hs' ?_ (by rw [hc]; rfl) rfl, iff_of_true hs' ⟨hs, nofun⟩⟩
    rw [hc']
    exact hk (.ok s.accepted)
  | acceptFails what =>
    obtain ⟨k, hf, rfl⟩ := next_acceptFails hn
    obtain ⟨hs, hc, hk⟩ := h.of_accept hf
    obtain ⟨hs', hc'⟩ := proceed_finished hs (hk (.error what))
    refine ⟨.accepting hs' ?_ hc, iff_of_true hs' ⟨hs, nofun⟩⟩
    rw [hc']
    exact iteration_follows
  | progress =>
    obtain ⟨op, socket, k, hf, rfl⟩ := next_progress hn
    obtain ⟨hs, hc, hl, hk⟩ := h.of_stream hf
    have ht := hk (.ok ())
    by_cases hop : op = .closeIn
    · -- the connection is closed: the loop accepts again
      subst hop
      obtain ⟨hs', hc'⟩ := proceed_finished hs ht
      refine ⟨.accepting hs' ?_ (by simp [hc]), iff_of_true hs' ⟨hs, nofun⟩⟩
      rw [hc']
      exact iteration_follows
    · have ht : Follows iterationProtocol iterationEnds (.serving socket) (k (.ok ())) := by
        simpa [iterationProtocol, hop] using ht
      obtain ⟨hs', hc'⟩ := proceed_serving hs ht
      refine ⟨.serving socket hs' ?_ (by simp [hop, hc]) hl, iff_of_true hs' ⟨hs, nofun⟩⟩
      rw [hc']
      exact ht
  | connectionFails what =>
    obtain ⟨op, socket, k, hf, rfl⟩ := next_connectionFails hn
    obtain ⟨hs, hc, -, hk⟩ := h.of_stream hf
    have he := proceed_failed hs (hk (.error what))
    exact ⟨.ended he (by simp [hc]), iff_of_false he.not_survives fun h => h.2 what rfl⟩

theorem inv_run {as : List Act} {s : Listener} (h : serviceLoop.run as = some s) : Inv s :=
  serviceLoop.inv Inv inv_init (fun _ _ _ h hn => (inv_next h hn).1) ⟨as, h⟩

/-- The loop survives a run exactly when no operation on a connection fails in it. -/
theorem survives_iff {as : List Act} {s : Listener} (h : serviceLoop.run as = some s) :
    s.loop.Survives ↔ ∀ what, .connectionFails what ∉ as := by
  induction as using List.reverseRecOn generalizing s with
  | nil =>
    cases h
    exact iff_of_true (KeepDoing.survives_start _) (by simp)
  | append_singleton as a ih =>
    obtain ⟨u, hu, hn⟩ := Machine.exec_snoc.1 h
    rw [(inv_next (inv_run hu) hn).2, ih hu]
    simp only [List.mem_append, List.mem_singleton, not_or, forall_and, ne_comm, ne_eq]

/-- In every state of a run, every iteration so far was ready and another `accept` follows each,
exactly when no write, flush or close of an accepted connection fails in the run. -/
theorem loop_survives_iff {as : List Act} {s : Listener} (h : serviceLoop.run as = some s) :
    (∀ bs, bs <+: as → ∀ u, serviceLoop.run bs = some u → u.loop.Survives) ↔
      ∀ what, .connectionFails what ∉ as := by
  constructor
  · intro hall
    exact (survives_iff h).1 (hall as (List.prefix_refl as) s h)
  · intro hno bs hb u hu
    exact (survives_iff hu).2 fun what hmem => hno what (hb.subset hmem)

/-- Two connections are served and an `accept` in between fails. -/
theorem loop_survives_two_connections :
    ∃ s, serviceLoop.run [.arrive, .accept, .progress, .progress, .progress, .progress,
        .acceptFails "Too many open files", .arrive, .accept, .progress] = some s ∧
      s.accepted = 2 ∧ s.loop.Survives := by
  obtain ⟨s, hs⟩ := Option.isSome_iff_exists.1 (by decide : (serviceLoop.run [.arrive, .accept, .progress,
    .progress, .progress, .progress, .acceptFails "Too many open files", .arrive, .accept, .progress]).isSome)
  refine ⟨s, hs, ?_, (loop_survives_iff hs).2 (by simp) _ (List.prefix_refl _) s hs⟩
  cases hs
  rfl

/-- The first connection's write fails: its handler falls off its end, and no second `accept` is
started. -/
theorem failed_write_stops_loop :
    ∃ s, serviceLoop.run [.arrive, .accept, .connectionFails "Broken pipe"] = some s ∧
      s.loop.outcomes = [.fellOff] ∧ s.loop.started = 1 ∧ ¬s.loop.Survives := by
  obtain ⟨s, hs⟩ := Option.isSome_iff_exists.1
    (by decide : (serviceLoop.run [.arrive, .accept, .connectionFails "Broken pipe"]).isSome)
  refine ⟨s, hs, ?_⟩
  cases hs
  refine ⟨rfl, rfl, ?_⟩
  rintro ⟨-, hstarted⟩
  exact absurd hstarted (by decide)

/-! ## One client at a time -/

theorem enabled_accept {s : Listener} :
    serviceLoop.Enabled s .accept ↔ (∃ k, s.loop.current.front = .waits .accept k) ∧ 0 < s.waiting := by
  constructor
  · intro h
    obtain ⟨s', hn⟩ := Option.isSome_iff_exists.1 h
    obtain ⟨k, hf, hw, -⟩ := next_accept hn
    exact ⟨⟨k, hf⟩, hw⟩
  · rintro ⟨⟨k, hf⟩, hw⟩
    change (s.next .accept).isSome
    simp [Listener.next, hf, Nat.ne_of_gt hw]

/-- A connection in service is the only one, the last accepted, and no other can be accepted. -/
theorem Inv.of_serving {s : Listener} (h : Inv s) {c : Socket} (hc : c ∈ s.serving) :
    s.serving = [c] ∧ s.accepted = c + 1 ∧ ¬serviceLoop.Enabled s .accept := by
  cases h with
  | accepting _ _ h0 | ended _ h0 =>
    rw [h0] at hc
    cases hc
  | serving socket hs ht h1 hl =>
    rw [h1, List.mem_singleton] at hc
    subst hc
    refine ⟨h1, hl, fun he => ?_⟩
    obtain ⟨⟨k, hf⟩, -⟩ := enabled_accept.1 he
    exact (ht.of_waits hf).1

/-- A surviving loop waits in `accept` exactly when it serves no connection. -/
theorem Inv.waits_accept_iff {s : Listener} (h : Inv s) (hs : s.loop.Survives) :
    (∃ k, s.loop.current.front = .waits .accept k) ↔ s.serving = [] := by
  constructor
  · rintro ⟨k, hf⟩
    exact (h.of_accept hf).2.1
  · intro h0
    cases h with
    | accepting _ ht _ =>
      rcases ht.front with ⟨out, -, hq⟩ | ⟨o, k, hf, ho, -⟩
      · cases out <;> cases hq
      · cases o with
        | accept => exact ⟨k, hf⟩
        | stream => cases ho
    | serving socket _ _ h1 _ => rw [h0] at h1; cases h1
    | ended he _ => exact absurd hs he.not_survives

/-- The server serves one client at a time. A connection in service is the only one, and as long as it
is in service no other is accepted; while no operation on a connection has failed, a waiting one can
be accepted exactly when none is in service. -/
theorem one_client_at_a_time {as : List Act} {s : Listener} (h : serviceLoop.run as = some s) :
    (∀ c ∈ s.serving, s.serving = [c] ∧ ¬serviceLoop.Enabled s .accept ∧
      ∀ bs t, serviceLoop.exec s bs = some t → c ∈ t.serving →
        t.accepted = s.accepted ∧ ¬serviceLoop.Enabled t .accept) ∧
    ((∀ what, .connectionFails what ∉ as) →
      (serviceLoop.Enabled s .accept ↔ 0 < s.waiting ∧ s.serving = [])) := by
  refine ⟨fun c hc => ?_, fun hno => ?_⟩
  · obtain ⟨h1, hl, hd⟩ := (inv_run h).of_serving hc
    refine ⟨h1, hd, fun bs t ht hct => ?_⟩
    obtain ⟨-, hl', hd'⟩ := (inv_run (Machine.exec_append.2 ⟨s, h, ht⟩)).of_serving hct
    exact ⟨hl'.trans hl.symm, hd'⟩
  · rw [enabled_accept, (inv_run h).waits_accept_iff ((survives_iff h).2 hno), and_comm]

/-- Two connections have arrived and the first is in service: the second waits. -/
theorem one_client_at_a_time_two :
    ∃ s, serviceLoop.run [.arrive, .arrive, .accept, .progress] = some s ∧ s.waiting = 1 ∧
      ¬serviceLoop.Enabled s .accept := by
  obtain ⟨s, hs⟩ := Option.isSome_iff_exists.1
    (by decide : (serviceLoop.run [.arrive, .arrive, .accept, .progress]).isSome)
  refine ⟨s, hs, ?_, ((one_client_at_a_time hs).1 0 ?_).2.1⟩
  · cases hs
    rfl
  · cases hs
    decide

/-- The second of two connections has to wait although it could be accepted. -/
theorem second_client_waits :
    ∃ s, serviceLoop.run [.arrive, .arrive, .accept] = some s ∧ 0 ∈ s.serving ∧ 0 < s.waiting ∧
      ¬serviceLoop.Enabled s .accept := by
  obtain ⟨s, hs⟩ := Option.isSome_iff_exists.1
    (by decide : (serviceLoop.run [.arrive, .arrive, .accept]).isSome)
  refine ⟨s, hs, ?_⟩
  cases hs
  refine ⟨by decide, by decide, ?_⟩
  unfold Machine.Enabled
  decide

end HttpSurvey.Seastar
