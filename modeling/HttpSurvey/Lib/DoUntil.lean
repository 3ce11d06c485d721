/-
Coroutines at work. An event is an operation that has completed, with its result; `Async.resume` gives
it to the coroutine that waits for the operation, and `Async.process` runs a coroutine on events. What
a protocol allows a coroutine to end in, it ends in after every sequence of events (`Follows.outcome`);
with the protocol that remembers the events this is a property of the events (`Follows.events`).

`Looping` is a coroutine that at one point awaits a `do_until` loop. The loop tests its condition, runs
the action for its state until the future of that is ready, and starts over with the new state; an
exception of the action is that of the loop.
-/
import HttpSurvey.Lib.Async
import HttpSurvey.Lib.Machine

namespace HttpSurvey.Lib

/-- An operation with its result. -/
structure Event (ω : Type) (ρ : ω → Type) (ε : Type) where
  op : ω
  result : Except ε (ρ op)

/-- The operation failed with an exception. -/
def Event.failed {ω : Type} {ρ : ω → Type} {ε : Type} (e : Event ω ρ ε) : Bool := !e.result.isOk

namespace Async

variable {ω : Type} {ρ : ω → Type} {ε α σ : Type} [DecidableEq ω]

/-- The coroutine goes on when the operation it waits for has completed. -/
def resume (t : Async ω ρ ε α) (e : Event ω ρ ε) : Option (Async ω ρ ε α) :=
  match t.front with
  | .waits o k => if h : e.op = o then some (k (h ▸ e.result)) else none
  | .done _ => none

/-- A coroutine and the events that resume it. -/
def process (t : Async ω ρ ε α) : Machine (Async ω ρ ε α) (Event ω ρ ε) := ⟨t, resume⟩

theorem resume_waits {t : Async ω ρ ε α} {o : ω} {k : Except ε (ρ o) → Async ω ρ ε α}
    (h : t.front = .waits o k) (r : Except ε (ρ o)) : t.resume ⟨o, r⟩ = some (k r) := by
  unfold resume
  rw [h]
  exact dif_pos rfl

/-- The coroutine of a process goes on with the result of the operation it waits for. -/
theorem exec_waits {t₀ t : Async ω ρ ε α} {o : ω} {k : Except ε (ρ o) → Async ω ρ ε α}
    (h : t.front = .waits o k) (r : Except ε (ρ o)) (es : List (Event ω ρ ε)) :
    t₀.process.exec t (⟨o, r⟩ :: es) = t₀.process.exec (k r) es := by
  change (t.resume ⟨o, r⟩).bind (t₀.process.exec · es) = _
  rw [resume_waits h]
  rfl

theorem resume_eq_some {t t' : Async ω ρ ε α} {e : Event ω ρ ε} (h : t.resume e = some t') :
    ∃ k, t.front = .waits e.op k ∧ t' = k e.result := by
  obtain ⟨o', r⟩ := e
  unfold resume at h
  split at h
  · rename_i o k hf
    split at h
    · rename_i ho
      subst ho
      cases h
      exact ⟨k, hf, rfl⟩
    · cases h
  · cases h

variable {P : Protocol ω ρ ε σ} {Q : σ → Outcome ε α → Prop} {p : σ}

theorem Follows.resume {t t' : Async ω ρ ε α} (ht : Follows P Q p t) {e : Event ω ρ ε}
    (h : t.resume e = some t') : Follows P Q (P.after p e.op e.result) t' := by
  obtain ⟨k, hf, rfl⟩ := resume_eq_some h
  exact (ht.of_waits hf).2 e.result

/-- The state of a protocol after some events. -/
def afterAll (P : Protocol ω ρ ε σ) (p : σ) (es : List (Event ω ρ ε)) : σ :=
  es.foldl (fun p e => P.after p e.op e.result) p

theorem Follows.exec {t₀ t u : Async ω ρ ε α} {es : List (Event ω ρ ε)} (ht : Follows P Q p t)
    (h : t₀.process.exec t es = some u) : Follows P Q (afterAll P p es) u := by
  induction es generalizing t p with
  | nil =>
    cases h
    exact ht
  | cons e es ih =>
    obtain ⟨v, hv, h⟩ := Machine.exec_cons.1 h
    exact ih (ht.resume hv) h

/-- What a protocol allows a coroutine to end in, it ends in. -/
theorem Follows.outcome {t u : Async ω ρ ε α} {es : List (Event ω ρ ε)} {out : Outcome ε α}
    (ht : Follows P Q p t) (h : t.process.run es = some u) (hf : u.front = .done out) :
    Q (afterAll P p es) out := by
  rcases (ht.exec h).front with ⟨out', hd, hQ⟩ | ⟨o, k, hw, -⟩
  · rw [hf] at hd
    cases hd
    exact hQ
  · rw [hf] at hw
    cases hw

/-- The protocol that allows everything and remembers it. -/
def history : Protocol ω ρ ε (List (Event ω ρ ε)) where
  allows _ _ := True
  after es o r := es ++ [⟨o, r⟩]

omit [DecidableEq ω] in
theorem follows_history_op {o : ω} {Q : List (Event ω ρ ε) → Outcome ε (ρ o) → Prop} {es : List (Event ω ρ ε)} :
    Follows history Q es (op o) ↔
      (∀ a, Q (es ++ [⟨o, .ok a⟩]) (.ready a)) ∧ ∀ e, Q (es ++ [⟨o, .error e⟩]) (.raised e) :=
  follows_op.trans (iff_of_eq (true_and _))

omit [DecidableEq ω] in
theorem afterAll_history (p es : List (Event ω ρ ε)) : afterAll history p es = p ++ es := by
  induction es generalizing p with
  | nil => exact (List.append_nil p).symm
  | cons e es ih =>
    have hrest := ih (p ++ [e])
    rw [List.append_assoc] at hrest
    exact hrest

/-- What holds of every history with which a coroutine ends holds of the events of its runs. -/
theorem Follows.events {R : List (Event ω ρ ε) → Outcome ε α → Prop} {t u : Async ω ρ ε α}
    {es : List (Event ω ρ ε)} {out : Outcome ε α} (ht : Follows history R [] t)
    (h : t.process.run es = some u) (hf : u.front = .done out) : R es out := by
  have hR := ht.outcome h hf
  rwa [afterAll_history] at hR

/-- How often the operation `o` was awaited. -/
def calls (o : ω) (es : List (Event ω ρ ε)) : Nat := es.countP fun e => e.op = o

theorem calls_snoc (o : ω) (es : List (Event ω ρ ε)) (e : Event ω ρ ε) :
    calls o (es ++ [e]) = calls o es + if e.op = o then 1 else 0 := by
  simp [calls, List.countP_append, List.countP_singleton]

end Async

/-! ## do_until -/

/-- What the coroutine around a loop awaits: an operation, or the future of the loop. -/
inductive Call (ω : Type)
  | op (o : ω)
  | loop

/-- The result of what it awaits; the loop gives its last state. -/
@[reducible] def Call.Result {ω : Type} (ρ : ω → Type) (σ : Type) : Call ω → Type
  | .op o => ρ o
  | .loop => σ

/-- A coroutine that awaits `do_until(stop, action)`, a loop that starts in `start`. -/
structure Looping (ω : Type) (ρ : ω → Type) (ε σ α : Type) where
  main : Async (Call ω) (Call.Result ρ σ) ε α
  start : σ
  stop : σ → Bool
  action : σ → Async ω ρ ε σ

/-- Where control is: in the coroutine, or in an iteration of the loop that the continuation awaits. -/
inductive Control (ω : Type) (ρ : ω → Type) (ε σ α : Type)
  | main (t : Async (Call ω) (Call.Result ρ σ) ε α)
  | loop (t : Async ω ρ ε σ) (k : Except ε σ → Async (Call ω) (Call.Result ρ σ) ε α)

/-- Control and what has been logged. -/
structure Process (ω : Type) (ρ : ω → Type) (ε σ α : Type) where
  control : Control ω ρ ε σ α
  log : List String

namespace Looping

variable {ω : Type} {ρ : ω → Type} {ε σ α : Type}

/-- The condition of the loop is evaluated in the state `st`. -/
def test (L : Looping ω ρ ε σ α) (log : List String) (st : σ)
    (k : Except ε σ → Async (Call ω) (Call.Result ρ σ) ε α) : Process ω ρ ε σ α :=
  if L.stop st then ⟨.main (k (.ok st)), log ++ (k (.ok st)).lines⟩
  else ⟨.loop (L.action st) k, log ++ (L.action st).lines⟩

/-- The coroutine has become `t`, which may start the loop. -/
def settle (L : Looping ω ρ ε σ α) (log : List String) (t : Async (Call ω) (Call.Result ρ σ) ε α) :
    Process ω ρ ε σ α :=
  match t.front with
  | .waits .loop k => L.test (log ++ t.lines) L.start k
  | .waits (.op _) _ | .done _ => ⟨.main t, log ++ t.lines⟩

/-- The iteration has become `t`, which may be ready or have failed. -/
def proceed (L : Looping ω ρ ε σ α) (log : List String) (t : Async ω ρ ε σ)
    (k : Except ε σ → Async (Call ω) (Call.Result ρ σ) ε α) : Process ω ρ ε σ α :=
  match t.front with
  | .waits _ _ => ⟨.loop t k, log ++ t.lines⟩
  | .done (.ready st) => L.test (log ++ t.lines) st k
  | .done (.raised e) => ⟨.main (k (.error e)), log ++ t.lines ++ (k (.error e)).lines⟩
  | .done .fellOff => ⟨.main .fellOff, log ++ t.lines⟩

/-- How the future of the coroutine has resolved. -/
def outcome : Control ω ρ ε σ α → Option (Outcome ε α)
  | .main t =>
    match t.front with
    | .done out => some out
    | .waits _ _ => none
  | .loop _ _ => none

section Transitions

variable {L : Looping ω ρ ε σ α}

theorem settle_waits {t : Async (Call ω) (Call.Result ρ σ) ε α} {o : ω}
    {k : Except ε (ρ o) → Async (Call ω) (Call.Result ρ σ) ε α} (hf : t.front = .waits (.op o) k)
    (log : List String) : L.settle log t = ⟨.main t, log ++ t.lines⟩ := by
  unfold settle
  rw [hf]

theorem settle_loop {t : Async (Call ω) (Call.Result ρ σ) ε α}
    {k : Except ε σ → Async (Call ω) (Call.Result ρ σ) ε α} (hf : t.front = .waits .loop k)
    (log : List String) : L.settle log t = L.test (log ++ t.lines) L.start k := by
  unfold settle
  rw [hf]

theorem settle_done {t : Async (Call ω) (Call.Result ρ σ) ε α} {out : Outcome ε α} (hf : t.front = .done out)
    (log : List String) : L.settle log t = ⟨.main t, log ++ t.lines⟩ := by
  unfold settle
  rw [hf]

theorem proceed_ready {t : Async ω ρ ε σ} {st : σ} (hf : t.front = .done (.ready st)) (log : List String)
    (k : Except ε σ → Async (Call ω) (Call.Result ρ σ) ε α) :
    L.proceed log t k = L.test (log ++ t.lines) st k := by
  unfold proceed
  rw [hf]

theorem proceed_raised {t : Async ω ρ ε σ} {e : ε} (hf : t.front = .done (.raised e)) (log : List String)
    (k : Except ε σ → Async (Call ω) (Call.Result ρ σ) ε α) :
    L.proceed log t k = ⟨.main (k (.error e)), log ++ t.lines ++ (k (.error e)).lines⟩ := by
  unfold proceed
  rw [hf]

end Transitions

variable [DecidableEq ω]

/-- The coroutine goes on when the operation it waits for has completed. -/
def resumeMain (t : Async (Call ω) (Call.Result ρ σ) ε α) (e : Event ω ρ ε) :
    Option (Async (Call ω) (Call.Result ρ σ) ε α) :=
  match t.front with
  | .waits (.op o) k => if h : e.op = o then some (k (h ▸ e.result)) else none
  | .waits .loop _ | .done _ => none

def next (L : Looping ω ρ ε σ α) (s : Process ω ρ ε σ α) (e : Event ω ρ ε) : Option (Process ω ρ ε σ α) :=
  match s.control with
  | .main t => (resumeMain t e).map (L.settle s.log)
  | .loop t k => (t.resume e).map fun t' => L.proceed s.log t' k

/-- The coroutine and its loop, run by events. -/
def process (L : Looping ω ρ ε σ α) : Machine (Process ω ρ ε σ α) (Event ω ρ ε) := ⟨L.settle [] L.main, L.next⟩

variable {L : Looping ω ρ ε σ α} {s : Process ω ρ ε σ α}

theorem resumeMain_waits {t : Async (Call ω) (Call.Result ρ σ) ε α} {o : ω}
    {k : Except ε (ρ o) → Async (Call ω) (Call.Result ρ σ) ε α} (h : t.front = .waits (.op o) k)
    (r : Except ε (ρ o)) : resumeMain t ⟨o, r⟩ = some (k r) := by
  unfold resumeMain
  rw [h]
  exact dif_pos rfl

theorem next_main {t : Async (Call ω) (Call.Result ρ σ) ε α} {o : ω}
    {k : Except ε (ρ o) → Async (Call ω) (Call.Result ρ σ) ε α} (hc : s.control = .main t)
    (hf : t.front = .waits (.op o) k) (r : Except ε (ρ o)) : L.next s ⟨o, r⟩ = some (L.settle s.log (k r)) := by
  unfold next
  rw [hc]
  simp only [resumeMain_waits hf, Option.map_some]

theorem next_loop {t : Async ω ρ ε σ} {k : Except ε σ → Async (Call ω) (Call.Result ρ σ) ε α} {o : ω}
    {k' : Except ε (ρ o) → Async ω ρ ε σ} (hc : s.control = .loop t k) (hf : t.front = .waits o k')
    (r : Except ε (ρ o)) : L.next s ⟨o, r⟩ = some (L.proceed s.log (k' r) k) := by
  unfold next
  rw [hc]
  simp only [Async.resume_waits hf, Option.map_some]

theorem next_main_ne {t : Async (Call ω) (Call.Result ρ σ) ε α} {o : ω}
    {k : Except ε (ρ o) → Async (Call ω) (Call.Result ρ σ) ε α} (hc : s.control = .main t)
    (hf : t.front = .waits (.op o) k) {e : Event ω ρ ε} (ho : e.op ≠ o) : L.next s e = none := by
  unfold next resumeMain
  rw [hc]
  simp only [hf, dif_neg ho, Option.map_none]

theorem next_loop_ne {t : Async ω ρ ε σ} {k : Except ε σ → Async (Call ω) (Call.Result ρ σ) ε α} {o : ω}
    {k' : Except ε (ρ o) → Async ω ρ ε σ} (hc : s.control = .loop t k) (hf : t.front = .waits o k')
    {e : Event ω ρ ε} (ho : e.op ≠ o) : L.next s e = none := by
  unfold next Async.resume
  rw [hc]
  simp only [hf, dif_neg ho, Option.map_none]

theorem next_done {t : Async (Call ω) (Call.Result ρ σ) ε α} {out : Outcome ε α} (hc : s.control = .main t)
    (hf : t.front = .done out) (e : Event ω ρ ε) : L.next s e = none := by
  unfold next resumeMain
  rw [hc]
  simp only [hf, Option.map_none]

end Looping

end HttpSurvey.Lib
