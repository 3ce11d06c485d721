/-
Coroutines that await operations and throw, as trees: a future that is ready, an exception, control
that ran off the end of a function which has to return a future, a logged line, or an awaited
operation with a continuation for each of its results. A `try` with its `catch` is `handleException`
on the coroutine; a statement that may `return` is a coroutine of `Option` type.

A `Protocol` says which operations may be awaited in which state; `Follows` says that a coroutine does
so and how it ends, with one rule for each way to build a coroutine. `KeepDoing` is the loop that runs
an action again each time its future is ready, and `KeepDoing.proceed_cases` is what a step of the loop
comes to when its action follows a protocol.
-/
import Mathlib.Tactic

namespace HttpSurvey.Lib

/-- A coroutine that awaits operations of type `ω` with results `ρ`, throws `ε` and returns `α`. -/
inductive Async (ω : Type) (ρ : ω → Type) (ε α : Type)
  | ready (a : α)
  | raised (e : ε)
  | fellOff
  | emit (line : String) (rest : Async ω ρ ε α)
  | await (o : ω) (k : Except ε (ρ o) → Async ω ρ ε α)

/-- How a coroutine ended. -/
inductive Outcome (ε α : Type)
  | ready (a : α)
  | raised (e : ε)
  | fellOff
  deriving DecidableEq, Repr

/-- What a coroutine has come to: its end, or an operation it waits for. -/
inductive Front (ω : Type) (ρ : ω → Type) (ε α : Type)
  | done (out : Outcome ε α)
  | waits (o : ω) (k : Except ε (ρ o) → Async ω ρ ε α)

namespace Async

variable {ω : Type} {ρ : ω → Type} {ε α β : Type}

def bind : Async ω ρ ε α → (α → Async ω ρ ε β) → Async ω ρ ε β
  | ready a, f => f a
  | raised e, _ => raised e
  | fellOff, _ => fellOff
  | emit l t, f => emit l (bind t f)
  | await o k, f => await o fun r => bind (k r) f

instance : Monad (Async ω ρ ε) where
  pure := ready
  bind := bind

/-- `t.handle_exception(h)`, and equally `try { t } catch (const std::exception& e) { h(e) }`. -/
def handleException : Async ω ρ ε α → (ε → Async ω ρ ε α) → Async ω ρ ε α
  | ready a, _ => ready a
  | raised e, h => h e
  | fellOff, _ => fellOff
  | emit l t, h => emit l (handleException t h)
  | await o k, h => await o fun r => handleException (k r) h

/-- `co_await` of an operation: its exception is thrown here. -/
def op (o : ω) : Async ω ρ ε (ρ o) :=
  await o fun
    | .ok a => ready a
    | .error e => raised e

def log (line : String) : Async ω ρ ε Unit := emit line (ready ())

/-- `throw`. -/
def throwing (e : ε) : Async ω ρ ε α := raised e

/-- The end of a block without a `return`. -/
def reachEnd : Async ω ρ ε (Option α) := ready none

/-- `return v`. -/
def returning (v : α) : Async ω ρ ε (Option α) := ready (some v)

/-- One statement after another: the second runs only when the first did not return. -/
def andThen (t u : Async ω ρ ε (Option α)) : Async ω ρ ε (Option α) :=
  bind t fun
    | none => u
    | some a => ready (some a)

/-- The call of a function whose return type is not `void`: reaching its end is undefined. -/
def valued (body : Async ω ρ ε (Option α)) : Async ω ρ ε α :=
  bind body fun
    | none => fellOff
    | some a => ready a

/-- The call of a `void` function. -/
def void (body : Async ω ρ ε (Option Unit)) : Async ω ρ ε Unit := bind body fun _ => ready ()

/-- The coroutine after the lines it logs at once. -/
def front : Async ω ρ ε α → Front ω ρ ε α
  | ready a => .done (.ready a)
  | raised e => .done (.raised e)
  | fellOff => .done .fellOff
  | emit _ t => t.front
  | await o k => .waits o k

/-- The lines a coroutine logs before it waits or ends. -/
def lines : Async ω ρ ε α → List String
  | emit l t => l :: t.lines
  | _ => []

end Async

/-- Which operations a coroutine may await in which state, and the state that each result leads to. -/
structure Protocol (ω : Type) (ρ : ω → Type) (ε σ : Type) where
  allows : σ → ω → Prop
  after : σ → (o : ω) → Except ε (ρ o) → σ

namespace Async

variable {ω : Type} {ρ : ω → Type} {ε α β σ : Type}

/-! ## Coroutines that follow a protocol -/

/-- From the state `p` on, the coroutine awaits only what the protocol allows, and it ends in a state
and with an outcome that `Q` allows. -/
def Follows (P : Protocol ω ρ ε σ) (Q : σ → Outcome ε α → Prop) : σ → Async ω ρ ε α → Prop
  | p, ready a => Q p (.ready a)
  | p, raised e => Q p (.raised e)
  | p, fellOff => Q p .fellOff
  | p, emit _ t => Follows P Q p t
  | p, await o k => P.allows p o ∧ ∀ r, Follows P Q (P.after p o r) (k r)

variable {P : Protocol ω ρ ε σ} {Q : σ → Outcome ε α → Prop} {p : σ}

@[simp] theorem follows_ready (a : α) : Follows P Q p (ready a) ↔ Q p (.ready a) := Iff.rfl

@[simp] theorem follows_fellOff : Follows P Q p fellOff ↔ Q p .fellOff := Iff.rfl

@[simp] theorem follows_throwing (e : ε) : Follows P Q p (throwing e) ↔ Q p (.raised e) := Iff.rfl

@[simp] theorem follows_emit (line : String) (t : Async ω ρ ε α) :
    Follows P Q p (emit line t) ↔ Follows P Q p t := Iff.rfl

@[simp] theorem follows_log {Q : σ → Outcome ε Unit → Prop} (line : String) :
    Follows P Q p (log line) ↔ Q p (.ready ()) := Iff.rfl

theorem follows_op {o : ω} {Q : σ → Outcome ε (ρ o) → Prop} :
    Follows P Q p (op o) ↔
      P.allows p o ∧ (∀ a, Q (P.after p o (.ok a)) (.ready a)) ∧
        ∀ e, Q (P.after p o (.error e)) (.raised e) := by
  refine and_congr_right fun _ => ⟨fun h => ⟨fun a => h (.ok a), fun e => h (.error e)⟩, ?_⟩
  rintro ⟨ha, he⟩ (e | a)
  · exact he e
  · exact ha a

/-- What `t` has to follow for `bind t f` to follow `Q`. -/
def afterBind (P : Protocol ω ρ ε σ) (Q : σ → Outcome ε β → Prop) (f : α → Async ω ρ ε β) (p : σ) :
    Outcome ε α → Prop
  | .ready a => Follows P Q p (f a)
  | .raised e => Q p (.raised e)
  | .fellOff => Q p .fellOff

@[simp] theorem follows_do {Q : σ → Outcome ε β → Prop} {f : α → Async ω ρ ε β} (t : Async ω ρ ε α) :
    Follows P Q p (t >>= f) ↔ Follows P (afterBind P Q f) p t := by
  change Follows P Q p (t.bind f) ↔ _
  induction t generalizing p with
  | ready | raised | fellOff => rfl
  | emit l t ih => exact ih
  | await o k ih => exact and_congr_right fun _ => forall_congr' fun r => ih r

/-- What `t` has to follow for `handleException t h` to follow `Q`. -/
def afterCatch (P : Protocol ω ρ ε σ) (Q : σ → Outcome ε α → Prop) (h : ε → Async ω ρ ε α) (p : σ) :
    Outcome ε α → Prop
  | .ready a => Q p (.ready a)
  | .raised e => Follows P Q p (h e)
  | .fellOff => Q p .fellOff

@[simp] theorem follows_handleException {h : ε → Async ω ρ ε α} (t : Async ω ρ ε α) :
    Follows P Q p (t.handleException h) ↔ Follows P (afterCatch P Q h) p t := by
  induction t generalizing p with
  | ready | raised | fellOff => rfl
  | emit l t ih => exact ih
  | await o k ih => exact and_congr_right fun _ => forall_congr' fun r => ih r

theorem Follows.mono {Q R : σ → Outcome ε α → Prop} (hQR : ∀ p out, Q p out → R p out)
    {t : Async ω ρ ε α} (h : Follows P Q p t) : Follows P R p t := by
  induction t generalizing p with
  | ready | raised | fellOff => exact hQR _ _ h
  | emit l t ih => exact ih h
  | await o k ih => exact ⟨h.1, fun r => ih r (h.2 r)⟩

/-- A coroutine that follows a protocol has ended, or waits for what the protocol allows and follows
it with every result. -/
theorem Follows.front {t : Async ω ρ ε α} (h : Follows P Q p t) :
    (∃ out, t.front = .done out ∧ Q p out) ∨
      ∃ o k, t.front = .waits o k ∧ P.allows p o ∧ ∀ r, Follows P Q (P.after p o r) (k r) := by
  induction t with
  | ready | raised | fellOff => exact .inl ⟨_, rfl, h⟩
  | emit l t ih => exact ih h
  | await o k => exact .inr ⟨o, k, rfl, h⟩

theorem Follows.of_waits {t : Async ω ρ ε α} {o : ω} {k : Except ε (ρ o) → Async ω ρ ε α}
    (h : Follows P Q p t) (hf : t.front = .waits o k) :
    P.allows p o ∧ ∀ r, Follows P Q (P.after p o r) (k r) := by
  rcases h.front with ⟨out, hd, -⟩ | ⟨o', k', hw, h⟩
  · rw [hf] at hd
    cases hd
  · rw [hf] at hw
    cases hw
    exact h

end Async

/-! ## keep_doing -/

/-- The loop: the current iteration's future, how the earlier ones ended, how many were started, and
the log. -/
structure KeepDoing (ω : Type) (ρ : ω → Type) (ε : Type) where
  current : Async ω ρ ε Unit
  outcomes : List (Outcome ε Unit)
  started : Nat
  log : List String

namespace KeepDoing

open Async

variable {ω : Type} {ρ : ω → Type} {ε σ : Type}

/-- `keep_doing(action)`. -/
def start (action : Async ω ρ ε Unit) : KeepDoing ω ρ ε :=
  { current := action, outcomes := [], started := 1, log := action.lines }

/-- The current iteration has become `t`. When its future is ready the next iteration starts;
otherwise an iteration that has ended ends the loop. -/
def proceed (action : Async ω ρ ε Unit) (s : KeepDoing ω ρ ε) (t : Async ω ρ ε Unit) : KeepDoing ω ρ ε :=
  match t.front with
  | .waits _ _ => { s with current := t, log := s.log ++ t.lines }
  | .done (.ready ()) =>
    { current := action
      outcomes := s.outcomes ++ [.ready ()]
      started := s.started + 1
      log := s.log ++ t.lines ++ action.lines }
  | .done out =>
    { s with
      current := t
      outcomes := s.outcomes ++ [out]
      log := s.log ++ t.lines }

/-- Every iteration that ended was ready, and another one was started after each. -/
def Survives (s : KeepDoing ω ρ ε) : Prop :=
  (∀ out ∈ s.outcomes, out = .ready ()) ∧ s.started = s.outcomes.length + 1

/-- The loop has stopped after an iteration that was not ready. -/
def Ended (s : KeepDoing ω ρ ε) : Prop :=
  ∃ out, out ≠ .ready () ∧ out ∈ s.outcomes ∧ s.current.front = .done out

theorem survives_start (action : Async ω ρ ε Unit) : (start action).Survives :=
  ⟨fun _ h => (List.not_mem_nil h).elim, rfl⟩

theorem Ended.not_survives {s : KeepDoing ω ρ ε} (h : s.Ended) : ¬s.Survives := by
  obtain ⟨out, hne, hmem, -⟩ := h
  exact fun hs => hne (hs.1 out hmem)

variable {P : Protocol ω ρ ε σ} {Q : σ → Outcome ε Unit → Prop} {p : σ} {t : Async ω ρ ε Unit}
  {s : KeepDoing ω ρ ε}

/-- When the current iteration becomes `t`, the loop waits in `t`, or has started the next iteration,
or has stopped. -/
theorem proceed_cases (action : Async ω ρ ε Unit) (hs : s.Survives) (ht : Follows P Q p t) :
    ((proceed action s t).Survives ∧ (proceed action s t).current = t ∧ ∃ o, P.allows p o) ∨
      ((proceed action s t).Survives ∧ (proceed action s t).current = action ∧ Q p (.ready ())) ∨
      ((proceed action s t).Ended ∧ ∃ out, out ≠ .ready () ∧ Q p out) := by
  unfold proceed
  rcases ht.front with ⟨out, hf, hout⟩ | ⟨o, k, hf, ho, -⟩
  · rw [hf]
    have hlast : ∀ out, out ∈ s.outcomes ++ [out] := fun out =>
      List.mem_append_right _ (List.mem_singleton_self _)
    cases out with
    | ready u =>
      refine .inr (.inl ⟨⟨?_, ?_⟩, rfl, hout⟩)
      · intro out hmem
        rcases List.mem_append.1 hmem with hmem | hmem
        · exact hs.1 out hmem
        · exact List.mem_singleton.1 hmem
      · simp [hs.2]
    -- the loop's own future takes the exception of the iteration
    | raised e => exact .inr (.inr ⟨⟨.raised e, nofun, hlast _, hf⟩, .raised e, nofun, hout⟩)
    | fellOff => exact .inr (.inr ⟨⟨.fellOff, nofun, hlast _, hf⟩, .fellOff, nofun, hout⟩)
  · rw [hf]
    exact .inl ⟨hs, rfl, o, ho⟩

end KeepDoing

end HttpSurvey.Lib
