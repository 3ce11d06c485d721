/-
The command lines of the two Drogon clients, the requests that their loops send for the numbers read
from them, and the number of completions that the response callbacks wait for. `main` accepts whatever
`std::stoi` gives. Without a positive number of requests no callback ever compares anything, and the
`int` product of `concurrent_drogon_client` may overflow; otherwise the callbacks wait for as many
completions as there are requests (`expects_what_it_sends_iff`).
-/
import HttpSurvey.Lib.Numerals

namespace HttpSurvey.Drogon

open HttpSurvey.Lib

/-- How `main` ends before it does anything: with a usage message, or by an exception of `std::stoi`
that nothing catches. -/
inductive Abort
  | usage (lines : List String)
  | uncaught (e : StoiError)
  deriving DecidableEq, Repr

/-- `std::stoi` of an argument. -/
def number (s : List Char) : Except Abort CInt :=
  match stoi s with
  | .ok x => .ok x
  | .error e => .error (.uncaught e)

/-- The values that `i` takes in `for (; i < n; ++i)`. There `i + 1` is at most `n` and does not overflow. -/
def forRange (n i : Int) : List Int := if i < n then i :: forRange n (i + 1) else []
termination_by (n - i).toNat

theorem length_forRange (n i : Int) : (forRange n i).length = (n - i).toNat := by
  induction i using forRange.induct n with
  | case1 i h ih =>
    rw [forRange, if_pos h, List.length_cons, ih]
    omega
  | case2 i h =>
    rw [forRange, if_neg h, List.length_nil]
    omega

namespace Regular

/-- What `main` of `regular_drogon_client` reads from its arguments. -/
structure Arguments where
  serverAddress : List Char
  port : Nat
  requestCount : CInt
  deriving DecidableEq, Repr

def arguments (program : String) : List (List Char) → Except Abort Arguments
  | [serverAddress, port, requestCount] => do
    let port ← number port
    let requestCount ← number requestCount
    return ⟨serverAddress, toShort port.val, requestCount⟩
  | _ => .error (.usage ["Usage: " ++ program ++ " <server_address> <port> <request_count>",
      "Example: " ++ program ++ " 127.0.0.1 8848 100"])

/-- The requests that the loop of `main` sends. -/
def sends (requestCount : CInt) : List Int := forRange requestCount.val 0

/-- What `completed_requests` is compared with. -/
def expected (requestCount : CInt) : Nat := toSize requestCount.val

/-- The callbacks wait for as many completions as there are requests, and there is one at least. -/
def ExpectsWhatItSends (requestCount : CInt) : Prop :=
  expected requestCount = (sends requestCount).length ∧ 1 ≤ (sends requestCount).length

instance (requestCount : CInt) : Decidable (ExpectsWhatItSends requestCount) := inferInstanceAs (Decidable (_ ∧ _))

theorem length_sends (requestCount : CInt) : (sends requestCount).length = requestCount.val.toNat := by
  unfold sends
  rw [length_forRange, Int.sub_zero]

theorem expects_iff (requestCount : CInt) : ExpectsWhatItSends requestCount ↔ 1 ≤ requestCount.val := by
  have hrange := requestCount.range
  unfold ExpectsWhatItSends expected
  rw [length_sends]
  constructor
  · rintro ⟨-, hpos⟩
    omega
  · intro hpos
    obtain ⟨n, hn⟩ : ∃ n : Nat, requestCount.val = n := ⟨requestCount.val.toNat, by omega⟩
    rw [hn] at hrange hpos ⊢
    rw [toSize_natCast (intMax_lt_sizeMod (by unfold intMax; omega)), Int.toNat_natCast]
    exact ⟨rfl, by omega⟩

end Regular

namespace Concurrent

/-- What `main` of `concurrent_drogon_client` reads from its arguments. -/
structure Arguments where
  serverAddress : List Char
  port : Nat
  requestsPerThread : CInt
  threadCount : CInt
  deriving DecidableEq, Repr

def arguments (program : String) : List (List Char) → Except Abort Arguments
  | [serverAddress, port, requestsPerThread, threadCount] => do
    let port ← number port
    let requestsPerThread ← number requestsPerThread
    let threadCount ← number threadCount
    return ⟨serverAddress, toShort port.val, requestsPerThread, threadCount⟩
  | _ => .error (.usage
      ["Usage: " ++ program ++ " <server_address> <port> <requests_per_thread> <thread_count>",
        "Example: " ++ program ++ " 127.0.0.1 8848 100 4"])

/-- The requests that the threads' calls of `sendRequests` send. -/
def sends (requestsPerThread threadCount : CInt) : List (Int × Int) :=
  (forRange threadCount.val 0).flatMap fun t => (forRange requestsPerThread.val 0).map fun i => (t, i)

/-- What `completed_requests` is compared with, if the product does not overflow. -/
def expected (requestsPerThread threadCount : CInt) : Option Nat :=
  (requestsPerThread.mul threadCount).map fun p => toSize p.val

/-- The product does not overflow, the callbacks wait for as many completions as there are requests, and
there is one at least. -/
def ExpectsWhatItSends (requestsPerThread threadCount : CInt) : Prop :=
  expected requestsPerThread threadCount = some (sends requestsPerThread threadCount).length ∧
    1 ≤ (sends requestsPerThread threadCount).length

instance (requestsPerThread threadCount : CInt) : Decidable (ExpectsWhatItSends requestsPerThread threadCount) :=
  inferInstanceAs (Decidable (_ ∧ _))

theorem length_sends (requestsPerThread threadCount : CInt) :
    (sends requestsPerThread threadCount).length = requestsPerThread.val.toNat * threadCount.val.toNat := by
  unfold sends
  simp only [List.length_flatMap, List.length_map, length_forRange, Int.sub_zero, List.map_const',
    List.sum_replicate, smul_eq_mul]
  exact Nat.mul_comm _ _

theorem expects_iff (requestsPerThread threadCount : CInt) :
    ExpectsWhatItSends requestsPerThread threadCount ↔
      1 ≤ requestsPerThread.val ∧ 1 ≤ threadCount.val ∧ requestsPerThread.val * threadCount.val ≤ intMax := by
  unfold ExpectsWhatItSends expected
  rw [length_sends, Option.map_eq_some_iff]
  constructor
  · rintro ⟨⟨p, hp, -⟩, hpos⟩
    have hr : 0 < requestsPerThread.val.toNat := Nat.pos_of_mul_pos_right hpos
    have ht : 0 < threadCount.val.toNat := Nat.pos_of_mul_pos_left hpos
    have hrange := p.range
    rw [CInt.mul_eq_some.1 hp] at hrange
    unfold intMax
    omega
  · rintro ⟨hr, ht, hfit⟩
    obtain ⟨r, hr'⟩ : ∃ r : Nat, requestsPerThread.val = r := ⟨requestsPerThread.val.toNat, by omega⟩
    obtain ⟨t, ht'⟩ : ∃ t : Nat, threadCount.val = t := ⟨threadCount.val.toNat, by omega⟩
    rw [hr', ht'] at hfit
    rw [hr'] at hr
    rw [ht'] at ht
    have hfit' : r * t ≤ intMax := by exact_mod_cast hfit
    have hpos : 0 < r * t := Nat.mul_pos (by omega) (by omega)
    have hp : requestsPerThread.mul threadCount = some (CInt.ofNat (r * t) hfit') := by
      rw [CInt.mul_eq_some, hr', ht']
      exact Nat.cast_mul r t
    refine ⟨⟨_, hp, ?_⟩, ?_⟩
    · change toSize ((r * t : Nat) : Int) = _
      rw [toSize_natCast (intMax_lt_sizeMod hfit'), hr', ht', Int.toNat_natCast, Int.toNat_natCast]
    · rw [hr', ht', Int.toNat_natCast, Int.toNat_natCast]
      exact hpos

end Concurrent

/-- `regular_drogon_client` waits for as many completions as it issues requests, at least one, exactly
for the positive counts, and `concurrent_drogon_client` for positive counts of requests and threads whose
product is an `int`. -/
theorem expects_what_it_sends_iff (requestCount requestsPerThread threadCount : CInt) :
    (Regular.ExpectsWhatItSends requestCount ↔ 1 ≤ requestCount.val) ∧
      (Concurrent.ExpectsWhatItSends requestsPerThread threadCount ↔
        1 ≤ requestsPerThread.val ∧ 1 ≤ threadCount.val ∧
          requestsPerThread.val * threadCount.val ≤ intMax) :=
  ⟨Regular.expects_iff requestCount, Concurrent.expects_iff requestsPerThread threadCount⟩

/-- `main` accepts a count of 0, two negative counts, and counts whose product overflows. -/
theorem accepted_but_never_quits :
    (∃ a, Regular.arguments "client" [['h'], ['8', '0'], ['0']] = .ok a ∧
      ¬Regular.ExpectsWhatItSends a.requestCount) ∧
      (∃ a, Concurrent.arguments "client" [['h'], ['8', '0'], ['-', '1'], ['-', '1']] = .ok a ∧
        ¬Concurrent.ExpectsWhatItSends a.requestsPerThread a.threadCount) ∧
      ∃ a, Concurrent.arguments "client" [['h'], ['8', '0'], ['9', '9', '9', '9', '9'], ['9', '9', '9', '9', '9']] =
          .ok a ∧
        ¬Concurrent.ExpectsWhatItSends a.requestsPerThread a.threadCount := by
  refine ⟨⟨⟨['h'], 80, ⟨0, by decide⟩⟩, by decide, ?_⟩, ⟨⟨['h'], 80, ⟨-1, by decide⟩, ⟨-1, by decide⟩⟩, by decide, ?_⟩,
    ⟨⟨['h'], 80, ⟨99999, by decide⟩, ⟨99999, by decide⟩⟩, by decide, ?_⟩⟩
  · rw [Regular.expects_iff]
    decide
  · rw [Concurrent.expects_iff]
    decide
  · rw [Concurrent.expects_iff]
    decide

end HttpSurvey.Drogon
