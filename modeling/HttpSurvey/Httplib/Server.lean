/-
The three handlers of the two httplib servers, run on one request after another. Each handler is a
function from the server's counters and the request to the new counters and the response body. The
servers differ in the type of `request_count` (an atomic `int` against an atomic `size_t`) and in
`GET /large_data`, which only the concurrent server counts; a `GET /request_stats` shows the
difference.
-/
import HttpSurvey.Lib.Word

namespace HttpSurvey.Httplib

open HttpSurvey.Lib

/-- A request to one of the endpoints: `POST /receive_data`, `GET /large_data`,
`GET /request_stats`. -/
inductive Request
  | receiveData (body : List UInt8)
  | largeData
  | requestStats
  deriving DecidableEq, Repr

/-- `DATA_SIZE` (30 MB). -/
def DATA_SIZE : Nat := 30 * 1024 * 1024

/-- `const std::string large_data(DATA_SIZE, 'A')`. -/
def largeData : String := String.ofList (List.replicate DATA_SIZE 'A')

/-- The body that acknowledges a POST. -/
def receivedText (bodySize : Nat) : String := "Received " ++ toString bodySize ++ " bytes"

/-- The body of the statistics, with the count already printed. -/
def statsText (requestCount : String) (totalReceivedBytes : Nat) : String :=
  "Total requests: " ++ requestCount ++ "\nTotal received: " ++
    toString (totalReceivedBytes / (1024 * 1024)) ++ " MB"

/-- The atomics of `regular_httplib_server`: an `int` and a `size_t`. -/
structure RegularServer where
  requestCount : Int
  totalReceivedBytes : Nat
  deriving DecidableEq, Repr

/-- The atomics of `concurrent_httplib_server`: two `size_t`. -/
structure ConcurrentServer where
  requestCount : Nat
  totalReceivedBytes : Nat
  deriving DecidableEq, Repr

/-- The handlers of `regular_httplib_server`. -/
def RegularServer.handle (s : RegularServer) : Request → RegularServer × String
  | .receiveData body =>
    (⟨wrapInt (s.requestCount + 1), addSize s.totalReceivedBytes body.length⟩, receivedText body.length)
  | .requestStats => (s, statsText (toString s.requestCount) s.totalReceivedBytes)
  | .largeData => (s, largeData)

/-- The handlers of `concurrent_httplib_server`, each run without another in between. -/
def ConcurrentServer.handle (s : ConcurrentServer) : Request → ConcurrentServer × String
  | .receiveData body =>
    (⟨addSize s.requestCount 1, addSize s.totalReceivedBytes body.length⟩, receivedText body.length)
  | .largeData => ({ s with requestCount := addSize s.requestCount 1 }, largeData)
  | .requestStats => (s, statsText (toString s.requestCount) s.totalReceivedBytes)

/-- The response bodies of a server that handles the requests one after another. -/
def responses {σ : Type} (handle : σ → Request → σ × String) : σ → List Request → List String
  | _, [] => []
  | s, r :: rs => (handle s r).2 :: responses handle (handle s r).1 rs

def regularResponses (rs : List Request) : List String := responses RegularServer.handle ⟨0, 0⟩ rs

def concurrentResponses (rs : List Request) : List String := responses ConcurrentServer.handle ⟨0, 0⟩ rs

/-! ## Printed numbers -/

theorem repr_injective {m n : Nat} (h : m.repr = n.repr) : m = n := by
  have hm : Nat.ofDigitChars 10 m.repr.toList 0 = m := by
    rw [Nat.toList_repr, Nat.ofDigitChars_ten_toDigits]
  have hn : Nat.ofDigitChars 10 n.repr.toList 0 = n := by
    rw [Nat.toList_repr, Nat.ofDigitChars_ten_toDigits]
  rw [← hm, ← hn, h]

/-- Two statistics with the same bytes are the same exactly when their counts print the same. -/
theorem statsText_inj {a b : String} {n : Nat} : statsText a n = statsText b n ↔ a = b := by
  unfold statsText
  rw [String.append_left_inj, String.append_left_inj, String.append_left_inj, String.append_right_inj]

/-! ## The two servers side by side -/

/-- The requests that some `request_count` counts. -/
def Request.isCounted : Request → Bool
  | .receiveData _ | .largeData => true
  | .requestStats => false

/-- The number of counted requests. -/
def countedRequests (rs : List Request) : Nat := rs.countP Request.isCounted

/-- The states of the two servers after `p` POSTs and `d` downloads with `t` bytes received. -/
structure Sim (p d t : Nat) (a : RegularServer) (b : ConcurrentServer) : Prop where
  regular : a = ⟨(p : Int), t⟩
  concurrent : b = ⟨p + d, t⟩

/-- No statistics are asked for once a download has been served, `d` of them before the first of
the requests. -/
def NoStatsAfterDownload (d : Nat) (rs : List Request) : Prop :=
  ∀ before after, rs = before ++ .requestStats :: after → d = 0 ∧ Request.largeData ∉ before

theorem noStatsAfterDownload_cons {d : Nat} {r : Request} {rs : List Request} :
    NoStatsAfterDownload d (r :: rs) ↔
      (r = .requestStats → d = 0) ∧ NoStatsAfterDownload (if r = .largeData then d + 1 else d) rs := by
  constructor
  · intro h
    refine ⟨fun hr => (h [] rs (by rw [hr]; rfl)).1, fun before after hrs => ?_⟩
    obtain ⟨hd, hmem⟩ := h (r :: before) after (by rw [hrs]; rfl)
    simp only [List.mem_cons, not_or] at hmem
    rw [if_neg (Ne.symm hmem.1)]
    exact ⟨hd, hmem.2⟩
  · rintro ⟨hr, h⟩ before after hrs
    cases before with
    | nil =>
      rw [List.nil_append, List.cons.injEq] at hrs
      exact ⟨hr hrs.1, by simp⟩
    | cons b before =>
      rw [List.cons_append, List.cons.injEq] at hrs
      obtain ⟨rfl, hrs⟩ := hrs
      obtain ⟨hd, hmem⟩ := h before after hrs
      by_cases hb : r = .largeData
      · rw [if_pos hb] at hd
        omega
      · rw [if_neg hb] at hd
        exact ⟨hd, by simp [Ne.symm hb, hmem]⟩

/-- One request keeps the two servers in step, and is answered alike unless it asks for statistics
after a download. -/
theorem sim_handle {p d t : Nat} {a : RegularServer} {b : ConcurrentServer} (h : Sim p d t a b) (r : Request)
    (hbound : p + d + r.isCounted.toNat < 2 ^ 31) :
    (∃ p' t', p' + (if r = .largeData then d + 1 else d) = p + d + r.isCounted.toNat ∧
      Sim p' (if r = .largeData then d + 1 else d) t' (a.handle r).1 (b.handle r).1) ∧
    ((a.handle r).2 = (b.handle r).2 ↔ (r = .requestStats → d = 0)) := by
  obtain ⟨rfl, rfl⟩ := h
  cases r with
  | receiveData body =>
    simp only [Request.isCounted, Bool.toNat_true] at hbound
    refine ⟨⟨p + 1, addSize t body.length, ?_, ?_, ?_⟩, ?_⟩
    · simp [Request.isCounted]
      omega
    · simp only [RegularServer.handle]
      rw [wrapInt_eq (by omega) (by omega)]
      rfl
    · simp only [ConcurrentServer.handle, reduceCtorEq, if_false]
      rw [addSize_eq (by unfold sizeMod; omega)]
      congr 1
      omega
    · simp [RegularServer.handle, ConcurrentServer.handle]
  | largeData =>
    simp only [Request.isCounted, Bool.toNat_true] at hbound
    refine ⟨⟨p, t, ?_, rfl, ?_⟩, ?_⟩
    · simp [Request.isCounted]
      omega
    · simp only [ConcurrentServer.handle, if_true]
      rw [addSize_eq (by unfold sizeMod; omega)]
      congr 1
    · simp [RegularServer.handle, ConcurrentServer.handle]
  | requestStats =>
    refine ⟨⟨p, t, by simp [Request.isCounted], rfl, rfl⟩, ?_⟩
    simp only [RegularServer.handle, ConcurrentServer.handle, statsText_inj, forall_const]
    constructor
    · intro hrepr
      have := repr_injective (m := p) (n := p + d) hrepr
      omega
    · rintro rfl
      rfl

/-- From states in step, the responses agree exactly when no statistics follow a download. -/
theorem sim_responses : ∀ (rs : List Request) (p d t : Nat) (a : RegularServer) (b : ConcurrentServer),
    Sim p d t a b → p + d + countedRequests rs < 2 ^ 31 →
    (responses RegularServer.handle a rs = responses ConcurrentServer.handle b rs ↔ NoStatsAfterDownload d rs)
  | [], _, d, _, _, _, _, _ => by simp [responses, NoStatsAfterDownload]
  | r :: rs, p, d, t, a, b, h, hbound => by
    have hcount : countedRequests (r :: rs) = r.isCounted.toNat + countedRequests rs := by
      unfold countedRequests
      rw [List.countP_cons]
      cases r.isCounted <;> simp [Nat.add_comm]
    obtain ⟨⟨p', t', hp', hsim⟩, hhead⟩ := sim_handle h r (by omega)
    have htail := sim_responses rs p' _ t' _ _ hsim (by omega)
    rw [noStatsAfterDownload_cons]
    simp only [responses, List.cons.injEq, hhead, htail]

/-- With fewer than `2 ^ 31` counted requests, the two servers answer a sequence of requests alike
exactly when no `GET /request_stats` of it comes after a `GET /large_data`. -/
theorem servers_agree_iff (rs : List Request) (hbound : countedRequests rs < 2 ^ 31) :
    regularResponses rs = concurrentResponses rs ↔
      ∀ before after, rs = before ++ .requestStats :: after → Request.largeData ∉ before := by
  have hsim := sim_responses rs 0 0 0 ⟨0, 0⟩ ⟨0, 0⟩ ⟨rfl, rfl⟩ (by omega)
  simpa only [regularResponses, concurrentResponses, NoStatsAfterDownload, true_and] using hsim

/-- A POST and its statistics, without a download. -/
theorem servers_agree_upload : regularResponses [.receiveData [65], .requestStats] =
    concurrentResponses [.receiveData [65], .requestStats] := by
  refine (servers_agree_iff _ (by decide)).2 fun before after h hmem => ?_
  have hin : Request.largeData ∈ [.receiveData [65], .requestStats] := by
    rw [h]
    exact List.mem_append_left _ hmem
  exact absurd hin (by decide)

/-- After one download the servers report 0 and 1 requests. -/
theorem download_counted_once :
    (regularResponses [.largeData, .requestStats]).drop 1 = ["Total requests: 0\nTotal received: 0 MB"] ∧
    (concurrentResponses [.largeData, .requestStats]).drop 1 = ["Total requests: 1\nTotal received: 0 MB"] ∧
    regularResponses [.largeData, .requestStats] ≠ concurrentResponses [.largeData, .requestStats] := by
  refine ⟨by decide, by decide, fun h => ?_⟩
  have h1 := congrArg (List.drop 1) h
  revert h1
  decide

end HttpSurvey.Httplib
