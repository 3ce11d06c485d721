/-
The request log of `concurrent_httplib_server`, over every interleaving of its handlers: the request
numbers are distinct and in the end are the numbers from 1 on; the totals that the POST lines show
never decrease and each is the sum over a set of POSTs that contains the printing one and all those
printed before; in the end the total is the sum of all bodies.

Numbers are handed out and bodies are added outside the lock, so lines may come out of the order of
their numbers. The totals are in order because each is loaded under the lock that its line is printed
under: between the load and the printing no other line gets into the log (`lock_holder`), and what was
added when an earlier line was printed is still added at the load.
-/
import HttpSurvey.Httplib.Handlers

namespace HttpSurvey.Httplib.Handlers

open HttpSurvey.Lib

variable {n : Nat} {calls : Fin n → Call} {s s' : Threads (Fin n) (Shared n) Handler}

/-! ## The lock -/

/-- The handler that holds the lock is the one that `stats_mutex` names. -/
theorem lock_holder (h : (server calls).Reachable s) (k : Fin n) :
    (s.own k).holdsLock = true ↔ s.shared.statsMutex = some k := by
  refine Threads.reachable_forall (fun m k h => h.holdsLock = true ↔ m.statsMutex = some k) ?_ ?_ ?_ h k
  · intro k
    rcases startHandler_cases calls k with h | h <;> rw [h] <;> simp [Handler.holdsLock, startShared]
  · intro k m h o m' h' hk hstep
    cases step_cases hstep with
    | increment | add | load | printPost | printGet | respond | stats => exact hk
    | lockGet | lockPost => simp [Handler.holdsLock]
    | unlock => simp [Handler.holdsLock]
  · intro i j m h o m' h' k hji hi hj hstep
    cases step_cases hstep with
    | increment | add | load | printPost | printGet | respond | stats => exact hj
    | lockGet _ hfree | lockPost hfree =>
      rw [hfree] at hj
      simpa [Ne.symm hji] using hj
    | unlock =>
      -- the lock was held by `i`, so `j` did not hold it
      have hheld : m.statsMutex = some i := hi.1 rfl
      rw [hheld] at hj
      simpa [Ne.symm hji] using hj

theorem mutual_exclusion (h : (server calls).Reachable s) {i j : Fin n} (hi : (s.own i).holdsLock = true)
    (hj : (s.own j).holdsLock = true) : i = j := by
  rw [lock_holder h] at hi hj
  rw [hi] at hj
  exact Option.some.inj hj

/-! ## The numbers -/

/-- The numbers obtained so far lie between 1 and `request_count`, and no two are the same. -/
structure Numbered (s : Threads (Fin n) (Shared n) Handler) : Prop where
  bound : ∀ k c, (s.own k).number = some c → 1 ≤ c ∧ c ≤ s.shared.requestCount
  distinct : ∀ i j c, (s.own i).number = some c → (s.own j).number = some c → i = j

/-- A step that hands out no number keeps them. -/
theorem Numbered.keep {k : Fin n} {m : Shared n} {h : Handler} (hs : Numbered s)
    (hnum : h.number = (s.own k).number) (hcount : m.requestCount = s.shared.requestCount) :
    Numbered (s.advance k m h) := by
  have hown : ∀ j, ((s.advance k m h).own j).number = (s.own j).number := by
    intro j
    by_cases hj : j = k
    · subst hj
      rw [Threads.advance_own_self, hnum]
    · rw [Threads.advance_own_of_ne _ hj]
  refine ⟨?_, ?_⟩
  · intro j c hc
    rw [hown] at hc
    rw [Threads.advance_shared, hcount]
    exact hs.bound j c hc
  · intro i j c hi hj
    rw [hown] at hi hj
    exact hs.distinct i j c hi hj

/-- The number handed out next is larger than all before. -/
theorem Numbered.increment {k : Fin n} {m : Shared n} {h : Handler} (hs : Numbered s)
    (hcount : m.requestCount = s.shared.requestCount + 1) (hnum : h.number = some (s.shared.requestCount + 1)) :
    Numbered (s.advance k m h) := by
  have hnew : ∀ j c, ((s.advance k m h).own j).number = some c →
      j = k ∧ c = s.shared.requestCount + 1 ∨ j ≠ k ∧ (s.own j).number = some c := by
    intro j c hc
    by_cases hj : j = k
    · subst hj
      rw [Threads.advance_own_self, hnum] at hc
      exact .inl ⟨rfl, (Option.some.inj hc).symm⟩
    · rw [Threads.advance_own_of_ne _ hj] at hc
      exact .inr ⟨hj, hc⟩
  refine ⟨?_, ?_⟩
  · intro j c hc
    rw [Threads.advance_shared, hcount]
    rcases hnew j c hc with ⟨-, rfl⟩ | ⟨-, hc⟩
    · omega
    · have := hs.bound j c hc
      omega
  · intro i j c hi hj
    rcases hnew i c hi with ⟨rfl, hci⟩ | ⟨-, hi'⟩
    · rcases hnew j c hj with ⟨rfl, -⟩ | ⟨-, hj'⟩
      · rfl
      · have := hs.bound j c hj'
        omega
    · rcases hnew j c hj with ⟨rfl, hcj⟩ | ⟨-, hj'⟩
      · have := hs.bound i c hi'
        omega
      · exact hs.distinct i j c hi' hj'

/-- Below its wrap `request_count` is the number of handlers that have raised it. -/
theorem requestCount_eq_card (hfit : (logging calls).card < sizeMod) (h : (server calls).Reachable s) :
    s.shared.requestCount = (counted s).card := by
  have hle := Finset.card_le_card (counted_subset_logging h)
  rw [requestCount_eq h, Nat.mod_eq_of_lt (by omega)]

theorem numbered (hfit : (logging calls).card < sizeMod) (h : (server calls).Reachable s) : Numbered s := by
  obtain ⟨as, h⟩ := h
  refine Machine.historyInv (fun _ s => Numbered s) ?_ ?_ h
  · have hnone : ∀ k c, ((server calls).init.own k).number ≠ some c := by
      intro k c hc
      have := counted_init calls k
      change (startHandler calls k).number = some c at hc
      simp [Handler.isCounted, hc] at this
    exact ⟨fun k c hc => absurd hc (hnone k c), fun i j c hi => absurd hi (hnone i c)⟩
  · rintro as s ⟨k, o⟩ s' hs ih hn
    have hreach : (server calls).Reachable s' := ⟨as ++ [(k, o)], Machine.exec_snoc.2 ⟨s, hs, hn⟩⟩
    obtain ⟨m, h', hstep, rfl⟩ := Threads.next_eq_some.1 hn
    generalize hown : s.own k = h at hstep
    cases step_cases hstep with
    | increment =>
      -- the counter is still below its wrap
      have hle := Finset.card_le_card (counted_subset_logging hreach)
      have hcard : (counted s).card + 1 ≤ (logging calls).card := by
        have hnot : k ∉ counted s := by
          rw [Threads.mem_those, hown]
          exact Bool.false_ne_true
        have hins : counted (s.advance k { s.shared with requestCount := addSize s.shared.requestCount 1 }
            (.counted (addSize s.shared.requestCount 1))) = insert k (counted s) := Threads.those_insert rfl
        rw [hins, Finset.card_insert_of_notMem hnot] at hle
        exact hle
      have hcount := requestCount_eq_card hfit ⟨as, hs⟩
      have hadd : addSize s.shared.requestCount 1 = s.shared.requestCount + 1 := addSize_eq (by omega)
      exact ih.increment hadd (congrArg some hadd)
    | _ => exact ih.keep (by rw [hown]; rfl) rfl

/-- Every handler has returned. -/
def Quiescent (s : Threads (Fin n) (Shared n) Handler) : Prop := ∀ k, (s.own k).isFinished = true

/-- When all handlers have returned, those of the logged requests have raised the counter. -/
theorem counted_quiescent (h : (server calls).Reachable s) (hq : Quiescent s) : counted s = logging calls := by
  refine (counted_subset_logging h).antisymm fun k hk => ?_
  have hreq : (calls k).request.isCounted = true := (Finset.mem_filter.1 hk).2
  rw [Threads.mem_those]
  -- a handler that has returned without a number answered a request for statistics
  have hstats : ∀ r, s.own k = .stats r → (calls k).request.isCounted = false := by
    refine Threads.reachable_forall
      (fun _ k h => ∀ r, h = .stats r → (calls k).request.isCounted = false) ?_ ?_ ?_ h k
    · intro k r hr
      unfold startHandler at hr
      split at hr
      · rename_i hreq
        rw [hreq]
        rfl
      all_goals cases hr
    · intro k m h o m' h' hk hstep
      cases step_cases hstep with
      | @stats reader => exact fun _ _ => hk reader rfl
      | _ => exact nofun
    · intro i j m h o m' h' k hji hi hj hstep
      exact hj
  have hfin := hq k
  cases hown : s.own k with
  | responded => rfl
  | stats r =>
    rw [hstats r hown] at hreq
    cases hreq
  | _ =>
    rw [hown] at hfin
    cases hfin

/-- The numbers of `m` handlers that lie between 1 and `m` and are distinct are all of these. -/
theorem numbers_quiescent (hfit : (logging calls).card < sizeMod) (h : (server calls).Reachable s)
    (hq : Quiescent s) (c : Nat) :
    (∃ k, (s.own k).number = some c) ↔ 1 ≤ c ∧ c ≤ (logging calls).card := by
  have hnum := numbered hfit h
  have hcard : s.shared.requestCount = (logging calls).card := by
    rw [requestCount_eq_card hfit h, counted_quiescent h hq]
  constructor
  · rintro ⟨k, hk⟩
    rw [← hcard]
    exact hnum.bound k c hk
  · intro hc
    -- the map from the handlers to their numbers is injective into a set of the same size
    have hsome : ∀ k ∈ logging calls, ∃ c, (s.own k).number = some c := by
      intro k hk
      rw [← counted_quiescent h hq, Threads.mem_those] at hk
      exact Option.isSome_iff_exists.1 hk
    have himage : (logging calls).image (fun k => ((s.own k).number).getD 0) = Finset.Icc 1 (logging calls).card := by
      apply Finset.eq_of_subset_of_card_le
      · intro c hc
        obtain ⟨k, hk, rfl⟩ := Finset.mem_image.1 hc
        obtain ⟨c, hkc⟩ := hsome k hk
        rw [hkc, Option.getD_some, Finset.mem_Icc, ← hcard]
        exact hnum.bound k c hkc
      · rw [Finset.card_image_of_injOn, Nat.card_Icc, Nat.add_sub_cancel]
        intro i hi j hj hij
        obtain ⟨ci, hci⟩ := hsome i hi
        obtain ⟨cj, hcj⟩ := hsome j hj
        simp only [hci, hcj, Option.getD_some] at hij
        exact hnum.distinct i j ci hci (hij ▸ hcj)
    obtain ⟨k, hk, hkc⟩ := Finset.mem_image.1 (himage ▸ Finset.mem_Icc.2 hc)
    obtain ⟨c', hc'⟩ := hsome k hk
    rw [hc', Option.getD_some] at hkc
    exact ⟨k, hkc ▸ hc'⟩

/-! ## The totals -/

/-- The handler and the total of a POST line. -/
def Line.postEntry : Line n → Option (Fin n × Nat)
  | .post k _ _ total => some (k, total)
  | .get _ _ => none

/-- The POST lines of a log, in print order. -/
def postEntries (log : List (Line n)) : List (Fin n × Nat) := log.filterMap Line.postEntry

/-- The total `t` is the sum of the bodies of a set of POSTs that contains `k` and the POSTs of the
lines `before`. -/
def SumsFor (calls : Fin n → Call) (before : List (Fin n × Nat)) (k : Fin n) (t : Nat) : Prop :=
  ∃ posts : Finset (Fin n), (∀ i ∈ posts, (calls i).isPost = true) ∧ k ∈ posts ∧ (∀ e ∈ before, e.1 ∈ posts) ∧
    t = ∑ i ∈ posts, (calls i).bodySize

/-- The POST lines of a log show totals that never decrease and that are such sums. -/
structure LogOrdered (calls : Fin n → Call) (entries : List (Fin n × Nat)) : Prop where
  ordered : (entries.map Prod.snd).Pairwise (· ≤ ·)
  sums : ∀ before k t after, entries = before ++ (k, t) :: after → SumsFor calls before k t

/-- One more line with a total that is not below the earlier ones. -/
theorem LogOrdered.snoc {entries : List (Fin n × Nat)} (h : LogOrdered calls entries) {k : Fin n} {t : Nat}
    (hle : ∀ e ∈ entries, e.2 ≤ t) (hsum : SumsFor calls entries k t) : LogOrdered calls (entries ++ [(k, t)]) := by
  constructor
  · rw [List.map_append, List.pairwise_append]
    refine ⟨h.ordered, List.pairwise_singleton _ _, ?_⟩
    intro a ha b hb
    obtain ⟨e, he, rfl⟩ := List.mem_map.1 ha
    obtain rfl := List.mem_singleton.1 hb
    exact hle e he
  · intro before j u after heq
    rcases List.eq_nil_or_concat after with rfl | ⟨init, last, rfl⟩
    · obtain ⟨hbefore, hlast⟩ := List.append_inj' heq rfl
      subst hbefore
      cases hlast
      exact hsum
    · rw [List.concat_eq_append, ← List.cons_append, ← List.append_assoc] at heq
      obtain ⟨heq, -⟩ := List.append_inj' heq rfl
      exact h.sums before j u init heq

/-- The invariant of the log: whoever has printed has been added, no total of a line exceeds the
current one, and a handler that has loaded its total can print it as the next line. -/
structure LogInv (calls : Fin n → Call) (s : Threads (Fin n) (Shared n) Handler) : Prop where
  printed : ∀ e ∈ postEntries s.shared.log, e.1 ∈ added calls s
  bounded : ∀ e ∈ postEntries s.shared.log, e.2 ≤ s.shared.totalReceivedBytes
  loaded : ∀ k count t, s.own k = .loaded count t →
    k ∈ added calls s ∧ t ≤ s.shared.totalReceivedBytes ∧ (∀ e ∈ postEntries s.shared.log, e.2 ≤ t) ∧
      SumsFor calls (postEntries s.shared.log) k t
  log : LogOrdered calls (postEntries s.shared.log)

/-- Below its wrap `total_received_bytes` is the sum of the bodies that have been added. -/
theorem totalReceivedBytes_eq_sum (hfit : ∑ k, (calls k).bodySize < sizeMod) (h : (server calls).Reachable s) :
    s.shared.totalReceivedBytes = ∑ k ∈ added calls s, (calls k).bodySize := by
  have hle : ∑ k ∈ added calls s, (calls k).bodySize ≤ ∑ k, (calls k).bodySize :=
    Finset.sum_le_univ_sum_of_nonneg fun _ => Nat.zero_le _
  rw [totalReceivedBytes_eq h, Nat.mod_eq_of_lt (by omega)]

/-- A step that prints no POST line and after which no other handler has loaded its total keeps the
invariant when the memory keeps its POST lines. -/
theorem LogInv.keep (hs : LogInv calls s) {k : Fin n} {m : Shared n} {h : Handler}
    (hlog : postEntries m.log = postEntries s.shared.log)
    (htotal : s.shared.totalReceivedBytes ≤ m.totalReceivedBytes) (hadded : added calls s ⊆ added calls (s.advance k m h))
    (hload : ∀ count t, h = .loaded count t → k ∈ added calls s ∧ t = s.shared.totalReceivedBytes ∧
      SumsFor calls (postEntries s.shared.log) k t) :
    LogInv calls (s.advance k m h) where
  printed := by
    rw [Threads.advance_shared, hlog]
    exact fun e he => hadded (hs.printed e he)
  bounded := by
    rw [Threads.advance_shared, hlog]
    exact fun e he => (hs.bounded e he).trans htotal
  loaded := by
    intro j count t hj
    rw [Threads.advance_shared, hlog]
    by_cases hjk : j = k
    · subst hjk
      rw [Threads.advance_own_self] at hj
      obtain ⟨hin, rfl, hsum⟩ := hload count t hj
      exact ⟨hadded hin, htotal, hs.bounded, hsum⟩
    · rw [Threads.advance_own_of_ne _ hjk] at hj
      obtain ⟨hin, hle, hall, hsum⟩ := hs.loaded j count t hj
      exact ⟨hadded hin, hle.trans htotal, hall, hsum⟩
  log := by
    rw [Threads.advance_shared, hlog]
    exact hs.log

/-- The holder of the lock prints the line with the total it has loaded. -/
theorem LogInv.print (hs : LogInv calls s) (hreach : (server calls).Reachable s) {k : Fin n}
    {body : List UInt8} {count t : Nat} (hown : s.own k = .loaded count t)
    (hadded : added calls s ⊆ added calls
      (s.advance k { s.shared with log := s.shared.log ++ [.post k count body.length t] } (.printed count))) :
    LogInv calls (s.advance k { s.shared with log := s.shared.log ++ [.post k count body.length t] } (.printed count)) := by
  obtain ⟨hin, hle, hall, hsum⟩ := hs.loaded k count t hown
  have hlog : postEntries (s.shared.log ++ [.post k count body.length t]) =
      postEntries s.shared.log ++ [(k, t)] := by
    simp [postEntries, Line.postEntry]
  constructor
  · rw [Threads.advance_shared, hlog]
    intro e he
    rcases List.mem_append.1 he with he | he
    · exact hadded (hs.printed e he)
    · obtain rfl := List.mem_singleton.1 he
      exact hadded hin
  · rw [Threads.advance_shared, hlog]
    intro e he
    rcases List.mem_append.1 he with he | he
    · exact hs.bounded e he
    · obtain rfl := List.mem_singleton.1 he
      exact hle
  · -- no other handler is between its load and its line
    intro j count' t' hj
    have hjk : j = k := by
      by_contra hne
      rw [Threads.advance_own_of_ne _ hne] at hj
      exact hne (mutual_exclusion hreach (by rw [hj]; rfl) (by rw [hown]; rfl))
    subst hjk
    rw [Threads.advance_own_self] at hj
    cases hj
  · rw [Threads.advance_shared, hlog]
    exact hs.log.snoc hall hsum

theorem logInv (hfit : ∑ k, (calls k).bodySize < sizeMod) (h : (server calls).Reachable s) : LogInv calls s := by
  obtain ⟨as, h⟩ := h
  refine Machine.historyInv (fun _ s => LogInv calls s) ?_ ?_ h
  · refine ⟨fun e he => ?_, fun e he => ?_, fun k count t hk => ?_, List.Pairwise.nil, fun before k t after heq => ?_⟩
    · cases he
    · cases he
    · rcases startHandler_cases calls k with h | h <;> cases h.symm.trans hk
    · simp [postEntries, server, Threads.interleave, startShared] at heq
  · rintro as s ⟨k, o⟩ s' hs ih hn
    have hreach : (server calls).Reachable s := ⟨as, hs⟩
    have hreach' : (server calls).Reachable s' := ⟨as ++ [(k, o)], Machine.exec_snoc.2 ⟨s, hs, hn⟩⟩
    have hadded : added calls s ⊆ added calls s' := tracks_totalReceivedBytes.mono hn
    have htotal : s.shared.totalReceivedBytes ≤ s'.shared.totalReceivedBytes := by
      rw [totalReceivedBytes_eq_sum hfit hreach, totalReceivedBytes_eq_sum hfit hreach']
      exact Finset.sum_le_sum_of_subset hadded
    obtain ⟨m, h', hstep, rfl⟩ := Threads.next_eq_some.1 hn
    generalize hown : s.own k = h at hstep
    cases step_cases hstep with
    | @load body count hreq =>
      -- the total is the sum over all POSTs added so far
      have hin : k ∈ added calls s := by
        rw [Threads.mem_those, hown, (isPost_of_receiveData hreq).1]
        rfl
      refine ih.keep rfl htotal hadded fun count' t ht => ?_
      cases ht
      refine ⟨hin, rfl, added calls s, fun i hi => ?_, hin, ih.printed, totalReceivedBytes_eq_sum hfit hreach⟩
      rw [Threads.mem_those, Bool.and_eq_true] at hi
      exact hi.1
    | printPost hreq => exact ih.print hreach hown hadded
    | printGet hreq =>
      refine ih.keep (by simp [postEntries, Line.postEntry]) htotal hadded fun count t ht => ?_
      cases ht
    | _ =>
      refine ih.keep rfl htotal hadded fun count t ht => ?_
      cases ht

/-- When all handlers have returned, every POST has been added. -/
theorem totalReceivedBytes_quiescent (hfit : ∑ k, (calls k).bodySize < sizeMod)
    (h : (server calls).Reachable s) (hq : Quiescent s) :
    s.shared.totalReceivedBytes = ∑ k, (calls k).bodySize := by
  rw [totalReceivedBytes_eq_sum hfit h]
  apply Finset.sum_subset (Finset.subset_univ _)
  intro k _ hk
  rw [Threads.mem_those, Bool.and_eq_true, not_and] at hk
  -- a handler that has returned without adding is not that of a POST
  unfold Call.bodySize
  cases hreq : (calls k).request with
  | largeData | requestStats => rfl
  | receiveData body =>
    have hlog : k ∈ counted s := by
      rw [counted_quiescent h hq]
      refine Finset.mem_filter.2 ⟨Finset.mem_univ k, ?_⟩
      rw [hreq]
      rfl
    rw [Threads.mem_those] at hlog
    have hfin := hq k
    have hnot := hk (isPost_of_receiveData hreq).1
    cases hown : s.own k with
    | responded => exact absurd (by rw [hown]; rfl) hnot
    | stats r =>
      rw [hown] at hlog
      cases hlog
    | _ =>
      rw [hown] at hfin
      cases hfin

/-! ## The request log -/

/-- The handler that printed a line. -/
def Line.handler : Line n → Fin n
  | .post k _ _ _ | .get k _ => k

/-- The number that a line shows. -/
def Line.number : Line n → Nat
  | .post _ count _ _ | .get _ count => count

/-- Every line shows the number that its handler obtained. -/
theorem line_number (h : (server calls).Reachable s) :
    ∀ line ∈ s.shared.log, (s.own line.handler).number = some line.number := by
  refine Machine.inv (fun s => ∀ line ∈ s.shared.log, (s.own line.handler).number = some line.number)
    nofun ?_ h
  rintro s ⟨k, o⟩ s' ih hn line hline
  obtain ⟨m, h', hstep, rfl⟩ := Threads.next_eq_some.1 hn
  -- a handler that has a number keeps it
  have hkeep : ∀ c, (s.own k).number = some c → h'.number = some c := by
    intro c hc
    generalize s.own k = h at hstep hc
    cases step_cases hstep with
    | increment | stats => cases hc
    | _ => exact hc
  have hold : line ∈ s.shared.log → ((s.advance k m h').own line.handler).number = some line.number := by
    intro hmem
    have hnum := ih line hmem
    by_cases hk : line.handler = k
    · rw [hk] at hnum
      rw [hk, Threads.advance_own_self]
      exact hkeep _ hnum
    · rwa [Threads.advance_own_of_ne _ hk]
  generalize s.own k = h at hstep
  cases step_cases hstep with
  | printPost | printGet =>
    rcases List.mem_append.1 hline with hmem | hmem
    · exact hold hmem
    · obtain rfl := List.mem_singleton.1 hmem
      simp only [Line.handler, Threads.advance_own_self]
      rfl
  | _ => exact hold hline

/-- What the request log of a state promises: the numbers obtained are distinct and are those the lines
show, the POST lines are in the order of their totals, and once every handler has returned the numbers
are `1..m` for the `m` handlers that take one and the total is the sum of all bodies. -/
structure RequestLog (calls : Fin n → Call) (s : Threads (Fin n) (Shared n) Handler) : Prop where
  distinct : ∀ i j c, (s.own i).number = some c → (s.own j).number = some c → i = j
  shown : ∀ line ∈ s.shared.log, (s.own line.handler).number = some line.number
  numbers : Quiescent s → ∀ c, (∃ k, (s.own k).number = some c) ↔ 1 ≤ c ∧ c ≤ (logging calls).card
  log : LogOrdered calls (postEntries s.shared.log)
  total : Quiescent s → s.shared.totalReceivedBytes = ∑ k, (calls k).bodySize

/-- The request log is right in every reachable state, for any number of handlers and any bodies, as
long as the counters stay below their wrap. -/
theorem request_log (calls : Fin n → Call) (hcount : (logging calls).card < sizeMod)
    (hbytes : ∑ k, (calls k).bodySize < sizeMod) (s : Threads (Fin n) (Shared n) Handler)
    (h : (server calls).Reachable s) : RequestLog calls s where
  distinct := (numbered hcount h).distinct
  shown := line_number h
  numbers hq := numbers_quiescent hcount h hq
  log := (logInv hbytes h).log
  total hq := totalReceivedBytes_quiescent hbytes h hq

/-- Two uploads of three and two bytes and a download. -/
def threeCalls : Fin 3 → Call
  | 0 => ⟨.receiveData [65, 66, 67], "127.0.0.1", 50001⟩
  | 1 => ⟨.receiveData [65, 66], "127.0.0.1", 50002⟩
  | 2 => ⟨.largeData, "127.0.0.1", 50003⟩

/-- A schedule in which the second upload takes the lock first. -/
def threeSchedule : List (Fin 3 × Op) :=
  [(0, .increment), (1, .increment), (1, .add), (1, .lock), (1, .load), (2, .increment), (0, .add), (1, .print),
    (1, .unlock), (2, .lock), (2, .print), (2, .unlock), (0, .lock), (0, .load), (0, .print), (0, .unlock),
    (0, .respond), (1, .respond), (2, .respond)]

/-- The lines come in the order 2, 3, 1 of their numbers and the totals in the order 2, 5. -/
theorem request_log_three : ∃ s, (server threeCalls).run threeSchedule = some s ∧
    (s.shared.log.map Line.number = [2, 3, 1] ∧ postEntries s.shared.log = [(1, 2), (0, 5)]) ∧
    RequestLog threeCalls s := by
  have hrun : ((server threeCalls).run threeSchedule).any (fun s => decide
      (s.shared.log.map Line.number = [2, 3, 1] ∧ postEntries s.shared.log = [(1, 2), (0, 5)])) = true := by
    decide +kernel
  obtain ⟨s, hs, hp⟩ := Machine.exists_run hrun
  exact ⟨s, hs, of_decide_eq_true hp, request_log threeCalls (by decide) (by decide) s ⟨_, hs⟩⟩

end HttpSurvey.Httplib.Handlers
