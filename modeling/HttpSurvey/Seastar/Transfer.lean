/-
The transfer from the server to the client, over every way in which the connection may cut it.

After any buffers that leave the loop running the client is at the condition of the loop, with the two
counters that `progress` computes and the lines that `dataLines` gives (`run_test`); the counters are a
`Meter` (`progress_eq`). When the buffers are a cut of what `handle_connection` writes, the loop takes
all of them and stops. When the connection ends before `DATA_SIZE` bytes the reads go on giving empty
buffers and the loop goes on reading them: it ends exactly when `DATA_SIZE` bytes were sent
(`finishes_iff`).
-/
import HttpSurvey.Lib.Meter
import HttpSurvey.Seastar.Client

namespace HttpSurvey.Seastar.Client

open HttpSurvey.Lib HttpSurvey.Lib.Async

/-- A read gives a buffer. -/
def readEvent (b : Buffer) : Event ClientOp ClientOp.Result String := ⟨.read, .ok b⟩

/-- What the client logs before the loop. -/
def header : List String := ["Successfully connected to server", "Starting to receive data..."]

/-- The counters and the log after some buffers. -/
def after (bs : List Buffer) : Progress × List String :=
  bs.foldl (fun s b => (receive s.1 b, s.2 ++ dataLines s.1 b)) (⟨0, 0⟩, header)

/-- The counters after some buffers. -/
def progress (bs : List Buffer) : Progress := (after bs).1

/-- The number of bytes in some buffers. -/
def total (bs : List Buffer) : Nat := (bs.map Buffer.size).sum

theorem after_snoc (bs : List Buffer) (b : Buffer) :
    after (bs ++ [b]) = (receive (progress bs) b, (after bs).2 ++ dataLines (progress bs) b) := by
  unfold after
  rw [List.foldl_append]
  rfl

theorem total_snoc (bs : List Buffer) (b : Buffer) : total (bs ++ [b]) = total bs + b.size := by
  simp [total]

/-! ## The client at the condition of its loop -/

/-- Once connected the client evaluates the condition of the loop, before any buffer. -/
theorem run_connected :
    ∃ k, AfterLoop k ∧ client.run [connected] = some (program.test header ⟨0, 0⟩ k) := by
  obtain ⟨k, hf, -, hk⟩ := clientConnect_waits
  have hinit : client.init = ⟨.main clientConnect, []⟩ :=
    Looping.settle_waits (L := program) hf []
  have hc : client.init.control = .main clientConnect := by rw [hinit]
  obtain ⟨k', hf', hlines, hk'⟩ := hk.ok
  refine ⟨k', hk', Machine.exec_cons.2 ⟨_, Looping.next_main hc hf (.ok ()), ?_⟩⟩
  rw [Looping.settle_loop hf', hlines, hinit]
  rfl

theorem test_of_not_received {log : List String} {st : Progress} (h : received st = false)
    (k : Except String Progress → Future) : program.test log st k = ⟨.loop (body st) k, log⟩ := by
  unfold Looping.test
  change (if received st = true then _ else (⟨.loop (body st) k, log ++ []⟩ : Process _ _ _ _ _)) = _
  rw [h, List.append_nil]
  rfl

/-- In the loop the client waits for a read only. -/
theorem next_loop_other {log : List String} {st : Progress} (k : Except String Progress → Future)
    {e : Event ClientOp ClientOp.Result String} (h : e.op ≠ .read) :
    client.next ⟨.loop (body st) k, log⟩ e = none := by
  obtain ⟨k', hf⟩ : ∃ k', (body st).front = .waits ClientOp.read k' := ⟨_, rfl⟩
  exact Looping.next_loop_ne (L := program) (s := ⟨.loop (body st) k, log⟩) rfl hf h

/-- A buffer takes the client from the condition of the loop back to it. -/
theorem next_test {log : List String} {st : Progress} (h : received st = false)
    (k : Except String Progress → Future) (b : Buffer) :
    client.next (program.test log st k) (readEvent b) =
      some (program.test (log ++ dataLines st b) (receive st b) k) := by
  obtain ⟨k', hf, hok⟩ : ∃ k' : Except String Buffer → BodyFuture,
      (body st).front = .waits ClientOp.read k' ∧ k' (.ok b) = onData st b := ⟨_, rfl, rfl⟩
  obtain ⟨hready, hlines⟩ := onData_eq st b
  have hnext := Looping.next_loop (L := program) (s := ⟨.loop (body st) k, log⟩) rfl hf (.ok b)
  rw [hok, Looping.proceed_ready hready, hlines] at hnext
  rw [test_of_not_received h]
  exact hnext

/-- After buffers that leave the loop running, up to the last one, the client evaluates the condition. -/
theorem run_test {bs : List Buffer} (h : ∀ cs, cs <+: bs → cs ≠ bs → received (progress cs) = false) :
    ∃ k, AfterLoop k ∧
      client.run (connected :: bs.map readEvent) = some (program.test (after bs).2 (progress bs) k) := by
  induction bs using List.reverseRecOn with
  | nil => exact run_connected
  | append_singleton bs b ih =>
    have hbefore : ∀ cs, cs <+: bs → cs ≠ bs → received (progress cs) = false := by
      intro cs hcs hne
      refine h cs (hcs.trans (List.prefix_append _ _)) ?_
      rintro rfl
      have hle := hcs.length_le
      simp at hle
    obtain ⟨k, hk, hrun⟩ := ih hbefore
    refine ⟨k, hk, ?_⟩
    rw [List.map_append, ← List.cons_append]
    refine Machine.exec_snoc.2 ⟨_, hrun, ?_⟩
    have hlast : received (progress bs) = false := h bs (List.prefix_append _ _) (by simp)
    rw [next_test hlast, after_snoc, progress.eq_def (bs ++ [b]), after_snoc]

/-- Past the loop the client closes its two streams, and its future is ready. -/
theorem run_closing {k : Except String Progress → Future} (hk : AfterLoop k) (log : List String) {st : Progress}
    (h : received st = true) :
    ∃ s, client.exec (program.test log st k) [⟨.closeOut, .ok ()⟩, ⟨.closeIn, .ok ()⟩] = some s ∧
      Looping.outcome s.control = some (.ready ()) := by
  have hsim := sim_test hk log st
  unfold Receiver.test at hsim
  rw [if_pos h] at hsim
  have hrel := Machine.exec_rel (M := client) (N := receiver) Sim (fun _ _ e h => sim_next h e)
    [⟨.closeOut, .ok ()⟩, ⟨.closeIn, .ok ()⟩] _ _ hsim
  obtain ⟨s, hs, hend⟩ : ∃ s, client.exec (program.test log st k) [⟨.closeOut, .ok ()⟩, ⟨.closeIn, .ok ()⟩] =
      some s ∧ Sim s ⟨.resolved, log ++ completionLines st ++ ["Closing input..."]⟩ := by
    generalize client.exec _ _ = o at hrel
    cases hrel with
    | some hend => exact ⟨_, rfl, hend⟩
  exact ⟨s, hs, (outcome_eq_some hend).2 ⟨rfl, rfl⟩⟩

/-! ## The counters as a meter -/

/-- What a meter with the client's interval shows after some buffers. -/
def meter (bs : List Buffer) : Meter := Meter.feed LOG_INTERVAL (bs.map Buffer.size)

theorem meter_snoc (bs : List Buffer) (b : Buffer) :
    meter (bs ++ [b]) = (meter bs).add LOG_INTERVAL b.size := by
  unfold meter
  rw [List.map_append]
  exact Meter.feed_snoc _ _ _

theorem meter_total (bs : List Buffer) : (meter bs).total = total bs := Meter.feed_total _ _

theorem meter_sound (bs : List Buffer) : (meter bs).Sound LOG_INTERVAL := Meter.sound_feed (by decide) _

/-- The counters that a meter stands for. -/
def ofMeter (m : Meter) : Progress := ⟨m.total, m.last⟩

/-- The sum and the difference that the code takes for `n` more bytes. -/
theorem counters_ofMeter {m : Meter} (hm : m.Sound LOG_INTERVAL) {n : Nat} (h : m.total + n < sizeMod) :
    addSize (ofMeter m).totalReceived n = m.total + n ∧
      subSize (m.total + n) (ofMeter m).lastLogged = m.total + n - m.last := by
  have hlast : m.last ≤ m.total + n := hm.last_le.trans (Nat.le_add_right _ _)
  exact ⟨addSize_eq h, subSize_eq h hlast⟩

/-- Where nothing wraps, a buffer feeds the meter. -/
theorem receive_ofMeter {m : Meter} (hm : m.Sound LOG_INTERVAL) {b : Buffer} (h : m.total + b.size < sizeMod) :
    receive (ofMeter m) b = ofMeter (m.add LOG_INTERVAL b.size) := by
  obtain ⟨hsum, hsub⟩ := counters_ofMeter hm h
  unfold receive
  by_cases h0 : b.size = 0
  · rw [if_pos h0, h0, hm.add_zero]
  · rw [if_neg h0]
    simp only [hsum, hsub]
    unfold Meter.add
    split <;> rfl

theorem progress_eq {bs : List Buffer} (h : total bs < sizeMod) : progress bs = ofMeter (meter bs) := by
  induction bs using List.reverseRecOn with
  | nil => rfl
  | append_singleton bs b ih =>
    rw [total_snoc] at h
    rw [progress, after_snoc, meter_snoc, ih (by omega)]
    exact receive_ofMeter (meter_sound bs) (by rw [meter_total]; exact h)

theorem progress_total {bs : List Buffer} (h : total bs < sizeMod) : (progress bs).totalReceived = total bs := by
  rw [progress_eq h]
  exact meter_total bs

theorem received_iff {bs : List Buffer} (h : total bs < sizeMod) :
    received (progress bs) = true ↔ DATA_SIZE ≤ total bs := by
  unfold received
  rw [progress_total h, decide_eq_true_iff]

theorem total_mono {bs cs : List Buffer} (h : cs <+: bs) : total cs ≤ total bs := by
  obtain ⟨ds, rfl⟩ := h
  simp [total]

/-! ## The whole payload -/

/-- What holds of the counters at an evaluation of the condition. -/
structure Progress.Sound (st : Progress) : Prop where
  logged_le : st.lastLogged ≤ st.totalReceived
  since_lt : st.totalReceived - st.lastLogged < LOG_INTERVAL
  product_lt : st.totalReceived * 100 < sizeMod

theorem product_lt {n : Nat} (h : n ≤ DATA_SIZE) : n * 100 < sizeMod := by
  have hsize : DATA_SIZE * 100 < sizeMod := by decide
  omega

theorem total_lt {bs : List Buffer} (h : total bs ≤ DATA_SIZE) : total bs < sizeMod :=
  lt_of_le_of_lt h (by decide)

theorem not_received {bs : List Buffer} (h : total bs < DATA_SIZE) : received (progress bs) = false := by
  rw [← Bool.not_eq_true, received_iff (total_lt h.le)]
  exact Nat.not_le.2 h

section Cut

variable {buffers bs : List Buffer} (htotal : total buffers = DATA_SIZE) (hne : ∀ b ∈ buffers, b.data ≠ [])

end Cut

/-- What the first `n` reads give when the connection gives the buffers `sent` and then has ended. -/
def delivered (sent : List Buffer) (n : Nat) : List Buffer := (List.range n).map fun i => sent.getD i .empty

theorem delivered_succ (sent : List Buffer) (n : Nat) :
    delivered sent (n + 1) = delivered sent n ++ [sent.getD n .empty] := by
  unfold delivered
  rw [List.range_succ, List.map_append]
  rfl

theorem total_delivered (sent : List Buffer) (n : Nat) : total (delivered sent n) = total (sent.take n) := by
  induction n with
  | zero => rfl
  | succ n ih =>
    rw [delivered_succ, total_snoc, ih, List.take_add_one, List.getD_eq_getElem?_getD]
    cases sent[n]? with
    | none => simp [Buffer.size, Buffer.empty]
    | some b => simp [total]

/-- The client ends on a connection that gives the buffers `sent` and then has ended: after some number
of reads it closes both streams, and its future is ready. -/
def Finishes (sent : List Buffer) : Prop :=
  ∃ n s, client.run (connected :: (delivered sent n).map readEvent ++
      [⟨.closeOut, .ok ()⟩, ⟨.closeIn, .ok ()⟩]) = some s ∧
    Looping.outcome s.control = some (.ready ())

/-- With fewer than `DATA_SIZE` bytes the condition of the loop is false after any number of reads, and
the client waits for another one. -/
theorem not_finishes {sent : List Buffer} (h : total sent < DATA_SIZE) : ¬Finishes sent := by
  rintro ⟨n, s, hrun, -⟩
  have hdelivered : total (delivered sent n) < DATA_SIZE := by
    rw [total_delivered]
    exact lt_of_le_of_lt (total_mono (List.take_prefix n sent)) h
  have hreceived : ∀ cs, cs <+: delivered sent n → received (progress cs) = false := fun cs hcs =>
    not_received (lt_of_le_of_lt (total_mono hcs) hdelivered)
  obtain ⟨k, -, hloop⟩ := run_test fun cs hcs _ => hreceived cs hcs
  obtain ⟨u, hu, hclose⟩ := Machine.exec_append.1 hrun
  rw [Machine.run] at hloop
  rw [hloop, test_of_not_received (hreceived _ (List.prefix_refl _))] at hu
  cases hu
  obtain ⟨v, hv, -⟩ := Machine.exec_cons.1 hclose
  cases (next_loop_other k (by simp)).symm.trans hv

/-- With `DATA_SIZE` bytes or more the read that reaches them ends the loop. -/
theorem finishes {sent : List Buffer} (h : DATA_SIZE ≤ total sent) : Finishes sent := by
  have hsome : ∃ n, DATA_SIZE ≤ total (delivered sent n) :=
    ⟨sent.length, by rwa [total_delivered, List.take_length]⟩
  obtain ⟨hreached, hleast⟩ := And.intro (Nat.find_spec hsome) fun m => Nat.find_min hsome (m := m)
  generalize Nat.find hsome = n at hreached hleast
  cases n with
  | zero => exact absurd hreached (show ¬DATA_SIZE ≤ 0 by decide)
  | succ n =>
    have hbefore : total (delivered sent n) < DATA_SIZE := Nat.not_le.1 (hleast n (Nat.lt_succ_self n))
    rw [delivered_succ] at hreached
    obtain ⟨b, hb⟩ : ∃ b, b = sent.getD n .empty := ⟨_, rfl⟩
    rw [← hb] at hreached
    have hlt : total (delivered sent n ++ [b]) < sizeMod := by
      have hfits := b.fits
      have hsize : DATA_SIZE + 2 ^ 63 < sizeMod := by decide
      rw [total_snoc]
      unfold Buffer.size
      omega
    have hloop : ∀ cs, cs <+: delivered sent n ++ [b] → cs ≠ delivered sent n ++ [b] →
        received (progress cs) = false := by
      intro cs hcs hne
      have hcs' : cs <+: delivered sent n := by
        rcases List.prefix_concat_iff.1 hcs with rfl | hcs
        · exact absurd rfl hne
        · exact hcs
      exact not_received (lt_of_le_of_lt (total_mono hcs') hbefore)
    obtain ⟨k, hk, hrun⟩ := run_test hloop
    obtain ⟨s, hs, hout⟩ := run_closing hk (after (delivered sent n ++ [b])).2
      ((received_iff hlt).2 hreached)
    refine ⟨n + 1, s, Machine.exec_append.2 ⟨_, ?_, hs⟩, hout⟩
    rw [delivered_succ, ← hb]
    exact hrun

/-- The client ends exactly when the connection gave `DATA_SIZE` bytes before it ended. -/
theorem finishes_iff (sent : List Buffer) : Finishes sent ↔ DATA_SIZE ≤ total sent := by
  constructor
  · intro h
    by_contra hlt
    exact not_finishes (Nat.not_le.1 hlt) h
  · exact finishes

/-- One byte, and the connection ends. -/
theorem one_byte_never_finishes : ¬Finishes [⟨['A'], by decide⟩] := not_finishes (by decide)

end HttpSurvey.Seastar.Client
