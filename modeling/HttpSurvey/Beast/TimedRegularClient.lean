/-
`regular_beast_client` with its clock: `send_request` and `main` with each reading of `steady_clock`
where the source takes it, `clock k` being the reading number `k` of a run. A call of `send_request` may
be left by an exception between any two of its six readings.

The windows from `write_start` to `read_end` of the calls that do not fail follow one another between
`client_start` and `client_end` (`sequential_measured`), so the durations, each truncated to
milliseconds, add up to `total_time` at most (`timing_report_bounded`).
-/
import HttpSurvey.Beast.Arguments
import HttpSurvey.Beast.Summary
import HttpSurvey.Lib.Clock

namespace HttpSurvey.Beast.Client

open HttpSurvey.Lib

/-- What the operations of one call of `send_request` come to, as in `Attempt`. -/
structure Operations where
  resolve : Except String Unit
  connect : Except String Unit
  prepare : Except String Unit
  write : Except String Unit
  read : Except String Response
  report : Except String Unit

/-- The call with the two readings that its duration is made of. -/
def Operations.measured (o : Operations) (writeStart readEnd : Int) : Attempt :=
  { resolve := o.resolve
    connect := o.connect
    prepare := o.prepare
    write := o.write
    read := o.read
    report := o.report
    writeStart := writeStart
    readEnd := readEnd }

/-- The call fails, whatever its readings. -/
def Operations.fails (o : Operations) : Bool := (o.measured 0 0).fails

theorem Operations.fails_measured (o : Operations) (writeStart readEnd : Int) :
    (o.measured writeStart readEnd).fails = o.fails := by
  obtain ⟨resolve, connect, prepare, write, read, report⟩ := o
  cases resolve <;> cases connect <;> cases prepare <;> cases write <;> cases read <;> cases report <;> rfl

namespace Regular.Timed

/-! ## The program -/

section Program

variable (clock : Nat → Int) (size : UInt64)

/-- `send_request` with its readings of the clock. -/
def sendRequest (o : Operations) : EStateM String Nat Stats := do
  perform o.resolve
  let _connectStart ← now clock
  perform o.connect
  let _connectEnd ← now clock
  perform o.prepare
  let writeStart ← now clock
  perform o.write
  let _writeEnd ← now clock
  let _readStart ← now clock
  let _res ← perform o.read
  let readEnd ← now clock
  perform o.report
  return { bytesTransferred := size, duration := durationCast (readEnd - writeStart), requestsSent := 1 }

/-- `total_stats`, and the stats that have been printed for single requests. -/
structure Progress where
  totalStats : Stats
  requestStats : List Stats

/-- One iteration of the loop in `main`. -/
def iteration (p : Progress) (o : Operations) : EStateM String Nat Progress := do
  try
    let stats ← sendRequest clock size o
    pure { totalStats := p.totalStats + stats, requestStats := p.requestStats ++ [stats] }
  catch _ =>
    pure p

/-- `main` from `client_start` on: what it has printed for single requests, and its final statistics.
`operations` says what request `i` comes to. -/
def main (config : Config) (operations : Fin config.requestsCount.val.toNat → Operations) :
    EStateM String Nat (List Stats × Summary) := do
  let size := UInt64.ofNat (payloadLength config.dataSizeMb)
  let clientStart ← now clock
  let p ← (List.ofFn operations).foldlM (iteration clock size) { totalStats := 0, requestStats := [] }
  let clientEnd ← now clock
  return (p.requestStats, { totalStats := p.totalStats, totalTime := durationCast (clientEnd - clientStart) })

end Program

/-! ## What a call does -/

/-- How often the call reads the clock. -/
def readings (o : Operations) : Nat :=
  match o.resolve, o.connect, o.prepare, o.write, o.read with
  | .error _, _, _, _, _ => 0
  | .ok _, .error _, _, _, _ => 1
  | .ok _, .ok _, .error _, _, _ => 2
  | .ok _, .ok _, .ok _, .error _, _ => 3
  | .ok _, .ok _, .ok _, .ok _, .error _ => 5
  | .ok _, .ok _, .ok _, .ok _, .ok _ => 6

variable (clock : Nat → Int) (size : UInt64)

/-- The result of a call, with the position that it leaves the clock at. -/
def outcome (x : Except String Stats) (n : Nat) : EStateM.Result String Nat Stats :=
  match x with
  | .ok stats => .ok stats n
  | .error what => .error what n

/-- A call that starts at reading `n` is the exchange whose duration goes from reading `n + 2` to
reading `n + 5`. -/
theorem sendRequest_run (o : Operations) (n : Nat) :
    sendRequest clock size o n =
      outcome (Regular.sendRequest size (o.measured (clock (n + 2)) (clock (n + 5)))) (n + readings o) := by
  obtain ⟨resolve, connect, prepare, write, read, report⟩ := o
  cases resolve with
  | error what => rfl
  | ok =>
    cases connect with
    | error what => rfl
    | ok =>
      cases prepare with
      | error what => rfl
      | ok =>
        cases write with
        | error what => rfl
        | ok =>
          cases read with
          | error what => rfl
          | ok res =>
            cases report with
            | error what => rfl
            | ok => rfl

/-- A call that does not fail has taken all its readings. -/
theorem readings_of_not_fails {o : Operations} {writeStart readEnd : Int}
    (h : (o.measured writeStart readEnd).fails = false) : readings o = 6 := by
  obtain ⟨resolve, connect, prepare, write, read, report⟩ := o
  unfold Attempt.fails exchange Operations.measured at h
  unfold readings
  cases resolve <;> cases connect <;> cases prepare <;> cases write <;> cases read <;> first | rfl | cases h

/-- The line printed for a call that does not fail. -/
def printed (size : UInt64) (a : Attempt) : List Stats := if a.fails then [] else [Concurrent.sendRequest size a]

/-- An iteration is that of the loop without its clock, and prints the stats of a call that does not
fail. -/
theorem iteration_run (p : Progress) (o : Operations) (n : Nat) :
    iteration clock size p o n =
      .ok ⟨Regular.iteration size p.totalStats (o.measured (clock (n + 2)) (clock (n + 5))),
          p.requestStats ++ printed size (o.measured (clock (n + 2)) (clock (n + 5)))⟩ (n + readings o) := by
  have hcall := sendRequest_run clock size o n
  generalize o.measured (clock (n + 2)) (clock (n + 5)) = a at hcall
  rw [iteration, tryCatch_run, hcall]
  unfold Regular.iteration printed Concurrent.sendRequest Regular.sendRequest
  rcases exchange_cases size a with ⟨hf, what, hx⟩ | ⟨hf, hx⟩
  · rw [hx, hf]
    simp [outcome]
  · rw [hx, hf]
    simp [outcome]

/-! ## What the loop does -/

/-- The calls from reading `n` on, with their readings. -/
def measured (clock : Nat → Int) : Nat → List Operations → List Attempt
  | _, [] => []
  | n, o :: os => o.measured (clock (n + 2)) (clock (n + 5)) :: measured clock (n + readings o) os

/-- Whether a call fails does not depend on its readings. -/
theorem exists_measured_iff (clock : Nat → Int) : ∀ (os : List Operations) (n : Nat),
    (∃ a ∈ measured clock n os, a.fails = false) ↔ ∃ o ∈ os, o.fails = false
  | [], _ => by simp [measured]
  | o :: os, n => by
    rw [measured, List.exists_mem_cons_iff, List.exists_mem_cons_iff, Operations.fails_measured,
      exists_measured_iff clock os (n + readings o)]

/-- The position of the clock after the calls. -/
def positionAfter : Nat → List Operations → Nat
  | n, [] => n
  | n, o :: os => positionAfter (n + readings o) os

/-- The loop is that without the clock, over the calls with their readings. -/
theorem loop_run : ∀ (os : List Operations) (p : Progress) (n : Nat),
    os.foldlM (iteration clock size) p n =
      .ok ⟨requestLoop size p.totalStats (measured clock n os),
          p.requestStats ++ (measured clock n os).flatMap (printed size)⟩ (positionAfter n os)
  | [], p, n => by
    simp only [measured, positionAfter, List.flatMap_nil, List.append_nil]
    rfl
  | o :: os, p, n => by
    rw [List.foldlM_cons]
    change EStateM.bind (iteration clock size p o) (fun p => os.foldlM (iteration clock size) p) n = _
    unfold EStateM.bind
    rw [iteration_run]
    change os.foldlM (iteration clock size) _ (n + readings o) = _
    rw [loop_run os, measured, List.flatMap_cons, List.append_assoc]
    rfl

/-- `main` is the loop without the clock, over the calls with their readings from the second on. -/
theorem main_run (clock : Nat → Int) (config : Config)
    (operations : Fin config.requestsCount.val.toNat → Operations) :
    main clock config operations 0 =
      .ok ((measured clock 1 (List.ofFn operations)).flatMap
            (printed (UInt64.ofNat (payloadLength config.dataSizeMb))),
          ⟨requestLoop (UInt64.ofNat (payloadLength config.dataSizeMb)) 0 (measured clock 1 (List.ofFn operations)),
            durationCast (clock (positionAfter 1 (List.ofFn operations)) - clock 0)⟩)
        (positionAfter 1 (List.ofFn operations) + 1) := by
  have hloop := loop_run clock (UInt64.ofNat (payloadLength config.dataSizeMb)) (List.ofFn operations) ⟨0, []⟩ 1
  simp only [main, bind, EStateM.bind, now, pure, EStateM.pure]
  rw [hloop]
  rfl

/-- The stats printed are those of the calls that do not fail. -/
theorem printed_durations (size : UInt64) (attempts : List Attempt) :
    (attempts.flatMap (printed size)).map (·.duration) = roundtrips attempts := by
  unfold roundtrips
  induction attempts with
  | nil => rfl
  | cons a attempts ih =>
    rw [List.flatMap_cons, List.map_append, ih]
    unfold printed
    cases h : a.fails with
    | true => simp [h]
    | false =>
      rw [sendRequest_of_not_fails h]
      simp [h]

/-! ## The windows of the calls -/

/-- `write_start` and `read_end` of the calls that do not fail. -/
def windows (attempts : List Attempt) : List (Int × Int) :=
  (attempts.filter fun a => !a.fails).map fun a => (a.writeStart, a.readEnd)

theorem roundtrips_eq (attempts : List Attempt) :
    roundtrips attempts = (windows attempts).map fun w => (w.2 - w.1).tdiv 1000000 := by
  unfold roundtrips windows
  rw [List.map_map]
  rfl

theorem le_positionAfter : ∀ (os : List Operations) (n : Nat), n ≤ positionAfter n os
  | [], _ => le_rfl
  | o :: os, n => (Nat.le_add_right n (readings o)).trans (le_positionAfter os (n + readings o))

/-- The windows follow one another between the readings before and after the loop. -/
theorem sequential_measured (hclock : Monotone clock) : ∀ (os : List Operations) (n : Nat),
    Sequential (clock n) (windows (measured clock n os)) (clock (positionAfter n os))
  | [], n => le_refl (clock n)
  | o :: os, n => by
    have hrest := sequential_measured hclock os (n + readings o)
    unfold windows measured
    cases h : (o.measured (clock (n + 2)) (clock (n + 5))).fails with
    | true =>
      -- the windows of the other calls come after the readings of this one
      rw [List.filter_cons_of_neg (by simp [h])]
      exact hrest.mono_left (hclock (Nat.le_add_right n (readings o)))
    | false =>
      rw [List.filter_cons_of_pos (by simp [h]), List.map_cons]
      refine ⟨hclock (by omega), hclock (by omega), ?_⟩
      change Sequential (clock (n + 5)) (windows (measured clock (n + readings o) os))
        (clock (positionAfter (n + readings o) os))
      rw [readings_of_not_fails h] at hrest ⊢
      exact hrest.mono_left (hclock (by omega : n + 5 ≤ n + 6))

/-! ## The report -/

/-- For every clock that does not go back and whatever the requests come to: the durations printed for
the requests add up to the total duration, which is at most the total time; so the efficiency is between
0 and 100 percent, and the average request time no less than the mean of the durations. -/
theorem timing_report_bounded (clock : Nat → Int) (hclock : Monotone clock) (config : Config)
    (operations : Fin config.requestsCount.val.toNat → Operations) :
    ∃ requestStats summary n, main clock config operations 0 = .ok (requestStats, summary) n ∧
      summary.totalStats.duration = (requestStats.map (·.duration)).sum ∧
      summary.totalStats.duration ≤ summary.totalTime ∧
      (0 < summary.totalTime → 0 < summary.totalStats.requestsSent →
        (∃ e, summary.networkEfficiency = some e ∧ 0 ≤ e ∧ e ≤ 100) ∧
        ∃ avg, summary.averageRequestTime = some avg ∧
          (((requestStats.map (·.duration)).sum : Int) : ℚ) / (requestStats.map (·.duration)).length ≤ avg) := by
  have hrun := main_run clock config operations
  have hseq : Sequential (clock 0) (windows (measured clock 1 (List.ofFn operations)))
      (clock (positionAfter 1 (List.ofFn operations))) :=
    (sequential_measured clock hclock (List.ofFn operations) 1).mono_left (hclock (by omega))
  have hunit : (0 : Int) < 1000000 := by norm_num
  have hle := hseq.sum_tdiv_le hunit
  have hnonneg := hseq.sum_tdiv_nonneg hunit
  rw [← roundtrips_eq] at hle hnonneg
  generalize measured clock 1 (List.ofFn operations) = attempts at hrun hle hnonneg
  generalize UInt64.ofNat (payloadLength config.dataSizeMb) = size at hrun
  obtain ⟨hduration, hsent⟩ := requestLoop_roundtrips size attempts
  generalize requestLoop size 0 attempts = totalStats at hrun hduration hsent
  refine ⟨_, _, _, hrun, ?_⟩
  rw [printed_durations]
  refine ⟨hduration, hduration.trans_le hle, fun htime hpos => ⟨?_, ?_⟩⟩
  · exact Summary.efficiency_bounded (hnonneg.trans_eq hduration.symm) (hduration.trans_le hle) htime
  · exact Summary.mean_le_average hsent hpos hle

/-- Two requests of 1 MB, the first of which is refused. -/
def twoRequests : Config := ⟨['h'], 8080, 1, ⟨2, by decide⟩⟩

def firstRefused (i : Fin twoRequests.requestsCount.val.toNat) : Operations where
  resolve := .ok ()
  connect := if i.val = 0 then .error "Connection refused" else .ok ()
  prepare := .ok ()
  write := .ok ()
  read := .ok ⟨200, ""⟩
  report := .ok ()

/-- A reading every 5 ms. -/
def everyFive (k : Nat) : Int := 5000000 * k

theorem everyFive_monotone : Monotone everyFive := by
  intro i j hij
  unfold everyFive
  omega

theorem timing_report_bounded_two :
    ∃ requestStats summary n, main everyFive twoRequests firstRefused 0 = .ok (requestStats, summary) n ∧
      summary = ⟨⟨1048576, 15, 1⟩, 40⟩ ∧ ∃ e, summary.networkEfficiency = some e ∧ 0 ≤ e ∧ e ≤ 100 := by
  obtain ⟨requestStats, summary, n, hrun, -, -, hbounds⟩ :=
    timing_report_bounded everyFive everyFive_monotone twoRequests firstRefused
  have hvalue : main everyFive twoRequests firstRefused 0 =
      .ok ([⟨1048576, 15, 1⟩], ⟨⟨1048576, 15, 1⟩, 40⟩) 9 := by rfl
  rw [hvalue] at hrun
  cases hrun
  exact ⟨_, _, _, hvalue, rfl, (hbounds (by decide) (by decide)).1⟩

end Regular.Timed

end HttpSurvey.Beast.Client
