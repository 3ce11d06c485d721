/-
`parse_arguments` of the two Beast clients. Each number goes through `std::atoi` and a cast before it is
tested, so that a string that is no numeral, or one whose value does not fit, is read as some other
number and refused only if that number fails the test. Where all three arguments are numerals in range
the configuration is exact; where one is not, the command line is refused exactly if a number that was
read in place of an argument is 0 (or, for the counts of `concurrent_beast_client`, negative) after its
cast (`parse_exact_iff`).
-/
import HttpSurvey.Lib.Numerals

namespace HttpSurvey.Beast.Client

open HttpSurvey.Lib

/-- A decimal numeral with a value from 1 to `hi`. -/
def IsCount (hi : Nat) (s : List Char) : Prop := IsDecimal s ∧ 1 ≤ ofDigits s ∧ ofDigits s ≤ hi

instance (hi : Nat) (s : List Char) : Decidable (IsCount hi s) := inferInstanceAs (Decidable (_ ∧ _ ∧ _))

/-- The largest port. -/
def maxPort : Nat := 65535

/-- `print_usage` with the names of the last two arguments, their example, and further lines. -/
def usage (program names sample : String) (more : List String) : List String :=
  ["Usage: " ++ program ++ " <host> <port> " ++ names, "Example: " ++ program ++ " 127.0.0.1 8080 " ++ sample] ++
    more

theorem atoi_count {s : List Char} {hi : Nat} (h : IsCount hi s) (hhi : hi ≤ intMax) :
    (atoi s).val = ofDigits s := by
  refine atoi_decimal h.1 ?_
  have hle := h.2.2
  unfold intMax at hhi
  omega

theorem toShort_eq_zero {x : Int} : toShort x = 0 ↔ (2 : Int) ^ 16 ∣ x := by
  unfold toShort
  omega

theorem toShort_port {s : List Char} (h : IsCount maxPort s) : toShort (atoi s).val = ofDigits s := by
  rw [atoi_count h (by decide)]
  have hle := h.2.2
  unfold maxPort at hle
  unfold toShort
  omega

theorem toSize_eq_zero (x : CInt) : toSize x.val = 0 ↔ x.val = 0 := by
  have hrange := x.range
  unfold toSize sizeMod
  omega

theorem toSize_count {s : List Char} (h : IsCount intMax s) : toSize (atoi s).val = ofDigits s := by
  rw [atoi_count h le_rfl, toSize_natCast (intMax_lt_sizeMod h.2.2)]

/-- For one command line: a configuration comes out of well-formed arguments and of no others, and its
numbers are theirs. -/
def ParsesExactly {Config : Type} (parse : List (List Char) → Except (List String) Config)
    (wellFormed : List (List Char) → Prop) (agrees : Config → List (List Char) → Prop)
    (args : List (List Char)) : Prop :=
  ((∃ config, parse args = .ok config) ↔ wellFormed args) ∧ ∀ config, parse args = .ok config → agrees config args

/-- Where well-formed arguments are not refused and read exactly, a client parses a command line exactly
if it is well-formed or refused. -/
theorem parsesExactly_iff {Config : Type} {parse : List (List Char) → Except (List String) Config}
    {wellFormed : List (List Char) → Prop} {agrees : Config → List (List Char) → Prop} {args : List (List Char)}
    {refused : Prop} [Decidable refused] {lines : List String} {config : Config}
    (hparse : parse args = if refused then .error lines else .ok config) (hnot : wellFormed args → ¬refused)
    (hagrees : wellFormed args → agrees config args) :
    ParsesExactly parse wellFormed agrees args ↔ wellFormed args ∨ refused := by
  unfold ParsesExactly
  rw [hparse]
  by_cases href : refused
  · rw [if_pos href]
    simpa [href] using fun hwf => hnot hwf href
  · rw [if_neg href]
    simpa [href] using hagrees

/-- To refuse a command line that is not well-formed is to parse it exactly. -/
theorem parsesExactly_of_error {Config : Type} {parse : List (List Char) → Except (List String) Config}
    {wellFormed : List (List Char) → Prop} {agrees : Config → List (List Char) → Prop} {args : List (List Char)}
    {lines : List String} (hparse : parse args = .error lines) (hnot : ¬wellFormed args) :
    ParsesExactly parse wellFormed agrees args := by
  have hnone : ∀ config, parse args ≠ .ok config := by
    intro config h
    rw [hparse] at h
    cases h
  exact ⟨iff_of_false (fun ⟨config, h⟩ => hnone config h) hnot, fun config h => absurd h (hnone config)⟩

namespace Regular

/-- `struct Config`. -/
structure Config where
  host : List Char
  port : Nat
  dataSizeMb : Nat
  requestsCount : CInt
  deriving DecidableEq, Repr

def printUsage (program : String) : List String := usage program "<data_size_mb> <requests_count>" "30 5" []

/-- `parse_arguments`: the configuration, or what is written to `std::cerr` before the exit. -/
def parseArguments (program : String) : List (List Char) → Except (List String) Config
  | [host, port, dataSizeMb, requestsCount] =>
    let config : Config :=
      { host := host
        port := toShort (atoi port).val
        dataSizeMb := toSize (atoi dataSizeMb).val
        requestsCount := atoi requestsCount }
    if config.port = 0 ∨ config.dataSizeMb = 0 ∨ config.requestsCount.val = 0 then
      .error ("Error: Invalid arguments" :: printUsage program)
    else .ok config
  | _ => .error (printUsage program)

/-- The length that `generate_test_data` passes to `std::string`. -/
def payloadLength (sizeMb : Nat) : Nat := mulSize (mulSize sizeMb 1024) 1024

/-- There are four arguments, and the three numbers are numerals in range. -/
def WellFormed : List (List Char) → Prop
  | [_, port, dataSizeMb, requestsCount] =>
    IsCount maxPort port ∧ IsCount intMax dataSizeMb ∧ IsCount intMax requestsCount
  | _ => False

/-- The numbers of the configuration, and the length of the payload, are those of the arguments. -/
def Config.Exact (config : Config) : List (List Char) → Prop
  | [_, port, dataSizeMb, requestsCount] =>
    config.port = ofDigits port ∧ config.requestsCount.val = ofDigits requestsCount ∧
      payloadLength config.dataSizeMb = ofDigits dataSizeMb * 1024 * 1024
  | _ => False

/-- Of four arguments, one is read by `std::atoi` as a number that the client refuses. -/
def Refused : List (List Char) → Prop
  | [_, port, dataSizeMb, requestsCount] =>
    (2 : Int) ^ 16 ∣ (atoi port).val ∨ (atoi dataSizeMb).val = 0 ∨ (atoi requestsCount).val = 0
  | _ => False

theorem parseArguments_four (program : String) (host port dataSizeMb requestsCount : List Char) :
    parseArguments program [host, port, dataSizeMb, requestsCount] =
      if (2 : Int) ^ 16 ∣ (atoi port).val ∨ (atoi dataSizeMb).val = 0 ∨ (atoi requestsCount).val = 0 then
        .error ("Error: Invalid arguments" :: printUsage program)
      else .ok ⟨host, toShort (atoi port).val, toSize (atoi dataSizeMb).val, atoi requestsCount⟩ := by
  simp only [parseArguments, toShort_eq_zero, toSize_eq_zero]

theorem payloadLength_eq {n : Nat} (h : n ≤ intMax) : payloadLength n = n * 1024 * 1024 := by
  unfold intMax at h
  unfold payloadLength mulSize sizeMod
  omega

theorem parseArguments_other (program : String) {args : List (List Char)} (h : args.length ≠ 4) :
    parseArguments program args = .error (printUsage program) := by
  unfold parseArguments
  split
  · exact absurd rfl h
  · rfl

theorem not_wellFormed {args : List (List Char)} (h : args.length ≠ 4) : ¬WellFormed args := by
  unfold WellFormed
  split
  · exact absurd rfl h
  · exact not_false

theorem parses_exactly_iff (program : String) (args : List (List Char)) :
    ParsesExactly (parseArguments program) WellFormed Config.Exact args ↔
      args.length ≠ 4 ∨ WellFormed args ∨ Refused args := by
  by_cases h4 : args.length = 4
  · obtain ⟨host, port, dataSizeMb, requestsCount, rfl⟩ := List.length_eq_four.1 h4
    refine (parsesExactly_iff (parseArguments_four program host port dataSizeMb requestsCount) ?_ ?_).trans ?_
    · rintro ⟨hport, hsize, hcount⟩
      rw [atoi_count hport (by decide), atoi_count hsize le_rfl, atoi_count hcount le_rfl]
      obtain ⟨-, hport, hport'⟩ := hport
      unfold maxPort at hport'
      have hsize' := hsize.2.1
      have hcount' := hcount.2.1
      omega
    · rintro ⟨hport, hsize, hcount⟩
      refine ⟨toShort_port hport, atoi_count hcount le_rfl, ?_⟩
      rw [toSize_count hsize, payloadLength_eq hsize.2.2]
    · simp [Refused]
  · exact iff_of_true (parsesExactly_of_error (parseArguments_other program h4) (not_wellFormed h4)) (.inl h4)

end Regular

namespace Concurrent

/-- `struct Config`. -/
structure Config where
  host : List Char
  port : Nat
  dataSizeBytes : Nat
  threadCount : CInt
  requestsPerThread : CInt
  deriving DecidableEq, Repr

def printUsage (program : String) : List String :=
  usage program "<thread_count> <requests_per_thread>" "4 5" ["Each request sends fixed 30KB data"]

/-- `parse_arguments`. -/
def parseArguments (program : String) : List (List Char) → Except (List String) Config
  | [host, port, threadCount, requestsPerThread] =>
    let config : Config :=
      { host := host
        port := toShort (atoi port).val
        threadCount := atoi threadCount
        requestsPerThread := atoi requestsPerThread
        dataSizeBytes := 30 * 1024 }
    if config.port = 0 ∨ config.threadCount.val ≤ 0 ∨ config.requestsPerThread.val ≤ 0 then
      .error ("Error: Invalid arguments" :: printUsage program)
    else .ok config
  | _ => .error (printUsage program)

/-- There are four arguments, and the three numbers are numerals in range. -/
def WellFormed : List (List Char) → Prop
  | [_, port, threadCount, requestsPerThread] =>
    IsCount maxPort port ∧ IsCount intMax threadCount ∧ IsCount intMax requestsPerThread
  | _ => False

/-- The numbers of the configuration are those of the arguments. -/
def Config.Exact (config : Config) : List (List Char) → Prop
  | [_, port, threadCount, requestsPerThread] =>
    config.port = ofDigits port ∧ config.threadCount.val = ofDigits threadCount ∧
      config.requestsPerThread.val = ofDigits requestsPerThread
  | _ => False

/-- Of four arguments, one is read by `std::atoi` as a number that the client refuses. -/
def Refused : List (List Char) → Prop
  | [_, port, threadCount, requestsPerThread] =>
    (2 : Int) ^ 16 ∣ (atoi port).val ∨ (atoi threadCount).val ≤ 0 ∨ (atoi requestsPerThread).val ≤ 0
  | _ => False

theorem parseArguments_four (program : String) (host port threadCount requestsPerThread : List Char) :
    parseArguments program [host, port, threadCount, requestsPerThread] =
      if (2 : Int) ^ 16 ∣ (atoi port).val ∨ (atoi threadCount).val ≤ 0 ∨ (atoi requestsPerThread).val ≤ 0 then
        .error ("Error: Invalid arguments" :: printUsage program)
      else .ok ⟨host, toShort (atoi port).val, 30 * 1024, atoi threadCount, atoi requestsPerThread⟩ := by
  simp only [parseArguments, toShort_eq_zero]

theorem parseArguments_other (program : String) {args : List (List Char)} (h : args.length ≠ 4) :
    parseArguments program args = .error (printUsage program) := by
  unfold parseArguments
  split
  · exact absurd rfl h
  · rfl

theorem not_wellFormed {args : List (List Char)} (h : args.length ≠ 4) : ¬WellFormed args := by
  unfold WellFormed
  split
  · exact absurd rfl h
  · exact not_false

theorem parses_exactly_iff (program : String) (args : List (List Char)) :
    ParsesExactly (parseArguments program) WellFormed Config.Exact args ↔
      args.length ≠ 4 ∨ WellFormed args ∨ Refused args := by
  by_cases h4 : args.length = 4
  · obtain ⟨host, port, threadCount, requestsPerThread, rfl⟩ := List.length_eq_four.1 h4
    refine (parsesExactly_iff (parseArguments_four program host port threadCount requestsPerThread) ?_ ?_).trans ?_
    · rintro ⟨hport, hthreads, hrequests⟩
      rw [atoi_count hport (by decide), atoi_count hthreads le_rfl, atoi_count hrequests le_rfl]
      obtain ⟨-, hport, hport'⟩ := hport
      unfold maxPort at hport'
      have hthreads' := hthreads.2.1
      have hrequests' := hrequests.2.1
      omega
    · rintro ⟨hport, hthreads, hrequests⟩
      exact ⟨toShort_port hport, atoi_count hthreads le_rfl, atoi_count hrequests le_rfl⟩
    · simp [Refused]
  · exact iff_of_true (parsesExactly_of_error (parseArguments_other program h4) (not_wellFormed h4)) (.inl h4)

end Concurrent

/-- The command lines that the two clients parse exactly: those without four arguments, the well-formed
ones, and those with an argument that is read as a refused number. -/
theorem arguments_parse_exactly_iff (program : String) (args : List (List Char)) :
    (ParsesExactly (Regular.parseArguments program) Regular.WellFormed Regular.Config.Exact args ↔
      args.length ≠ 4 ∨ Regular.WellFormed args ∨ Regular.Refused args) ∧
      (ParsesExactly (Concurrent.parseArguments program) Concurrent.WellFormed Concurrent.Config.Exact args ↔
        args.length ≠ 4 ∨ Concurrent.WellFormed args ∨ Concurrent.Refused args) :=
  ⟨Regular.parses_exactly_iff program args, Concurrent.parses_exactly_iff program args⟩

/-- The port `65616` is read as 80 by both clients, and the regular one takes `-1` MB for a size whose
product wraps. -/
theorem wrong_arguments_accepted :
    ¬ParsesExactly (Regular.parseArguments "client") Regular.WellFormed Regular.Config.Exact
        [['h'], ['6', '5', '6', '1', '6'], ['-', '1'], ['5']] ∧
      ¬ParsesExactly (Concurrent.parseArguments "client") Concurrent.WellFormed Concurrent.Config.Exact
        [['h'], ['6', '5', '6', '1', '6'], ['4'], ['5', 'x']] := by
  have hport : ¬IsCount maxPort ['6', '5', '6', '1', '6'] := fun h => absurd h.2.2 (by decide)
  constructor
  · have hparse : Regular.parseArguments "client" [['h'], ['6', '5', '6', '1', '6'], ['-', '1'], ['5']] =
        .ok ⟨['h'], 80, 2 ^ 64 - 1, ⟨5, by decide⟩⟩ := by decide
    rintro ⟨haccepted, -⟩
    exact hport (haccepted.1 ⟨_, hparse⟩).1
  · have hparse : Concurrent.parseArguments "client" [['h'], ['6', '5', '6', '1', '6'], ['4'], ['5', 'x']] =
        .ok ⟨['h'], 80, 30 * 1024, ⟨4, by decide⟩, ⟨5, by decide⟩⟩ := by decide
    rintro ⟨haccepted, -⟩
    exact hport (haccepted.1 ⟨_, hparse⟩).1

end HttpSurvey.Beast.Client
