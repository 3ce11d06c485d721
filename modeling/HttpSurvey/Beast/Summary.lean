/-
The final statistics of the two Beast clients, which print the same figures from `total_stats` and
`total_time`. A figure is the exact rational number, or none where its divisor is 0. Where the durations
of the requests that do not fail add up to `total_time` at most, the efficiency is a percentage and the
average request time no less than the mean of the durations (`Summary.bounded`).
-/
import HttpSurvey.Beast.Client
import HttpSurvey.Lib.Word
import Mathlib.Algebra.Order.BigOperators.Group.List

namespace HttpSurvey.Beast.Client

open HttpSurvey.Lib

/-- `total_stats`, and `total_time` in milliseconds. -/
structure Summary where
  totalStats : Stats
  totalTime : Int
  deriving DecidableEq, Repr

namespace Summary

/-- `avg_throughput`, in MB/s. -/
def avgThroughput (s : Summary) : Option ℚ :=
  quotient ((s.totalStats.bytesTransferred.toNat : ℚ) / (1024 * 1024)) ((s.totalTime : ℚ) / 1000)

/-- "Average request time", in milliseconds. -/
def averageRequestTime (s : Summary) : Option ℚ := quotient s.totalTime s.totalStats.requestsSent

/-- "Network efficiency", in percent. -/
def networkEfficiency (s : Summary) : Option ℚ := quotient (100 * s.totalStats.duration) s.totalTime

/-- The figures that are quotients, as they are printed. -/
def figures (s : Summary) : List (Option ℚ) := [s.avgThroughput, s.averageRequestTime, s.networkEfficiency]

/-- No figure is a division by 0 exactly when a request has been counted and a millisecond has passed. -/
theorem figures_defined_iff (s : Summary) :
    (∀ x ∈ s.figures, x.isSome) ↔ s.totalStats.requestsSent ≠ 0 ∧ s.totalTime ≠ 0 := by
  simp only [figures, List.forall_mem_cons, avgThroughput, averageRequestTime, networkEfficiency,
    quotient_isSome]
  constructor
  · rintro ⟨-, hsent, htime, -⟩
    exact ⟨by exact_mod_cast hsent, by exact_mod_cast htime⟩
  · rintro ⟨hsent, htime⟩
    have hms : (s.totalTime : ℚ) ≠ 0 := by exact_mod_cast htime
    exact ⟨div_ne_zero hms (by norm_num), by exact_mod_cast hsent, hms, nofun⟩

end Summary

/-! ## The durations that were measured -/

/-- The "Roundtrip time" of each call that does not fail. -/
def roundtrips (attempts : List Attempt) : List Int :=
  (attempts.filter fun a => !a.fails).map fun a => durationCast (a.readEnd - a.writeStart)

/-- The loop adds the durations of the calls that do not fail, and counts them. -/
theorem requestLoop_roundtrips (size : UInt64) (attempts : List Attempt) :
    (Regular.requestLoop size 0 attempts).duration = (roundtrips attempts).sum ∧
      (Regular.requestLoop size 0 attempts).requestsSent = (roundtrips attempts).length := by
  rw [Regular.requestLoop_eq, zero_add]
  induction attempts with
  | nil => exact ⟨rfl, rfl⟩
  | cons a attempts ih =>
    rw [List.map_cons, List.sum_cons, Stats.add_duration, Stats.add_requestsSent, ih.1, ih.2]
    unfold roundtrips
    cases h : a.fails with
    | true =>
      rw [sendRequest_of_fails h, List.filter_cons_of_neg (by simp [h])]
      simp
    | false =>
      rw [sendRequest_of_not_fails h, List.filter_cons_of_pos (by simp [h])]
      simp [Nat.add_comm]

/-- A request has been counted exactly when a call does not fail. -/
theorem requestsSent_ne_zero_iff (size : UInt64) (attempts : List Attempt) :
    (Regular.requestLoop size 0 attempts).requestsSent ≠ 0 ↔ ∃ a ∈ attempts, a.fails = false := by
  rw [(requestLoop_roundtrips size attempts).2, roundtrips, List.length_map, ne_eq, List.length_eq_zero_iff,
    List.filter_eq_nil_iff]
  simp

/-! ## Bounds on the figures -/

namespace Summary

variable {s : Summary} {durations : List Int}

/-- The efficiency of durations that add up to `c` times the total time at most. -/
theorem efficiency_le_mul (c : Nat) (hnonneg : 0 ≤ s.totalStats.duration)
    (hle : s.totalStats.duration ≤ c * s.totalTime) (htime : 0 < s.totalTime) :
    ∃ e, s.networkEfficiency = some e ∧ 0 ≤ e ∧ e ≤ 100 * c := by
  have hpos : (0 : ℚ) < s.totalTime := by exact_mod_cast htime
  have hnonneg' : (0 : ℚ) ≤ s.totalStats.duration := by exact_mod_cast hnonneg
  have hle' : (s.totalStats.duration : ℚ) ≤ c * s.totalTime := by exact_mod_cast hle
  refine ⟨_, quotient_of_pos hpos, by positivity, ?_⟩
  rw [div_le_iff₀ hpos]
  linarith

theorem efficiency_bounded (hnonneg : 0 ≤ s.totalStats.duration) (hle : s.totalStats.duration ≤ s.totalTime)
    (htime : 0 < s.totalTime) : ∃ e, s.networkEfficiency = some e ∧ 0 ≤ e ∧ e ≤ 100 := by
  have hone : s.totalStats.duration ≤ (1 : Nat) * s.totalTime := by omega
  simpa using efficiency_le_mul 1 hnonneg hone htime

/-- The average request time against the mean of durations that add up to the total time at most. -/
theorem mean_le_average (hsent : s.totalStats.requestsSent = durations.length) (hpos : 0 < s.totalStats.requestsSent)
    (hle : durations.sum ≤ s.totalTime) :
    ∃ avg, s.averageRequestTime = some avg ∧ (durations.sum : ℚ) / durations.length ≤ avg := by
  have hpos' : (0 : ℚ) < s.totalStats.requestsSent := by exact_mod_cast hpos
  have hle' : (durations.sum : ℚ) ≤ s.totalTime := by exact_mod_cast hle
  refine ⟨_, quotient_of_pos hpos', ?_⟩
  rw [← hsent]
  exact div_le_div_of_nonneg_right hle' hpos'.le

/-- The smallest of durations is at most their mean. -/
theorem smallest_le_mean {durations : List Int} (h : durations ≠ []) :
    ∃ smallest, durations.min? = some smallest ∧ (smallest : ℚ) ≤ (durations.sum : ℚ) / durations.length := by
  have hsome : durations.min?.isSome := by
    rw [Option.isSome_iff_ne_none, ne_eq, List.min?_eq_none_iff]
    exact h
  obtain ⟨smallest, hsmallest⟩ := Option.isSome_iff_exists.1 hsome
  refine ⟨smallest, hsmallest, ?_⟩
  have hle : ∀ d ∈ durations, smallest ≤ d := (List.min?_eq_some_iff.1 hsmallest).2
  have hsum := List.card_nsmul_le_sum durations smallest hle
  have hpos : (0 : ℚ) < durations.length := by exact_mod_cast List.length_pos_iff.2 h
  rw [le_div_iff₀ hpos, mul_comm]
  rw [nsmul_eq_mul] at hsum
  exact_mod_cast hsum

/-- With a total time and a number of requests that are positive, the efficiency is between 0 and 100
percent and the average request time no less than the smallest duration. -/
def TimingBounded (s : Summary) (durations : List Int) : Prop :=
  0 < s.totalTime → 0 < s.totalStats.requestsSent →
    (∃ e, s.networkEfficiency = some e ∧ 0 ≤ e ∧ e ≤ 100) ∧
    ∃ avg smallest, s.averageRequestTime = some avg ∧ durations.min? = some smallest ∧ (smallest : ℚ) ≤ avg

theorem timingBounded_of_le (hduration : s.totalStats.duration = durations.sum)
    (hsent : s.totalStats.requestsSent = durations.length) (hnonneg : 0 ≤ durations.sum)
    (hle : durations.sum ≤ s.totalTime) : s.TimingBounded durations := by
  intro htime hpos
  refine ⟨efficiency_bounded (hnonneg.trans_eq hduration.symm) (hduration.trans_le hle) htime, ?_⟩
  obtain ⟨avg, havg, hmean⟩ := mean_le_average hsent hpos hle
  have hne : durations ≠ [] := by
    rintro rfl
    exact hpos.ne' hsent
  obtain ⟨smallest, hsmallest, hle'⟩ := smallest_le_mean hne
  exact ⟨avg, smallest, havg, hsmallest, hle'.trans hmean⟩

end Summary

end HttpSurvey.Beast.Client
