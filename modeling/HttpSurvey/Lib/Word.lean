/-
The machine integers of the programs: a 64-bit unsigned `size_t` as a natural number below
`2 ^ 64` and a 32-bit signed `int` as an integer in `[-2 ^ 31, 2 ^ 31)`, with the conversions and
the wrapping operations the sources use on them; and their divisions, undefined where the divisor is 0.
-/
import Mathlib.Tactic

namespace HttpSurvey.Lib

/-- A value of an `int`. -/
@[ext] structure CInt where
  val : Int
  range : -2 ^ 31 ≤ val ∧ val < 2 ^ 31
  deriving DecidableEq, Repr

/-- The number of values of a `size_t`. -/
def sizeMod : Nat := 2 ^ 64

/-- The largest value of an `int`. -/
def intMax : Nat := 2 ^ 31 - 1

/-- A natural number that fits in an `int`. -/
def CInt.ofNat (n : Nat) (h : n ≤ intMax) : CInt := ⟨n, by unfold intMax at h; omega⟩

/-- An `int` converted to `size_t`. -/
def toSize (x : Int) : Nat := (x % (sizeMod : Int)).toNat

/-- The sum of two `size_t` values. -/
def addSize (a b : Nat) : Nat := (a + b) % sizeMod

/-- The difference of two `size_t` values. -/
def subSize (a b : Nat) : Nat := (a + (sizeMod - b % sizeMod)) % sizeMod

/-- An integer brought into the range of an `int`, as an atomic increment wraps. -/
def wrapInt (x : Int) : Int := Int.bmod x (2 ^ 32)

theorem wrapInt_range (x : Int) : -2 ^ 31 ≤ wrapInt x ∧ wrapInt x < 2 ^ 31 := by
  have hle := Int.le_bmod (x := x) (m := 2 ^ 32) (by norm_num)
  have hlt := Int.bmod_lt (x := x) (m := 2 ^ 32) (by norm_num)
  unfold wrapInt
  omega

/-- A `long` converted to `int`. -/
def CInt.wrap (x : Int) : CInt := ⟨wrapInt x, wrapInt_range x⟩

theorem CInt.wrap_val (x : Int) : (CInt.wrap x).val = wrapInt x := rfl

/-- The product of two `int`s, which is undefined when it overflows. -/
def CInt.mul (x y : CInt) : Option CInt :=
  if h : -2 ^ 31 ≤ x.val * y.val ∧ x.val * y.val < 2 ^ 31 then some ⟨x.val * y.val, h⟩ else none

/-- An `int` converted to `unsigned short`. -/
def toShort (x : Int) : Nat := (x % 2 ^ 16).toNat

/-- The product of two `size_t` values. -/
def mulSize (a b : Nat) : Nat := a * b % sizeMod

/-- The quotient of two `long`s, which truncates and traps on a divisor 0. -/
def quotientLong (x y : Int) : Option Int := if y = 0 then none else some (x.tdiv y)

/-- The exact value of a quotient of two `double`s, none where it is infinite or no number. -/
def quotient (x y : ℚ) : Option ℚ := if y = 0 then none else some (x / y)

theorem quotientLong_isSome {x y : Int} : (quotientLong x y).isSome ↔ y ≠ 0 := by
  unfold quotientLong
  split <;> simp_all

theorem quotient_isSome {x y : ℚ} : (quotient x y).isSome ↔ y ≠ 0 := by
  unfold quotient
  split <;> simp_all

theorem quotient_of_pos {x y : ℚ} (h : 0 < y) : quotient x y = some (x / y) := if_neg h.ne'

theorem CInt.mul_eq_some {x y p : CInt} : x.mul y = some p ↔ p.val = x.val * y.val := by
  unfold CInt.mul
  constructor
  · intro h
    split at h
    · cases h
      rfl
    · cases h
  · intro h
    have hrange := p.range
    rw [h] at hrange
    rw [dif_pos hrange]
    exact congrArg some (CInt.ext h.symm)

theorem toSize_natCast {n : Nat} (h : n < sizeMod) : toSize (n : Int) = n := by
  unfold toSize
  rw [← Int.natCast_mod, Int.toNat_natCast, Nat.mod_eq_of_lt h]

theorem addSize_eq {a b : Nat} (h : a + b < sizeMod) : addSize a b = a + b :=
  Nat.mod_eq_of_lt h

theorem subSize_eq {a b : Nat} (ha : a < sizeMod) (h : b ≤ a) : subSize a b = a - b := by
  unfold subSize
  rw [Nat.mod_eq_of_lt (by omega : b < sizeMod), show a + (sizeMod - b) = (a - b) + sizeMod by omega,
    Nat.add_mod_right, Nat.mod_eq_of_lt (by omega)]

theorem wrapInt_eq {x : Int} (h0 : 0 ≤ x) (h : x < 2 ^ 31) : wrapInt x = x :=
  Int.bmod_eq_of_le (by omega) (by omega)

theorem intMax_lt_sizeMod {n : Nat} (h : n ≤ intMax) : n < sizeMod := by
  unfold intMax at h
  unfold sizeMod
  omega

end HttpSurvey.Lib
