/-
Numerals as the C library reads them: blanks, an optional sign and the longest run of digits at the
beginning of a string, whatever follows. `atoi` gives 0 when there is no digit and wraps what does not
fit; `stoi` throws in both cases. A string that is a decimal numeral and nothing else is read as its
value when that fits in an `int` (`atoi_decimal`).
-/
import HttpSurvey.Lib.Word
import Mathlib.Data.List.TakeWhile

namespace HttpSurvey.Lib

/-- `isspace`. -/
def isSpace (c : Char) : Bool := c == ' ' || ('\t' ≤ c && c ≤ '\r')

/-- The value of a string of digits. -/
def ofDigits (ds : List Char) : Nat := ds.foldl (fun n d => 10 * n + (d.toNat - '0'.toNat)) 0

/-- The number that a string begins with, if it begins with a digit. -/
def leadingNat (s : List Char) : Option Nat :=
  if s.takeWhile Char.isDigit = [] then none else some (ofDigits (s.takeWhile Char.isDigit))

/-- The number that a string begins with after its sign, if it has one. -/
def signedNat : List Char → Option Int
  | '-' :: s => (leadingNat s).map fun n => -(n : Int)
  | '+' :: s => (leadingNat s).map fun n => (n : Int)
  | s => (leadingNat s).map fun n => (n : Int)

/-- The number that a string begins with after blanks. -/
def leadingInt (s : List Char) : Option Int := signedNat (s.dropWhile isSpace)

/-- `strtol` saturates at the limits of a `long`. -/
def clampLong (x : Int) : Int := max (-2 ^ 63) (min x (2 ^ 63 - 1))

/-- `std::atoi`. -/
def atoi (s : List Char) : CInt := CInt.wrap (clampLong ((leadingInt s).getD 0))

/-- The exceptions of `std::stoi`. -/
inductive StoiError
  | invalidArgument
  | outOfRange
  deriving DecidableEq, Repr

/-- `std::stoi`. -/
def stoi (s : List Char) : Except StoiError CInt :=
  match leadingInt s with
  | none => .error .invalidArgument
  | some x => if h : -2 ^ 31 ≤ x ∧ x < 2 ^ 31 then .ok ⟨x, h⟩ else .error .outOfRange

/-- A decimal numeral: digits and nothing else. -/
def IsDecimal (s : List Char) : Prop := s ≠ [] ∧ ∀ c ∈ s, c.isDigit = true

instance (s : List Char) : Decidable (IsDecimal s) := inferInstanceAs (Decidable (_ ∧ _))

theorem not_isSpace_of_isDigit {c : Char} (h : c.isDigit = true) : isSpace c = false := by
  rw [Char.isDigit_iff_toNat] at h
  unfold isSpace
  have hspace : c ≠ ' ' := by
    rintro rfl
    exact absurd h (by decide)
  have hblank : ¬c ≤ '\r' := by
    intro hle
    have hle' : c.toNat ≤ '\r'.toNat := hle
    exact absurd (h.1.trans hle') (by decide)
  simp [hspace, hblank]

theorem signedNat_digit {c : Char} {s : List Char} (h : c.isDigit = true) :
    signedNat (c :: s) = (leadingNat (c :: s)).map fun n => (n : Int) := by
  unfold signedNat
  split
  · rename_i hc
    cases hc
    exact absurd h (by decide)
  · rename_i hc
    cases hc
    exact absurd h (by decide)
  · rfl

theorem leadingNat_decimal {s : List Char} (h : IsDecimal s) : leadingNat s = some (ofDigits s) := by
  have hall : s.takeWhile Char.isDigit = s := List.takeWhile_eq_self_iff.2 h.2
  unfold leadingNat
  rw [hall, if_neg h.1]

theorem leadingInt_decimal {s : List Char} (h : IsDecimal s) : leadingInt s = some (ofDigits s : Int) := by
  obtain ⟨hne, hdigits⟩ := h
  cases s with
  | nil => exact absurd rfl hne
  | cons c s =>
    have hc : c.isDigit = true := hdigits c List.mem_cons_self
    unfold leadingInt
    rw [List.dropWhile_cons_of_neg (by simp [not_isSpace_of_isDigit hc]), signedNat_digit hc,
      leadingNat_decimal ⟨hne, hdigits⟩]
    rfl

theorem clampLong_eq {x : Int} (h0 : 0 ≤ x) (h : x < 2 ^ 31) : clampLong x = x := by
  unfold clampLong
  omega

/-- A decimal numeral that fits in an `int` is read as its value. -/
theorem atoi_decimal {s : List Char} (h : IsDecimal s) (hv : ofDigits s < 2 ^ 31) :
    (atoi s).val = ofDigits s := by
  have hv' : (ofDigits s : Int) < 2 ^ 31 := by exact_mod_cast hv
  unfold atoi
  rw [leadingInt_decimal h, Option.getD_some, clampLong_eq (Int.natCast_nonneg _) hv', CInt.wrap_val,
    wrapInt_eq (Int.natCast_nonneg _) hv']

end HttpSurvey.Lib
