import Mathlib.Algebra.Order.Floor.Ring
import Mathlib.Algebra.Ring.Int.Parity
import Mathlib.Tactic.FieldSimp
import Mathlib.Tactic.Linarith
import Mathlib.Tactic.NormNum
import Mathlib.Tactic.Ring

/-!
# Functions of the C mathematical library over exact numbers

Truncation, remainder and rounding follow the C standard: a quotient is cut
towards zero, the remainder has the sign of the dividend, and a number halfway
between two integers is rounded away from zero, or to the even one by
`roundEven`. Taking the remainder twice with
one addition in between brings a number into one period, as the floored
remainder does.
-/

namespace CMath

variable {K : Type*} [Field K] [LinearOrder K] [FloorRing K]

def trunc (x : K) : ℤ := if 0 ≤ x then ⌊x⌋ else ⌈x⌉

def fmod (x y : K) : K := x - y * (trunc (x / y) : K)

def round (x : K) : ℤ := if 0 ≤ x then ⌊x + 1 / 2⌋ else ⌈x - 1 / 2⌉

/-- The remainder in `[0, period)`. -/
def wrap (x period : K) : K := x - period * (⌊x / period⌋ : K)

variable {x period : K}

theorem round_of_nonneg (h : 0 ≤ x) : round x = ⌊x + 1 / 2⌋ := if_pos h

variable [IsStrictOrderedRing K]

theorem wrap_nonneg (h : 0 < period) : 0 ≤ wrap x period := by
  have hle : (⌊x / period⌋ : K) * period ≤ x := (le_div_iff₀ h).mp (Int.floor_le _)
  unfold wrap
  linarith

theorem fmod_gt_neg (h : 0 < period) : -period < fmod x period := by
  have hlt : (trunc (x / period) : K) < x / period + 1 := by
    unfold trunc
    split_ifs
    · exact (Int.floor_le _).trans_lt (lt_add_one _)
    · exact Int.ceil_lt_add_one _
  have hmul : (trunc (x / period) : K) * period < x + period := by
    have := mul_lt_mul_of_pos_right hlt h
    rwa [add_mul, one_mul, div_mul_cancel₀ _ h.ne'] at this
  unfold fmod
  linarith

/-- The usual way to a remainder that is not negative. -/
theorem fmod_fmod_add (h : 0 < period) : fmod (fmod x period + period) period = wrap x period := by
  have hpos : 0 ≤ fmod x period + period := by linarith [fmod_gt_neg (x := x) h]
  have hquotient : (fmod x period + period) / period =
      x / period + ((1 - trunc (x / period) : ℤ) : K) := by
    unfold fmod
    push_cast
    field_simp
    ring
  have htrunc : trunc ((fmod x period + period) / period) =
      ⌊x / period⌋ + (1 - trunc (x / period)) := by
    rw [trunc, if_pos (div_nonneg hpos h.le), hquotient, Int.floor_add_intCast]
  rw [fmod, htrunc]
  unfold fmod wrap
  push_cast
  ring

theorem wrap_intCast (a : ℤ) (n : ℕ) : wrap (a : K) n = ((a % n : ℤ) : K) := by
  have hfloor : ⌊(a : K) / n⌋ = a / n := by
    rw [Int.floor_div_natCast, Int.floor_intCast]
  unfold wrap
  rw [hfloor, Int.emod_def]
  push_cast
  rfl

/-- A number and its remainder round to integers that differ by whole periods. -/
theorem round_wrap {n : ℕ} (h : 0 < n) :
    round (wrap x (n : K)) = ⌊x + 1 / 2⌋ - n * ⌊x / n⌋ := by
  have hpos : (0 : K) < n := Nat.cast_pos.mpr h
  have hshift : wrap x (n : K) + 1 / 2 = x + 1 / 2 - ((n * ⌊x / n⌋ : ℤ) : K) := by
    unfold wrap
    push_cast
    ring
  rw [round_of_nonneg (wrap_nonneg hpos), hshift, Int.floor_sub_intCast]

/-- A quotient of integers that is not negative. -/
theorem round_intCast_div {a : ℤ} {n : ℕ} (ha : 0 ≤ a) (hn : 0 < n) :
    round ((a : K) / n) = (2 * a + n) / (2 * n : ℕ) := by
  have hpos : (0 : K) < n := Nat.cast_pos.mpr hn
  have hsum : (a : K) / n + 1 / 2 = ((2 * a + n : ℤ) : K) / (2 * n : ℕ) := by
    push_cast
    field_simp
  rw [round_of_nonneg (div_nonneg (Int.cast_nonneg ha) hpos.le), hsum, Int.floor_div_natCast,
    Int.floor_intCast]

/-! ## Rounding to even -/

/-- The nearest integer; the even one of two that are equally near. -/
def roundEven (x : K) : ℤ :=
  if Int.fract x < 1 / 2 then ⌊x⌋
  else if 1 / 2 < Int.fract x then ⌊x⌋ + 1
  else if Even ⌊x⌋ then ⌊x⌋
  else ⌊x⌋ + 1

variable {n : ℤ}

theorem abs_sub_roundEven_le (x : K) : |x - roundEven x| ≤ 1 / 2 := by
  have hsplit : (⌊x⌋ : K) + Int.fract x = x := Int.floor_add_fract x
  have hnonneg : 0 ≤ Int.fract x := Int.fract_nonneg x
  have hlt : Int.fract x < 1 := Int.fract_lt_one x
  rw [abs_le]
  unfold roundEven
  split_ifs with hbelow habove heven
  · constructor <;> linarith
  · push_cast
    constructor <;> linarith
  · constructor <;> linarith
  · push_cast
    constructor <;> linarith

/-- Integers as near as this one are it. -/
theorem roundEven_eq_of_abs_lt (h : |x - n| < 1 / 2) : roundEven x = n := by
  have hround := abs_sub_roundEven_le x
  have hclose : |((roundEven x - n : ℤ) : K)| < 1 := by
    have hsum : ((roundEven x - n : ℤ) : K) = (x - n) - (x - roundEven x) := by
      push_cast
      ring
    rw [hsum]
    calc |(x - n) - (x - roundEven x)| ≤ |x - n| + |x - roundEven x| := abs_sub _ _
      _ < 1 := by linarith
  rw [← Int.cast_abs, ← Int.cast_one, Int.cast_lt, Int.abs_lt_one_iff] at hclose
  omega

theorem roundEven_intCast (n : ℤ) : roundEven (n : K) = n :=
  roundEven_eq_of_abs_lt (by simp)

/-- No integer is nearer. -/
theorem abs_sub_roundEven_le_abs_sub (x : K) (n : ℤ) : |x - roundEven x| ≤ |x - n| := by
  by_cases hnear : |x - n| < 1 / 2
  · rw [roundEven_eq_of_abs_lt hnear]
  · exact (abs_sub_roundEven_le x).trans (not_lt.mp hnear)

theorem roundEven_nonneg (h : 0 ≤ x) : 0 ≤ roundEven x := by
  have hround : |x - roundEven x| ≤ 1 / 2 := abs_sub_roundEven_le x
  have hcast : ((-1 : ℤ) : K) < roundEven x := by
    push_cast
    linarith [(abs_le.mp hround).2]
  have hlt : -1 < roundEven x := Int.cast_lt.mp hcast
  omega

end CMath
