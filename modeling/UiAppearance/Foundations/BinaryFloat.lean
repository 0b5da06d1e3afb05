import UiAppearance.Foundations.CMath
import Mathlib.Data.Int.Log
import Mathlib.Data.Rat.Floor

/-!
# Binary floating point

A format holds the multiples of powers of two whose multiplier is below a power
of two and whose exponent is not too small; there is no greatest one here, since
overflow is a matter of its own. Rounding to the format rounds the multiplier,
and no number that the format holds is nearer.
-/

namespace BinaryFloat

open CMath

/-- Multipliers below `2 ^ precision`, exponents from `minExponent` on. -/
structure BinaryFormat where
  precision : ℕ
  minExponent : ℤ
  precision_pos : 0 < precision

namespace BinaryFormat

variable (F : BinaryFormat)

def Holds (z : ℚ) : Prop :=
  ∃ m e : ℤ, |m| < 2 ^ F.precision ∧ F.minExponent ≤ e ∧ z = m * 2 ^ e

/-- The exponent that leaves as many digits as the precision allows. -/
def exponent (x : ℚ) : ℤ := max F.minExponent (Int.log 2 |x| + 1 - F.precision)

def nearest (x : ℚ) : ℚ := roundEven (x / 2 ^ F.exponent x) * 2 ^ F.exponent x

variable {F} {x z : ℚ}

/-- No multiple of the power that was chosen is nearer. -/
theorem abs_sub_nearest_le_multiple (x : ℚ) (n : ℤ) :
    |x - F.nearest x| ≤ |x - n * 2 ^ F.exponent x| := by
  have hpos : (0 : ℚ) < 2 ^ F.exponent x := zpow_pos two_pos _
  have hscale (n : ℤ) : |x - n * 2 ^ F.exponent x| =
      |x / 2 ^ F.exponent x - n| * 2 ^ F.exponent x := by
    rw [← abs_of_pos hpos, ← abs_mul, abs_of_pos hpos, sub_mul, div_mul_cancel₀ _ hpos.ne']
  unfold nearest
  rw [hscale, hscale]
  exact mul_le_mul_of_nonneg_right (abs_sub_roundEven_le_abs_sub _ n) hpos.le

@[simp] theorem nearest_zero : F.nearest 0 = 0 := by
  have hround : roundEven (0 : ℚ) = 0 := by simpa using roundEven_intCast (K := ℚ) 0
  simp [nearest, hround]

/-- Numbers of the format with a smaller exponent lie nearer to zero than the number rounded,
and a multiple of the power chosen lies in between. -/
theorem abs_sub_nearest_le_of_abs_lt (hx : x ≠ 0)
    (hexponent : F.exponent x = Int.log 2 |x| + 1 - F.precision)
    (hz : |z| < 2 ^ Int.log 2 |x|) : |x - F.nearest x| ≤ |x - z| := by
  have hbetween : (2 : ℚ) ^ Int.log 2 |x| ≤ |x| := by
    exact_mod_cast Int.zpow_log_le_self (b := 2) (by decide) (abs_pos.mpr hx)
  have hmultiple : ((2 ^ (F.precision - 1) : ℤ) : ℚ) * 2 ^ F.exponent x = 2 ^ Int.log 2 |x| := by
    have hsum : ((F.precision - 1 : ℕ) : ℤ) + F.exponent x = Int.log 2 |x| := by
      have := F.precision_pos
      omega
    push_cast
    rw [← zpow_natCast, ← zpow_add₀ two_ne_zero, hsum]
  obtain ⟨hlow, hhigh⟩ := abs_lt.mp hz
  rcases lt_or_gt_of_ne hx with hneg | hpos
  · have hnear := F.abs_sub_nearest_le_multiple x (-2 ^ (F.precision - 1))
    rw [Int.cast_neg, neg_mul, hmultiple] at hnear
    have hmagnitude : 2 ^ Int.log 2 |x| ≤ -x := hbetween.trans_eq (abs_of_neg hneg)
    have hbelow : x - -2 ^ Int.log 2 |x| ≤ 0 := by linarith
    calc |x - F.nearest x| ≤ |x - -2 ^ Int.log 2 (|x|)| := hnear
      _ = -(x - -2 ^ Int.log 2 |x|) := abs_of_nonpos hbelow
      _ ≤ -(x - z) := by linarith
      _ ≤ |x - z| := neg_le_abs _
  · have hnear := F.abs_sub_nearest_le_multiple x (2 ^ (F.precision - 1))
    rw [hmultiple] at hnear
    have hmagnitude : 2 ^ Int.log 2 |x| ≤ x := hbetween.trans_eq (abs_of_pos hpos)
    have habove : 0 ≤ x - 2 ^ Int.log 2 |x| := by linarith
    calc |x - F.nearest x| ≤ |x - 2 ^ Int.log 2 (|x|)| := hnear
      _ = x - 2 ^ Int.log 2 |x| := abs_of_nonneg habove
      _ ≤ x - z := by linarith
      _ ≤ |x - z| := le_abs_self _

/-- No number of the format is nearer. -/
theorem abs_sub_nearest_le (x : ℚ) (hz : F.Holds z) : |x - F.nearest x| ≤ |x - z| := by
  by_cases hx : x = 0
  · subst hx
    simp
  obtain ⟨m, e, hm, he, rfl⟩ := hz
  by_cases hfine : F.exponent x ≤ e
  · have hmultiple : ((m * 2 ^ (e - F.exponent x).toNat : ℤ) : ℚ) * 2 ^ F.exponent x =
        m * 2 ^ e := by
      have hsum : ((e - F.exponent x).toNat : ℤ) + F.exponent x = e := by omega
      push_cast
      rw [mul_assoc, ← zpow_natCast, ← zpow_add₀ two_ne_zero, hsum]
    rw [← hmultiple]
    exact abs_sub_nearest_le_multiple x _
  · have hexponent : F.exponent x = Int.log 2 |x| + 1 - F.precision := by
      unfold exponent at hfine ⊢
      omega
    refine abs_sub_nearest_le_of_abs_lt hx hexponent ?_
    have hcast : |(m : ℚ)| < 2 ^ (F.precision : ℤ) := by
      rw [zpow_natCast]
      exact_mod_cast hm
    calc |(m : ℚ) * 2 ^ e| = |(m : ℚ)| * 2 ^ e := by
          rw [abs_mul, abs_of_pos (zpow_pos (two_pos : (0 : ℚ) < 2) e)]
      _ < 2 ^ (F.precision : ℤ) * 2 ^ e := mul_lt_mul_of_pos_right hcast (zpow_pos two_pos e)
      _ = 2 ^ ((F.precision : ℤ) + e) := (zpow_add₀ two_ne_zero _ _).symm
      _ ≤ 2 ^ Int.log 2 |x| := zpow_le_zpow_right₀ one_le_two (by omega)

/-- Rounding does not pass a number that the format holds. -/
theorem nearest_le_of_le (hz : F.Holds z) (h : x ≤ z) : F.nearest x ≤ z := by
  by_contra hpassed
  have hnear := abs_sub_nearest_le x hz
  rw [abs_of_neg (by linarith), abs_of_nonpos (by linarith)] at hnear
  linarith

/-- Below a power of two the error is at most half the last place there. -/
theorem abs_sub_nearest_le_half {k : ℤ} (hx : |x| < 2 ^ k) (hk : F.minExponent + F.precision ≤ k) :
    |x - F.nearest x| ≤ 2 ^ (k - F.precision) / 2 := by
  by_cases hzero : x = 0
  · subst hzero
    rw [nearest_zero, sub_zero, abs_zero]
    exact (half_pos (zpow_pos two_pos _)).le
  have hpos : (0 : ℚ) < 2 ^ F.exponent x := zpow_pos two_pos _
  have hlog : Int.log 2 |x| < k := (Int.lt_zpow_iff_log_lt (by decide) (abs_pos.mpr hzero)).mp
    (by exact_mod_cast hx)
  have hexponent : F.exponent x ≤ k - F.precision := by
    unfold exponent
    omega
  have hround := abs_sub_roundEven_le (x / 2 ^ F.exponent x)
  have hscale : x - F.nearest x =
      (x / 2 ^ F.exponent x - roundEven (x / 2 ^ F.exponent x)) * 2 ^ F.exponent x := by
    unfold nearest
    rw [sub_mul, div_mul_cancel₀ _ hpos.ne']
  calc |x - F.nearest x| = |x / 2 ^ F.exponent x - roundEven (x / 2 ^ F.exponent x)| *
        2 ^ F.exponent x := by rw [hscale, abs_mul, abs_of_pos hpos]
    _ ≤ 1 / 2 * 2 ^ F.exponent x := mul_le_mul_of_nonneg_right hround hpos.le
    _ ≤ 1 / 2 * 2 ^ (k - F.precision) := by
        have := zpow_le_zpow_right₀ (one_le_two (α := ℚ)) hexponent
        linarith
    _ = 2 ^ (k - F.precision) / 2 := by ring

end BinaryFormat
end BinaryFloat
