import UiAppearance.Foundations.CMath
import UiAppearance.Foundations.DecimalText
import Mathlib.Data.Rat.Floor

/-!
# Decimal text with a fixed number of places

A number is printed by rounding it to a whole number of the last place, whose
digits are then cut at the point. Reading takes the digits on both sides
together. What is read back is the number that was rounded to, and every number
that lies within half a last place of it prints the same.
-/

namespace UiAppearance
namespace DecimalText

open CMath

/-- The digits behind the point, with the zeros that belong there. -/
def fractionDigits (places n : ℕ) : List Char := (Nat.toDigits 10 n).leftpad places '0'

/-- A whole number of the last place, with its point. -/
def fixedDigits (places n : ℕ) : List Char :=
  Nat.toDigits 10 (n / 10 ^ places) ++ '.' :: fractionDigits places (n % 10 ^ places)

/-- How many of the last place a number comes to. -/
def lastPlaces (places : ℕ) (x : ℚ) : ℕ := (roundEven (|x| * 10 ^ places)).natAbs

def printFixed (places : ℕ) (x : ℚ) : List Char :=
  (if x < 0 then ['-'] else []) ++ fixedDigits places (lastPlaces places x)

/-- The value of the digits on both sides of a point. -/
def pointValue (whole fraction : List Char) : ℚ :=
  digitsValue (whole ++ fraction) / 10 ^ fraction.length

variable {places n : ℕ} {x y : ℚ}

theorem length_fractionDigits (hplaces : 0 < places) (hn : n < 10 ^ places) :
    (fractionDigits places n).length = places := by
  unfold fractionDigits
  rw [List.length_leftpad]
  exact max_eq_left ((Nat.length_toDigits_le_iff (by decide) hplaces).mpr hn)

theorem isDigit_fractionDigits {c : Char} (hc : c ∈ fractionDigits places n) :
    c.isDigit = true := by
  unfold fractionDigits List.leftpad at hc
  rcases List.mem_append.mp hc with hzero | hdigit
  · rw [List.eq_of_mem_replicate hzero]
    rfl
  · exact Nat.isDigit_of_mem_toDigits (by decide) (by decide) hdigit

theorem digitsValue_append_fractionDigits (cs : List Char) (hplaces : 0 < places)
    (hn : n < 10 ^ places) :
    digitsValue (cs ++ fractionDigits places n) = digitsValue cs * 10 ^ places + n := by
  have hlength : (Nat.toDigits 10 n).length ≤ places :=
    (Nat.length_toDigits_le_iff (by decide) hplaces).mpr hn
  have hdigits : Nat.ofDigitChars 10 (Nat.toDigits 10 n) 0 = n := Nat.ofDigitChars_ten_toDigits
  unfold digitsValue fractionDigits List.leftpad
  rw [Nat.ofDigitChars_append, Nat.ofDigitChars_append, Nat.ofDigitChars_replicate_zero,
    Nat.ofDigitChars_eq_ofDigitChars_zero, hdigits, ← mul_assoc, ← pow_add,
    Nat.add_sub_cancel' hlength, mul_comm]

/-- Reading gives back the whole number of the last place. -/
theorem pointValue_fixedDigits (hplaces : 0 < places) (n : ℕ) :
    pointValue (Nat.toDigits 10 (n / 10 ^ places)) (fractionDigits places (n % 10 ^ places)) =
      n / 10 ^ places := by
  have hrest : n % 10 ^ places < 10 ^ places := Nat.mod_lt n (pow_pos (by decide) places)
  have hwhole : digitsValue (Nat.toDigits 10 (n / 10 ^ places)) = n / 10 ^ places :=
    Nat.ofDigitChars_ten_toDigits
  unfold pointValue
  rw [digitsValue_append_fractionDigits _ hplaces hrest, length_fractionDigits hplaces hrest,
    hwhole, Nat.div_add_mod']

/-- Printing moves a number by half a last place at most. -/
theorem abs_sub_lastPlaces_le (hx : 0 ≤ x) :
    |x - lastPlaces places x / 10 ^ places| ≤ 1 / 2 / 10 ^ places := by
  have hpos : (0 : ℚ) < 10 ^ places := by positivity
  have hround := abs_sub_roundEven_le (x * 10 ^ places)
  have hnonneg : 0 ≤ roundEven (x * 10 ^ places) := roundEven_nonneg (by positivity)
  have hcast : ((lastPlaces places x : ℕ) : ℚ) = roundEven (x * 10 ^ places) := by
    unfold lastPlaces
    rw [abs_of_nonneg hx, ← Int.cast_natCast, Int.natAbs_of_nonneg hnonneg]
  have hscale : x - lastPlaces places x / 10 ^ places =
      (x * 10 ^ places - roundEven (x * 10 ^ places)) / 10 ^ places := by
    rw [hcast]
    field_simp
  rw [hscale, abs_div, abs_of_pos hpos]
  exact (div_le_div_iff_of_pos_right hpos).mpr hround

/-- Numbers within half a last place of a printed one print the same. -/
theorem lastPlaces_eq (hy : 0 ≤ y) (h : |y - n / 10 ^ places| < 1 / 2 / 10 ^ places) :
    lastPlaces places y = n := by
  have hpos : (0 : ℚ) < 10 ^ places := by positivity
  have hscaled : |y * 10 ^ places - (n : ℤ)| < 1 / 2 := by
    have hsplit : y * 10 ^ places - ((n : ℤ) : ℚ) = (y - n / 10 ^ places) * 10 ^ places := by
      push_cast
      field_simp
    rw [hsplit, abs_mul, abs_of_pos hpos]
    exact (lt_div_iff₀ hpos).mp h
  unfold lastPlaces
  rw [abs_of_nonneg hy, roundEven_eq_of_abs_lt hscaled, Int.natAbs_natCast]

theorem printFixed_of_nonneg (hx : 0 ≤ x) :
    printFixed places x = fixedDigits places (lastPlaces places x) := by
  unfold printFixed
  rw [if_neg (not_lt.mpr hx), List.nil_append]

end DecimalText
end UiAppearance
