import UiAppearance.Foundations.CMath
import UiAppearance.Foundations.MachineInt
import UiAppearance.Foundations.Table
import Mathlib.Data.Rat.Floor

/-!
# JSON documents

A parsed document, with the three kinds of numbers a parser tells apart. Asking
for a member of anything but an object finds none. A number is converted like a
C++ value of its kind: integers keep their low 32 bits, floating-point numbers
lose their fraction. Where the integer part does not fit, C++ leaves the result
open, and so does `FloatCast`.
-/

namespace UiAppearance

inductive Json where
  | null
  | boolean (value : Bool)
  | numberInteger (value : ℤ)
  | numberUnsigned (value : ℕ)
  | numberFloat (value : ℚ)
  | string (value : String)
  | array (items : List Json)
  | object (members : String → Option Json)

/-- A conversion of floating-point numbers to `int32_t`. -/
structure FloatCast where
  toInt32 : ℚ → ℤ
  isInt32 : ∀ x, IsInt32 (toInt32 x)
  toInt32_eq : ∀ x, IsInt32 (CMath.trunc x) → toInt32 x = CMath.trunc x

/-- A conversion that keeps to the range. -/
def FloatCast.saturating : FloatCast where
  toInt32 x := max (-2 ^ 31) (min (CMath.trunc x) (2 ^ 31 - 1))
  isInt32 x := by
    unfold IsInt32
    omega
  toInt32_eq x h := by
    unfold IsInt32 at h
    omega

namespace Json

def member (key : String) : Json → Option Json
  | object members => members key
  | _ => none

/-- The number itself. -/
def number : Json → Option ℚ
  | numberInteger value => some value
  | numberUnsigned value => some value
  | numberFloat value => some value
  | _ => none

/-- What `get<int32_t>` makes of a number. -/
def toInt32 (cast : FloatCast) : Json → Option ℤ
  | numberInteger value => some (value.bmod (2 ^ 32))
  | numberUnsigned value => some ((value : ℤ).bmod (2 ^ 32))
  | numberFloat value => some (cast.toInt32 value)
  | _ => none

theorem bmod_eq_self {v : ℤ} : v.bmod (2 ^ 32) = v ↔ IsInt32 v := by
  unfold IsInt32
  rw [Int.bmod_eq_iff (by decide)]
  constructor
  · rintro ⟨hlow, hhigh, -⟩
    omega
  · rintro ⟨hlow, hhigh⟩
    refine ⟨by omega, by omega, ?_⟩
    rw [Int.sub_self]
    exact Int.dvd_zero _

theorem trunc_intCast (v : ℤ) : CMath.trunc (v : ℚ) = v := by
  unfold CMath.trunc
  rw [Int.floor_intCast, Int.ceil_intCast, ite_self]

theorem isInt32_toInt32 {cast : FloatCast} {json : Json} {v : ℤ}
    (h : json.toInt32 cast = some v) : IsInt32 v := by
  have hbmod (w : ℤ) : IsInt32 (w.bmod (2 ^ 32)) := by
    have hlow : -((2 ^ 32 : ℕ) / 2 : ℤ) ≤ w.bmod (2 ^ 32) := Int.le_bmod (by decide)
    have hhigh : w.bmod (2 ^ 32) < ((2 ^ 32 : ℕ) + 1) / 2 := Int.bmod_lt (by decide)
    unfold IsInt32
    omega
  cases json with
  | numberInteger value | numberUnsigned value =>
    obtain rfl := Option.some.inj h
    exact hbmod _
  | numberFloat value =>
    obtain rfl := Option.some.inj h
    exact cast.isInt32 value
  | null | boolean | string | array | object => cases h

theorem toInt32_of_number (cast : FloatCast) {json : Json} {v : ℤ} (hv : IsInt32 v)
    (h : json.number = some (v : ℚ)) : json.toInt32 cast = some v := by
  cases json with
  | numberInteger value =>
    obtain rfl : value = v := Int.cast_injective (Option.some.inj h)
    exact congrArg some (bmod_eq_self.mpr hv)
  | numberUnsigned value =>
    obtain rfl : (value : ℤ) = v := by exact_mod_cast Option.some.inj h
    exact congrArg some (bmod_eq_self.mpr hv)
  | numberFloat value =>
    obtain rfl : value = (v : ℚ) := Option.some.inj h
    have htrunc := cast.toInt32_eq v
    rw [trunc_intCast] at htrunc
    exact congrArg some (htrunc hv)
  | null | boolean | string | array | object => cases h

/-- The conversion keeps the numbers that are an `int32_t`, and no others. -/
theorem number_eq_toInt32 {cast : FloatCast} {json : Json} {v : ℤ}
    (h : json.toInt32 cast = some v) :
    json.number = some (v : ℚ) ↔ ∃ w : ℤ, IsInt32 w ∧ json.number = some (w : ℚ) := by
  constructor
  · intro hnumber
    exact ⟨v, isInt32_toInt32 h, hnumber⟩
  · rintro ⟨w, hw, hnumber⟩
    obtain rfl := Option.some.inj (h.symm.trans (toInt32_of_number cast hw hnumber))
    exact hnumber

end Json
end UiAppearance
