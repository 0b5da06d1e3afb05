import Mathlib.Algebra.Ring.Int.Defs
import Mathlib.Algebra.Ring.Nat
import Mathlib.Tactic.Common

/-!
# Fixed-width integers

Signed 32-bit values are integers in range; the unsigned types are naturals,
reached from the integers by reduction modulo their width.
-/

namespace UiAppearance

def IsInt32 (x : ℤ) : Prop := -2 ^ 31 ≤ x ∧ x < 2 ^ 31

instance (x : ℤ) : Decidable (IsInt32 x) :=
  inferInstanceAs (Decidable (-2 ^ 31 ≤ x ∧ x < 2 ^ 31))

/-- Conversion of an integer to `uint64_t`. -/
def toUInt64 (x : ℤ) : ℕ := (x % 2 ^ 64).toNat

def toUInt32 (x : ℤ) : ℕ := (x % 2 ^ 32).toNat

theorem toUInt64_of_nonneg {x : ℤ} (h : 0 ≤ x) (hx : IsInt32 x) : toUInt64 x = x.toNat := by
  have hhigh := hx.2
  have hmod : x % 2 ^ 64 = x := by omega
  unfold toUInt64
  rw [hmod]

/-- Nothing is lost of a number that fits. -/
theorem toUInt64_cast {x : ℤ} (h : 0 ≤ x) (hx : x < 2 ^ 64) : (toUInt64 x : ℤ) = x := by
  have hmod : x % 2 ^ 64 = x := Int.emod_eq_of_lt h hx
  unfold toUInt64
  rw [hmod]
  exact Int.toNat_of_nonneg h

/-- A negative 32-bit value becomes a number no minute of a day can reach. -/
theorem toUInt64_of_neg {x : ℤ} (h : x < 0) (hx : IsInt32 x) : 2 ^ 63 ≤ toUInt64 x := by
  have hlow := hx.1
  have hmod : x % 2 ^ 64 = x + 2 ^ 64 := by omega
  unfold toUInt64
  omega

end UiAppearance
