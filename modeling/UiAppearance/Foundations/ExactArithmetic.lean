import Mathlib.Algebra.Ring.Int.Defs
import Mathlib.Tactic.Common

/-!
# Exact machine arithmetic

An integer type of a machine is the interval of the numbers it holds. An
operation has a result while the mathematical one lies in that interval; a
calculation written with these operations has one only if nothing in it
overflows, and the result is then the mathematical one.
-/

namespace ExactArithmetic

/-- The numbers from the least to the greatest value of a type. -/
structure IntRange where
  least : ℤ
  greatest : ℤ

namespace IntRange

def signed (bits : ℕ) : IntRange := ⟨-2 ^ (bits - 1), 2 ^ (bits - 1) - 1⟩

def unsigned (bits : ℕ) : IntRange := ⟨0, 2 ^ bits - 1⟩

def Fits (t : IntRange) (x : ℤ) : Prop := t.least ≤ x ∧ x ≤ t.greatest

instance (t : IntRange) (x : ℤ) : Decidable (t.Fits x) :=
  inferInstanceAs (Decidable (_ ∧ _))

/-- A number as a value of the type, which conversions are too. -/
def fit (t : IntRange) (x : ℤ) : Option ℤ := if t.Fits x then some x else none

def add (t : IntRange) (x y : ℤ) : Option ℤ := t.fit (x + y)

def sub (t : IntRange) (x y : ℤ) : Option ℤ := t.fit (x - y)

def mul (t : IntRange) (x y : ℤ) : Option ℤ := t.fit (x * y)

variable {t : IntRange} {x y z : ℤ} {α : Type*} {f : ℤ → Option α} {a : α}

theorem fit_eq_some_iff : t.fit x = some y ↔ t.Fits x ∧ x = y := by
  unfold fit
  split_ifs with h
  · simp [h]
  · simp [h]

theorem mul_eq_some_iff : t.mul x y = some z ↔ t.Fits (x * y) ∧ x * y = z := fit_eq_some_iff

/-- A calculation that goes on with a value needs the value first. -/
theorem fit_bind_eq_some_iff : (t.fit x).bind f = some a ↔ t.Fits x ∧ f x = some a := by
  unfold fit
  split_ifs with h
  · simp [h]
  · simp [h]

theorem add_bind_eq_some_iff :
    (t.add x y).bind f = some a ↔ t.Fits (x + y) ∧ f (x + y) = some a := fit_bind_eq_some_iff

theorem sub_bind_eq_some_iff :
    (t.sub x y).bind f = some a ↔ t.Fits (x - y) ∧ f (x - y) = some a := fit_bind_eq_some_iff

theorem mul_bind_eq_some_iff :
    (t.mul x y).bind f = some a ↔ t.Fits (x * y) ∧ f (x * y) = some a := fit_bind_eq_some_iff

end IntRange
end ExactArithmetic
