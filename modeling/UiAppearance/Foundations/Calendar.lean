import Mathlib.Data.Int.Basic
import Mathlib.Logic.Function.Iterate
import Mathlib.Tactic.Common

/-!
# The proleptic Gregorian calendar

A date is a year, a month and a day that the month has. The calendar is the
order in which dates follow one another, in both directions from the epoch,
the first of January 1970. The days of the calendar are counted from there.
-/

namespace Calendar

def isLeapYear (year : ℤ) : Bool := year % 4 = 0 && (year % 100 ≠ 0 || year % 400 = 0)

def daysInMonth (year : ℤ) : ℕ → ℕ
  | 2 => if isLeapYear year then 29 else 28
  | 4 | 6 | 9 | 11 => 30
  | _ => 31

theorem daysInMonth_pos (year : ℤ) (month : ℕ) : 1 ≤ daysInMonth year month := by
  unfold daysInMonth
  split
  · split_ifs <;> omega
  all_goals omega

@[ext]
structure Date where
  year : ℤ
  month : ℕ
  day : ℕ
  month_bounds : 1 ≤ month ∧ month ≤ 12
  day_bounds : 1 ≤ day ∧ day ≤ daysInMonth year month
  deriving DecidableEq, Repr

namespace Date

variable (date : Date)

/-- The day after. -/
def next : Date :=
  if hday : date.day < daysInMonth date.year date.month then
    ⟨date.year, date.month, date.day + 1, date.month_bounds, by omega⟩
  else if hmonth : date.month < 12 then
    ⟨date.year, date.month + 1, 1, by omega, le_rfl, daysInMonth_pos ..⟩
  else ⟨date.year + 1, 1, 1, by omega, le_rfl, daysInMonth_pos ..⟩

/-- The day before. -/
def previous : Date :=
  if hday : 1 < date.day then
    ⟨date.year, date.month, date.day - 1, date.month_bounds, by have := date.day_bounds; omega⟩
  else if hmonth : 1 < date.month then
    ⟨date.year, date.month - 1, daysInMonth date.year (date.month - 1),
      by have := date.month_bounds; omega, daysInMonth_pos .., le_rfl⟩
  else ⟨date.year - 1, 12, daysInMonth (date.year - 1) 12, by omega, daysInMonth_pos .., le_rfl⟩

def epoch : Date := ⟨1970, 1, 1, by decide, by decide⟩

/-- The date of a day counted from the epoch. -/
def ofDay : ℤ → Date
  | .ofNat n => next^[n] epoch
  | .negSucc n => previous^[n + 1] epoch

theorem next_previous : date.previous.next = date := by
  have hdays := date.day_bounds
  have hmonths := date.month_bounds
  by_cases hday : 1 < date.day
  · have hprevious : date.previous = ⟨date.year, date.month, date.day - 1, hmonths, by omega⟩ :=
      dif_pos hday
    rw [hprevious, next, dif_pos (by dsimp only; omega)]
    exact Date.ext rfl rfl (by dsimp only; omega)
  · by_cases hmonth : 1 < date.month
    · have hprevious : date.previous = ⟨date.year, date.month - 1,
          daysInMonth date.year (date.month - 1), by omega, daysInMonth_pos .., le_rfl⟩ := by
        rw [previous, dif_neg hday, dif_pos hmonth]
      rw [hprevious, next, dif_neg (by dsimp only; omega), dif_pos (by dsimp only; omega)]
      exact Date.ext rfl (by dsimp only; omega) (by dsimp only; omega)
    · have hprevious : date.previous = ⟨date.year - 1, 12, daysInMonth (date.year - 1) 12,
          by omega, daysInMonth_pos .., le_rfl⟩ := by
        rw [previous, dif_neg hday, dif_neg hmonth]
      rw [hprevious, next, dif_neg (Nat.lt_irrefl _), dif_neg (Nat.lt_irrefl _)]
      exact Date.ext (by dsimp only; omega) (by dsimp only; omega) (by dsimp only; omega)

/-- The calendar goes on day by day, before the epoch as after it. -/
theorem ofDay_add_one (n : ℤ) : ofDay (n + 1) = (ofDay n).next := by
  cases n with
  | ofNat n => exact Function.iterate_succ_apply' next n epoch
  | negSucc n =>
    have hday : ofDay (.negSucc n) = previous (previous^[n] epoch) :=
      Function.iterate_succ_apply' previous n epoch
    rw [hday, next_previous]
    cases n with
    | zero => rfl
    | succ n => rfl

theorem year_le_next : date.year ≤ date.next.year := by
  unfold next
  split_ifs <;> dsimp only <;> omega

/-- No year before that of the epoch comes after it. -/
theorem le_year_ofDay {n : ℤ} (h : 0 ≤ n) : 1970 ≤ (ofDay n).year := by
  induction n, h using Int.leInduction with
  | base => decide
  | succ n _ ih =>
    have hle := year_le_next (ofDay n)
    rw [ofDay_add_one]
    omega

end Date
end Calendar
