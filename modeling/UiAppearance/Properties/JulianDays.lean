import UiAppearance.Sun.SunriseSunset
import Mathlib.Data.Rat.Floor
import Mathlib.Tactic.IntervalCases

/-!
# Julian days

The calculator's formula for the Julian day counts the days of the Gregorian
calendar. The second iteration adds minutes that count from midnight to the
Julian day of noon.
-/

namespace UiAppearance
namespace JulianDays

open Calendar SunriseSunset

/-- The whole number in the formula: days of years and months, and the corrections. -/
def dayNumber (year month day : ℤ) : ℤ :=
  let shifted : ℤ × ℤ := if month ≤ 2 then (year - 1, month + 12) else (year, month)
  365 * (shifted.1 + 4716) + (shifted.1 + 4716) / 4 + 306001 * (shifted.2 + 1) / 10000 + day + 2 -
    shifted.1 / 100 + shifted.1 / 100 / 4

section Calendar

/-- The leap day is where the year of the formula begins anew. -/
theorem dayNumber_march (year : ℤ) :
    dayNumber year 3 1 = dayNumber year 2 (daysInMonth year 2 : ℕ) + 1 := by
  have hleap : isLeapYear year = true ↔
      year % 4 = 0 ∧ (year % 100 ≠ 0 ∨ year % 400 = 0) := by
    simp [isLeapYear]
  unfold dayNumber daysInMonth
  cases h : isLeapYear year with
  | true =>
    have hyear := hleap.mp h
    simp only [Int.reduceLE, if_true, if_false]
    push_cast
    omega
  | false =>
    have hyear : ¬(year % 4 = 0 ∧ (year % 100 ≠ 0 ∨ year % 400 = 0)) := by
      rw [← hleap, h]
      exact Bool.false_ne_true
    simp only [Int.reduceLE, if_true, if_false, Bool.false_eq_true]
    push_cast
    omega

/-- The multiples of 30.6001 have the lengths of the months in them. -/
theorem dayNumber_month (year : ℤ) {month : ℕ} (h : 1 ≤ month) (h' : month < 12) :
    dayNumber year (month + 1 : ℕ) 1 =
      dayNumber year month (daysInMonth year month : ℕ) + 1 := by
  interval_cases month
  case «2» => exact dayNumber_march year
  all_goals
    simp only [dayNumber, daysInMonth]
    push_cast
    omega

/-- From one date to the next the number grows by one: within a month, from month to month, and
from December to January. -/
theorem dayNumber_next (date : Date) :
    dayNumber date.next.year date.next.month date.next.day =
      dayNumber date.year date.month date.day + 1 := by
  have hdays := date.day_bounds
  have hmonths := date.month_bounds
  unfold Date.next
  split_ifs with hday hmonth
  · unfold dayNumber
    dsimp only
    push_cast
    omega
  · have hlast : date.day = daysInMonth date.year date.month := by omega
    dsimp only
    rw [hlast]
    exact dayNumber_month date.year hmonths.1 hmonth
  · have hlast : date.day = daysInMonth date.year date.month := by omega
    have hdecember : date.month = 12 := by omega
    rw [hdecember] at hlast
    dsimp only
    rw [hlast, hdecember]
    simp only [dayNumber, daysInMonth]
    push_cast
    norm_num
    omega

theorem dayNumber_ofDay {n : ℤ} (h : 0 ≤ n) :
    dayNumber (Date.ofDay n).year (Date.ofDay n).month (Date.ofDay n).day = 2442112 + n := by
  induction n, h using Int.leInduction with
  | base => decide
  | succ n hn ih =>
    rw [Date.ofDay_add_one, dayNumber_next, ih, add_assoc]

end Calendar

section Formula

variable {K : Type*} [Field K] [LinearOrder K] [FloorRing K] [IsStrictOrderedRing K]

theorem floor_years (years : ℤ) :
    ⌊(365.25 : K) * ((years : K) + 4716)⌋ = 365 * (years + 4716) + (years + 4716) / 4 := by
  have hsplit : (365.25 : K) * ((years : K) + 4716) =
      ((years + 4716 : ℤ) : K) / ((4 : ℕ) : K) + ((365 * (years + 4716) : ℤ) : K) := by
    push_cast
    norm_num
    ring
  rw [hsplit, Int.floor_add_intCast, Int.floor_div_natCast, Int.floor_intCast, add_comm]
  rfl

theorem floor_months (months : ℤ) :
    ⌊(30.6001 : K) * (months : K)⌋ = 306001 * months / 10000 := by
  have hquotient : (30.6001 : K) * (months : K) =
      ((306001 * months : ℤ) : K) / ((10000 : ℕ) : K) := by
    push_cast
    norm_num
    ring
  rw [hquotient, Int.floor_div_natCast, Int.floor_intCast]
  rfl

/-- The formula, floors and truncating divisions resolved. -/
theorem calcJulianDay_eq {year : ℤ} (h : 1 ≤ year) (month day : ℤ) (hour : K) :
    calcJulianDay year month day hour = (dayNumber year month day : K) - 1524.5 + hour / 24 := by
  have hyear : 0 ≤ (if month ≤ 2 then (year - 1, month + 12) else (year, month)).1 := by
    split_ifs <;> dsimp only <;> omega
  unfold calcJulianDay dayNumber
  dsimp only
  rw [Int.tdiv_eq_ediv_of_nonneg hyear, Int.tdiv_eq_ediv_of_nonneg (by omega), floor_years,
    floor_months]
  push_cast
  ring

/-- For every second since the epoch the formula counts the days of the calendar, and it grows
by one from each day to the next. -/
theorem calcJulianDay_gmtime {rawTime : ℤ} (h : 0 ≤ rawTime) (hour : K) :
    calcJulianDay (gmtime rawTime).year (gmtime rawTime).month (gmtime rawTime).day hour =
        2440587.5 + ⌊(rawTime : K) / 86400⌋ + hour / 24 ∧
      gmtime (rawTime + 86400) = (gmtime rawTime).next ∧
      calcJulianDay (gmtime (rawTime + 86400)).year (gmtime (rawTime + 86400)).month
          (gmtime (rawTime + 86400)).day hour =
        calcJulianDay (gmtime rawTime).year (gmtime rawTime).month (gmtime rawTime).day hour +
          1 := by
  set today := gmtime rawTime with htoday
  set tomorrow := gmtime (rawTime + 86400) with htomorrow
  have hday : 0 ≤ rawTime / 86400 := by omega
  have hnext : tomorrow = today.next := by
    rw [htomorrow, htoday]
    unfold gmtime
    rw [← Date.ofDay_add_one]
    congr 1
    omega
  have hfloor : ⌊(rawTime : K) / 86400⌋ = rawTime / 86400 := by
    have hdiv := Int.floor_div_natCast (rawTime : K) 86400
    rw [Int.floor_intCast] at hdiv
    exact_mod_cast hdiv
  have hyear : 1970 ≤ today.year := Date.le_year_ofDay hday
  have hyear' : today.year ≤ today.next.year := today.year_le_next
  have hnumber : dayNumber today.year today.month today.day = 2442112 + rawTime / 86400 :=
    dayNumber_ofDay hday
  refine ⟨?_, hnext, ?_⟩
  · rw [calcJulianDay_eq (by omega), hnumber, hfloor]
    push_cast
    ring
  · rw [hnext, calcJulianDay_eq (by omega), calcJulianDay_eq (by omega), dayNumber_next]
    push_cast
    ring

end Formula

theorem calcJulianDay_gmtime_epoch :
    calcJulianDay 1970 1 1 (12 : ℚ) = 2440587.5 + ⌊((0 : ℤ) : ℚ) / 86400⌋ + 12 / 24 ∧
      gmtime 86400 = (gmtime 0).next :=
  have hepoch := calcJulianDay_gmtime (le_refl (0 : ℤ)) (12 : ℚ)
  ⟨hepoch.1, hepoch.2.1⟩

section Iteration

variable {K : Type*} [Field K] [LinearOrder K] [FloorRing K]

/-- The second evaluation is on the Julian day of the event that the first one found, counted
from midnight as the result is. -/
def EvaluatedAtEvent (calcSunTimeMin : K → K → K → Bool → K) (lat lon : K) (timestampMs : ℤ)
    (isSunrise : Bool) : Prop :=
  let utcTm := gmtime (timestampMs.tdiv 1000)
  let sunTimeMin := (calcSunTimeMin lat lon · isSunrise)
  (iterate sunTimeMin (noonJulianDay timestampMs)).2 =
    [noonJulianDay timestampMs, calcJulianDay utcTm.year utcTm.month utcTm.day 0 +
      sunTimeMin (noonJulianDay timestampMs) / 1440.0]

theorem noonJulianDay_eq (timestampMs : ℤ) :
    let utcTm := gmtime (timestampMs.tdiv 1000)
    (noonJulianDay timestampMs : K) =
      calcJulianDay utcTm.year utcTm.month utcTm.day 0 + 1 / 2 := by
  unfold noonJulianDay calcJulianDay
  dsimp only
  ring

variable [IsStrictOrderedRing K]

/-- Whatever the first evaluation finds, the second one is half a day after the event. -/
theorem iterate_halfDayLate {calcSunTimeMin : K → K → K → Bool → K} {lat lon : K}
    {timestampMs : ℤ} {isSunrise : Bool}
    (h : calcSunTimeMin lat lon (noonJulianDay timestampMs) isSunrise ≠ polarMark) :
    let utcTm := gmtime (timestampMs.tdiv 1000)
    (iterate (calcSunTimeMin lat lon · isSunrise) (noonJulianDay timestampMs)).2 =
        [noonJulianDay timestampMs, calcJulianDay utcTm.year utcTm.month utcTm.day 0 +
          calcSunTimeMin lat lon (noonJulianDay timestampMs) isSunrise / 1440 + 1 / 2] ∧
      ¬EvaluatedAtEvent calcSunTimeMin lat lon timestampMs isSunrise := by
  intro utcTm
  have hdays : (iterate (calcSunTimeMin lat lon · isSunrise) (noonJulianDay timestampMs)).2 =
      [noonJulianDay timestampMs, calcJulianDay utcTm.year utcTm.month utcTm.day 0 +
        calcSunTimeMin lat lon (noonJulianDay timestampMs) isSunrise / 1440 + 1 / 2] := by
    have hnoon := noonJulianDay_eq (K := K) timestampMs
    unfold iterate
    dsimp only
    rw [if_pos h, add_right_comm, ← hnoon]
  refine ⟨hdays, ?_⟩
  have hminutes : (1440.0 : K) = 1440 := by norm_num
  unfold EvaluatedAtEvent
  dsimp only
  rw [hdays, hminutes]
  intro heq
  have hlast := (List.cons.inj (List.cons.inj heq).2).1
  exact absurd (add_eq_left.mp hlast) (by norm_num)

end Iteration

/-- A sunrise at 6:00 and a sunset at 18:00 UTC. -/
def equinox (_ _ _ : ℚ) (isSunrise : Bool) : ℚ := if isSunrise then 360 else 1080

theorem iterate_halfDayLate_equinox :
    (iterate (equinox 0 0 · true) (noonJulianDay 0)).2 =
        [noonJulianDay 0,
          calcJulianDay 1970 1 1 0 + equinox 0 0 (noonJulianDay 0) true / 1440 + 1 / 2] ∧
      ¬EvaluatedAtEvent equinox 0 0 0 true :=
  iterate_halfDayLate (by decide +kernel)

/-- The sunrise at 6:00 of the first day is refined with the sun's position at 18:00. -/
theorem equinox_atEvening :
    (iterate (equinox 0 0 · true) (noonJulianDay 0)).2 = [2440588, 2440588.25] ∧
      ¬EvaluatedAtEvent equinox 0 0 0 true := by
  unfold EvaluatedAtEvent
  decide +kernel

end JulianDays
end UiAppearance
