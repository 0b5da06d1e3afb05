import UiAppearance.Foundations.CMath
import Mathlib.Tactic.Common

/-!
# Position of the sun

The formulas of the sunrise and sunset calculator, term by term, with the
coefficients as the decimal numbers that are written in the source. The
arithmetic is exact; the trigonometric functions and π are parameters. A
division by zero has no finite result.
-/

namespace UiAppearance

/-- What `<cmath>` provides besides arithmetic. -/
structure Trigonometry (K : Type*) where
  pi : K
  sin : K → K
  cos : K → K
  tan : K → K
  asin : K → K
  acos : K → K

namespace SunriseSunset

open CMath

variable {K : Type*} [Field K] [LinearOrder K] [FloorRing K]

/-- Stands for a sunrise or a sunset that does not happen. -/
def polarMark : K := -1

/-- January and February count as months 13 and 14 of the year before. -/
def calcJulianDay (year month day : ℤ) (hour : K) : K :=
  let shifted : ℤ × ℤ := if month ≤ 2 then (year - 1, month + 12) else (year, month)
  let centuryDiv := shifted.1.tdiv 100
  let gregorianCorr := 2 - centuryDiv + centuryDiv.tdiv 4
  (⌊(365.25 : K) * (shifted.1 + 4716)⌋ : K) + ⌊(30.6001 : K) * (shifted.2 + 1 : ℤ)⌋ + day +
    hour / 24 + gregorianCorr - 1524.5

def calcJulianCent (jd : K) : K := (jd - 2451545) / 36525

def calcMeanLong (t : K) : K :=
  let meanLong := 280.46646 + 36000.76983 * t + 0.0003032 * t * t
  fmod (fmod meanLong 360 + 360) 360

def calcMeanAnomaly (t : K) : K := 357.52911 + 35999.05029 * t - 0.0001537 * t * t

def calcEccentricity (t : K) : K := 0.016708634 - 0.000042037 * t - 0.0000001267 * t * t

def calcMeanObliq (t : K) : K :=
  let sec := 21.448 - t * (46.815 + t * (0.00059 - t * 0.001813))
  23.0 + (26.0 + sec / 60.0) / 60.0

section Trigonometric

variable (trig : Trigonometry K)

def deg2rad : K := trig.pi / 180
def rad2deg : K := 180 / trig.pi

def calcEqOfCenter (t m : K) : K :=
  let mRad := m * deg2rad trig
  (1.914602 - 0.004817 * t - 0.000014 * t * t) * trig.sin mRad +
    (0.019993 - 0.000101 * t) * trig.sin (2.0 * mRad) + 0.000289 * trig.sin (3.0 * mRad)

def calcAppLong (t lTrue : K) : K :=
  let omega := 125.04 - 1934.136 * t
  lTrue - 0.00569 - 0.00478 * trig.sin (omega * deg2rad trig)

def calcObliqCorr (t meanObliq : K) : K :=
  let omega := 125.04 - 1934.136 * t
  meanObliq + 0.00256 * trig.cos (omega * deg2rad trig)

def calcDeclination (obliqCorr appLong : K) : K :=
  trig.asin (trig.sin (obliqCorr * deg2rad trig) * trig.sin (appLong * deg2rad trig)) *
    rad2deg trig

/-- The equation of time, in minutes. -/
def calcEqOfTime (meanLong meanAnomaly e obliqCorr : K) : K :=
  let y := trig.tan (obliqCorr * deg2rad trig / 2.0) * trig.tan (obliqCorr * deg2rad trig / 2.0)
  let meanLongRad := meanLong * deg2rad trig
  let meanAnomalyRad := meanAnomaly * deg2rad trig
  let sin2MeanLong := trig.sin (2.0 * meanLongRad)
  let sinMeanAnomaly := trig.sin meanAnomalyRad
  let cos2MeanLong := trig.cos (2.0 * meanLongRad)
  let sin4MeanLong := trig.sin (4.0 * meanLongRad)
  let sin2MeanAnomaly := trig.sin (2.0 * meanAnomalyRad)
  4.0 * rad2deg trig * (y * sin2MeanLong - 2.0 * e * sinMeanAnomaly +
    4.0 * e * y * sinMeanAnomaly * cos2MeanLong - 0.5 * y * y * sin4MeanLong -
    1.25 * e * e * sin2MeanAnomaly)

/-- The cosine of the hour angle, where the quotient is finite. -/
def cosHourAngle (lat dec : K) : Option K :=
  let divisor := trig.cos (lat * deg2rad trig) * trig.cos (dec * deg2rad trig)
  if divisor = 0 then none
  else
    some ((trig.cos (90.833 * deg2rad trig) -
      trig.sin (lat * deg2rad trig) * trig.sin (dec * deg2rad trig)) / divisor)

/-- The same mark for a sun that does not rise and for one that does not set. -/
def calcHourAngle (lat dec : K) : K :=
  match cosHourAngle trig lat dec with
  | none => polarMark
  | some cosH =>
    if 1 < cosH then polarMark
    else if cosH < -1 then polarMark
    else trig.acos cosH * rad2deg trig

/-- The declination of the sun on a Julian day, by way of the apparent longitude. -/
def declinationOn (jd : K) : K :=
  let t := calcJulianCent jd
  let lTrue := calcMeanLong t + calcEqOfCenter trig t (calcMeanAnomaly t)
  calcDeclination trig (calcObliqCorr trig t (calcMeanObliq t)) (calcAppLong trig t lTrue)

/-- Minutes after midnight UTC, or the mark. -/
def calcSunTimeMin (lat lon jd : K) (isSunrise : Bool) : K :=
  let t := calcJulianCent jd
  let eqTime := calcEqOfTime trig (calcMeanLong t) (calcMeanAnomaly t) (calcEccentricity t)
    (calcObliqCorr trig t (calcMeanObliq t))
  let ha := calcHourAngle trig lat (declinationOn trig jd)
  if ha = polarMark then polarMark
  else
    let solarNoon := 720 - 4 * lon - eqTime
    if isSunrise then solarNoon - ha * 4 else solarNoon + ha * 4

/-- An hour angle whose cosine is no cosine gives the mark, for either event. -/
theorem calcSunTimeMin_of_polar {lat lon jd cosH : K} {isSunrise : Bool}
    (hcos : cosHourAngle trig lat (declinationOn trig jd) = some cosH)
    (hpolar : cosH < -1 ∨ 1 < cosH) : calcSunTimeMin trig lat lon jd isSunrise = polarMark := by
  have hangle : calcHourAngle trig lat (declinationOn trig jd) = polarMark := by
    unfold calcHourAngle
    rw [hcos]
    rcases hpolar with hday | hnight
    · dsimp only
      split_ifs <;> rfl
    · exact if_pos hnight
  unfold calcSunTimeMin
  exact if_pos hangle

end Trigonometric

end SunriseSunset
end UiAppearance
