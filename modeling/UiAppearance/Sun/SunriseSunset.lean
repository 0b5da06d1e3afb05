import UiAppearance.DarkMode.TemporaryColorMode
import UiAppearance.Foundations.Calendar
import UiAppearance.Sun.SolarPosition

/-!
# Sunrise and sunset

The calculator: two evaluations of the solar position for each event, the
second one on a Julian day corrected by the result of the first, and what a
`SunriseSunsetInfo` makes of the two results. The function that is evaluated
is a parameter. Results are seconds from midnight UTC.
-/

namespace UiAppearance

/-- `isspace`. -/
def isSpace (c : Char) : Bool := c.isWhitespace || c.toNat = 11 || c.toNat = 12

/-- `std::stoi`, which throws where there is no number or too large a one. -/
def stoi (text : String) : Option ℤ :=
  let value := match text.toList.dropWhile isSpace with
    | '+' :: cs => (DecimalText.readNat cs).map fun n => (n : ℤ)
    | cs => DecimalText.readInt cs
  value.filter fun v => decide (IsInt32 v)

theorem isSpace_of_mem_toString {c : Char} {v : ℤ} (h : c ∈ (toString v).toList) :
    isSpace c = false := by
  by_contra hspace
  have hdigit : c.isDigit = false := by
    rw [Bool.not_eq_false] at hspace
    simp only [isSpace, Char.isWhitespace, Bool.or_eq_true, decide_eq_true_eq] at hspace
    rcases hspace with ((((rfl | rfl) | rfl) | rfl) | hc) | hc
    · rfl
    · rfl
    · rfl
    · rfl
    · rw [← c.ofNat_toNat, hc]
      rfl
    · rw [← c.ofNat_toNat, hc]
      rfl
  have hminus : c ≠ '-' := by
    rintro rfl
    exact hspace rfl
  exact DecimalText.not_mem_toString hdigit hminus v h

theorem stoi_toString {v : ℤ} (h : IsInt32 v) : stoi (toString v) = some v := by
  have hblank : (toString v).toList.dropWhile isSpace = (toString v).toList := by
    rw [List.dropWhile_eq_self_iff]
    intro hlength
    rw [isSpace_of_mem_toString (List.getElem_mem hlength)]
    exact Bool.false_ne_true
  have hread := DecimalText.readInt_toString v
  unfold stoi
  rw [hblank]
  dsimp only
  split
  · next cs hplus =>
    have hmem : '+' ∈ (toString v).toList := hplus ▸ List.mem_cons_self
    exact absurd hmem (DecimalText.not_mem_toString (by decide) (by decide) v)
  · rw [hread]
    exact Option.filter_eq_some_iff.mpr ⟨rfl, decide_eq_true h⟩

/-- `gmtime_r` as far as the date; it fails only for years that no number of milliseconds
of 64 bits reaches. -/
def gmtime (rawTime : ℤ) : Calendar.Date := .ofDay (rawTime / 86400)

/-- What `localtime_r` fills in. -/
structure LocalTime where
  hour : ℤ
  min : ℤ
  gmtoff : ℤ

namespace SunriseSunset

open CMath

variable {K : Type*} [Field K] [LinearOrder K] [FloorRing K]

def normalizeRoundedMinutes (seconds : K) : ℤ :=
  let roundedMinutes := CMath.round (seconds / 60)
  (roundedMinutes.tmod 1440 + 1440).tmod 1440

/-- Result of the two iterations for one event, and the Julian days it was evaluated on. -/
def iterate (sunTimeMin : K → K) (jd : K) : K × List K :=
  let first := sunTimeMin jd
  if first ≠ polarMark then
    let refined := jd + first / 1440
    (sunTimeMin refined, [jd, refined])
  else (first, [jd])

/-- Minutes of an event as seconds of the day, in whole minutes. -/
def utcSeconds (minutes : K) : K :=
  if minutes ≠ polarMark then
    let adjustedMin := fmod (fmod minutes 1440 + 1440) 1440
    ((normalizeRoundedMinutes (adjustedMin * 60) * 60 : ℤ) : K)
  else polarMark

/-- The Julian day of UTC noon on the date of a timestamp. -/
def noonJulianDay (timestampMs : ℤ) : K :=
  let utcTm := gmtime (timestampMs.tdiv 1000)
  calcJulianDay utcTm.year utcTm.month utcTm.day 12

def validCoordinates (lat lon : K) : Bool :=
  !(decide (lat < -90.0) || decide (90.0 < lat) || decide (lon < -180.0) || decide (180.0 < lon))

/-- Sunrise and sunset; the function evaluated takes latitude, longitude and Julian day. -/
def calculateSunriseSunset (calcSunTimeMin : K → K → K → Bool → K) (lat lon : K)
    (timestampMs : ℤ) : K × K :=
  if !validCoordinates lat lon then (polarMark, polarMark)
  else
    let jd := noonJulianDay timestampMs
    let sunriseMin := (iterate (calcSunTimeMin lat lon · true) jd).1
    let sunsetMin := (iterate (calcSunTimeMin lat lon · false) jd).1
    (utcSeconds sunriseMin, utcSeconds sunsetMin)

end SunriseSunset

inductive SunCondition where
  | normal
  | polarDay
  | polarNight
  deriving DecidableEq, Repr

structure SunriseSunsetInfo (K : Type*) where
  sunrise : K
  sunset : K
  timezoneOffset : ℤ
  condition : SunCondition

namespace SunriseSunsetInfo

open CMath SunriseSunset

variable {K : Type*} [Field K] [LinearOrder K] [FloorRing K]

/-- The constructor. The offset counts minutes west of UTC. -/
def construct (calcSunTimeMin : K → K → K → Bool → K) (localtime : ℤ → Option LocalTime)
    (lat lon : K) (timestampMs : ℤ) : SunriseSunsetInfo K :=
  let timezoneOffset := match localtime (timestampMs.tdiv 1000) with
    | some localTm => (-localTm.gmtoff).tdiv 60
    | none => 0
  let result := calculateSunriseSunset calcSunTimeMin lat lon timestampMs
  { sunrise := result.1
    sunset := result.2
    timezoneOffset := timezoneOffset
    condition :=
      if result.1 = polarMark ∧ result.2 = polarMark then .polarNight
      else if result.2 = polarMark then .polarDay
      else .normal }

variable (info : SunriseSunsetInfo K)

def toLocalMinutes (utcSec : K) : ℤ :=
  let localSec := utcSec - ((info.timezoneOffset * 60 : ℤ) : K)
  normalizeRoundedMinutes (fmod (fmod localSec 86400 + 86400) 86400)

def isPolarDay : Bool := info.condition = .polarDay

def isPolarNight : Bool := info.condition = .polarNight

/-- The minute of the local day is compared with both events. -/
def isDaytime (localtime : ℤ → Option LocalTime) (timestampMs : ℤ) : Bool :=
  match info.condition with
  | .polarDay => true
  | .polarNight => false
  | .normal =>
    match localtime (timestampMs.tdiv 1000) with
    | none => false
    | some localTm =>
      let currentMinutes := localTm.hour * 60 + localTm.min
      let sunriseMin := info.toLocalMinutes info.sunrise
      let sunsetMin := info.toLocalMinutes info.sunset
      if sunriseMin < sunsetMin then
        decide (sunriseMin ≤ currentMinutes) && decide (currentMinutes < sunsetMin)
      else decide (sunriseMin ≤ currentMinutes) || decide (currentMinutes < sunsetMin)

def isNighttime (localtime : ℤ → Option LocalTime) (timestampMs : ℤ) : Bool :=
  match info.condition with
  | .polarNight => true
  | .polarDay => false
  | .normal => !info.isDaytime localtime timestampMs

def getSunsetStr : String :=
  if info.condition ≠ .normal then "" else toString (info.toLocalMinutes info.sunset)

/-- A sunrise earlier in the day than the sunset is that of the next day. -/
def getSunriseStr : String :=
  if info.condition ≠ .normal then ""
  else
    let sunriseMinutes := info.toLocalMinutes info.sunrise
    let sunsetMinutes := info.toLocalMinutes info.sunset
    toString (if sunriseMinutes < sunsetMinutes then sunriseMinutes + 1440 else sunriseMinutes)

/-- The times that `ApplySunriseSunsetTimes` goes on with, sunset first. -/
def newTimes : Option (ℤ × ℤ) :=
  if info.isPolarDay || info.isPolarNight then none
  else
    let sunsetStr := info.getSunsetStr
    let sunriseStr := info.getSunriseStr
    if sunsetStr.isEmpty || sunriseStr.isEmpty then none
    else do
      let newSunset ← stoi sunsetStr
      let newSunrise ← stoi sunriseStr
      return (newSunset, newSunrise)

end SunriseSunsetInfo
end UiAppearance
