import UiAppearance.DarkMode.Core
import UiAppearance.Sun.LocalMinutes
import Mathlib.Data.Rat.Floor

/-!
# The schedule that the sun times make

On a day with a sunrise and a sunset the calculator hands out two strings, the
start and the end of the dark interval. They mean the night exactly, but a night
without a whole minute, or a day without one, is no interval that a timer can
be set for.
-/

namespace UiAppearance
namespace SunSchedule

open AlarmTimerManager DailyInterval SunriseSunset SunriseSunsetInfo

variable {K : Type*} [Field K] [LinearOrder K] [FloorRing K]

/-- Sunset and sunrise as the strings spell them. -/
def times (info : SunriseSunsetInfo K) : ℤ × ℤ :=
  let sunriseMinutes := info.toLocalMinutes info.sunrise
  let sunsetMinutes := info.toLocalMinutes info.sunset
  (sunsetMinutes, if sunriseMinutes < sunsetMinutes then sunriseMinutes + 1440 else sunriseMinutes)

/-- Both strings are numbers, the timers accept them as a schedule, and so is whatever pair
is written to the settings. -/
structure ExportsSchedule (info : SunriseSunsetInfo K) : Prop where
  strings : info.condition = .normal → ∃ sunset sunrise : ℤ, info.getSunsetStr = toString sunset ∧
    info.getSunriseStr = toString sunrise ∧ AcceptedTimes (sunset, sunrise)
  written : ∀ newTimes ∈ info.newTimes, AcceptedTimes newTimes

section Strings

variable {info : SunriseSunsetInfo K} (hnormal : info.condition = .normal)

include hnormal

theorem getSunsetStr_of_normal : info.getSunsetStr = toString (times info).1 := by
  unfold getSunsetStr
  rw [if_neg (not_not_intro hnormal)]
  rfl

theorem getSunriseStr_of_normal : info.getSunriseStr = toString (times info).2 := by
  unfold getSunriseStr
  rw [if_neg (not_not_intro hnormal)]
  rfl

omit hnormal in
theorem isInt32_times (info : SunriseSunsetInfo K) :
    IsInt32 (times info).1 ∧ IsInt32 (times info).2 := by
  have hsunset := info.toLocalMinutes_bounds info.sunset
  have hsunrise := info.toLocalMinutes_bounds info.sunrise
  unfold times IsInt32
  dsimp only
  split_ifs <;> omega

omit hnormal in
/-- The schedule is accepted unless both events fall into the same minute. -/
theorem acceptedTimes_iff : AcceptedTimes (times info) ↔
    info.toLocalMinutes info.sunrise ≠ info.toLocalMinutes info.sunset := by
  have hsunset := info.toLocalMinutes_bounds info.sunset
  have hsunrise := info.toLocalMinutes_bounds info.sunrise
  have hint := isInt32_times info
  unfold AcceptedTimes
  rw [and_iff_right hint.1, and_iff_right hint.2, isValidScheduleTime_int hint.1 hint.2]
  unfold times
  dsimp only
  split_ifs <;> omega

/-- What is written to the settings is read back from the strings. -/
theorem newTimes_of_normal : info.newTimes = some (times info) := by
  have hempty {text : String} {v : ℤ} (h : stoi text = some v) : text.isEmpty = false := by
    rw [← Bool.not_eq_true, String.isEmpty_iff]
    rintro rfl
    cases h
  have hsunset := stoi_toString (isInt32_times info).1
  have hsunrise := stoi_toString (isInt32_times info).2
  have hday : info.isPolarDay = false := by
    unfold isPolarDay
    rw [hnormal]
    rfl
  have hnight : info.isPolarNight = false := by
    unfold isPolarNight
    rw [hnormal]
    rfl
  rw [← getSunsetStr_of_normal hnormal] at hsunset
  rw [← getSunriseStr_of_normal hnormal] at hsunrise
  unfold newTimes
  dsimp only
  rw [hday, hnight, hempty hsunset, hempty hsunrise, hsunset, hsunrise]
  rfl

omit hnormal in
theorem normal_of_newTimes {info : SunriseSunsetInfo K} {newTimes : ℤ × ℤ}
    (h : info.newTimes = some newTimes) : info.condition = .normal := by
  cases hcondition : info.condition with
  | normal => rfl
  | polarDay =>
    unfold SunriseSunsetInfo.newTimes isPolarDay at h
    rw [hcondition] at h
    cases h
  | polarNight =>
    unfold SunriseSunsetInfo.newTimes isPolarDay isPolarNight at h
    rw [hcondition] at h
    cases h

end Strings

section Calculated

variable [IsStrictOrderedRing K] {calcSunTimeMin : K → K → K → Bool → K}
  {localtime : ℤ → Option LocalTime} {lat lon : K} {timestampMs : ℤ}

theorem acceptedTimes_construct_iff (hvalid : validCoordinates lat lon = true) :
    AcceptedTimes (times (construct calcSunTimeMin localtime lat lon timestampMs)) ↔
      eventMinute (refined calcSunTimeMin lat lon timestampMs true) ≠
        eventMinute (refined calcSunTimeMin lat lon timestampMs false) := by
  have hresult := result_of_valid calcSunTimeMin timestampMs hvalid
  have hsunrise : (construct calcSunTimeMin localtime lat lon timestampMs).sunrise = _ :=
    congrArg Prod.fst hresult
  have hsunset : (construct calcSunTimeMin localtime lat lon timestampMs).sunset = _ :=
    congrArg Prod.snd hresult
  have hbounds := eventMinute_bounds (refined calcSunTimeMin lat lon timestampMs true)
  have hbounds' := eventMinute_bounds (refined calcSunTimeMin lat lon timestampMs false)
  rw [acceptedTimes_iff, hsunrise, hsunset, toLocalMinutes_utcSeconds, toLocalMinutes_utcSeconds]
  omega

/-- The strings make a schedule unless sunrise and sunset round to the same minute of the day. -/
theorem exportsSchedule_iff (calcSunTimeMin : K → K → K → Bool → K)
    (localtime : ℤ → Option LocalTime) (lat lon : K) (timestampMs : ℤ) :
    ExportsSchedule (construct calcSunTimeMin localtime lat lon timestampMs) ↔
      (validCoordinates lat lon = true →
        refined calcSunTimeMin lat lon timestampMs false ≠ polarMark →
        eventMinute (refined calcSunTimeMin lat lon timestampMs true) ≠
          eventMinute (refined calcSunTimeMin lat lon timestampMs false)) := by
  constructor
  · intro h hvalid hfound
    have hnormal :
        (construct calcSunTimeMin localtime lat lon timestampMs).condition = .normal :=
      (normal_construct_iff calcSunTimeMin localtime timestampMs hvalid).mpr hfound
    rw [← acceptedTimes_construct_iff hvalid]
    exact h.written _ (newTimes_of_normal hnormal)
  · intro h
    have haccepted (hnormal : (construct calcSunTimeMin localtime lat lon
        timestampMs).condition = .normal) :
        AcceptedTimes (times (construct calcSunTimeMin localtime lat lon timestampMs)) := by
      cases hvalid : validCoordinates lat lon with
      | false =>
        rw [condition_of_invalid calcSunTimeMin localtime timestampMs hvalid] at hnormal
        cases hnormal
      | true =>
        rw [normal_construct_iff calcSunTimeMin localtime timestampMs hvalid] at hnormal
        exact (acceptedTimes_construct_iff hvalid).mpr (h hvalid hnormal)
    refine ⟨fun hnormal => ⟨_, _, getSunsetStr_of_normal hnormal, getSunriseStr_of_normal hnormal,
      haccepted hnormal⟩, ?_⟩
    intro newTimes hnew
    have hnormal := normal_of_newTimes hnew
    rw [newTimes_of_normal hnormal] at hnew
    obtain rfl := Option.some.inj hnew
    exact haccepted hnormal

end Calculated

/-- With a sunrise at 8:00 and a sunset at 16:00 UTC there is a schedule. -/
theorem winterDay_exportsSchedule :
    ExportsSchedule (construct (fun _ _ _ isSunrise => if isSunrise then (480 : ℚ) else 960)
      (fun _ => none) 50 0 0) :=
  (exportsSchedule_iff ..).mpr (by decide +kernel)

/-- A winter day near the polar circle on which the sun is up for twelve seconds. -/
def shortestDay : SunriseSunsetInfo ℚ :=
  construct (fun _ _ _ isSunrise => if isSunrise then 719.9 else 720.1) (fun _ => none) 67 0 0

/-- Both strings say 720, and the pair goes to the settings. -/
theorem shortestDay_rejected :
    shortestDay.condition = .normal ∧ ¬ExportsSchedule shortestDay := by
  have hnormal : shortestDay.condition = .normal := by decide +kernel
  refine ⟨hnormal, ?_⟩
  intro h
  have haccepted : AcceptedTimes (times shortestDay) := h.written _ (newTimes_of_normal hnormal)
  exact absurd haccepted (by decide +kernel)

section Night

variable {info : SunriseSunsetInfo K} {clock : Clock} {localtime : ℤ → Option LocalTime}
  {timestampMs : ℤ} {localTm : LocalTime}

/-- The interval that the two strings spell contains a minute exactly when it is night then. -/
theorem isWithinTimeInterval_eq_isNighttime (hnormal : info.condition = .normal)
    (hclock : clock.failed = false) (hlocal : localtime (timestampMs.tdiv 1000) = some localTm)
    (hminute : localTm.hour * 60 + localTm.min = clock.minuteOfDay) :
    ∃ sunset sunrise : ℤ, stoi info.getSunsetStr = some sunset ∧
      stoi info.getSunriseStr = some sunrise ∧
      isWithinTimeInterval clock (toUInt64 sunset) (toUInt64 sunrise) =
        info.isNighttime localtime timestampMs := by
  have hint := isInt32_times info
  refine ⟨(times info).1, (times info).2, ?_, ?_, ?_⟩
  · rw [getSunsetStr_of_normal hnormal]
    exact stoi_toString hint.1
  · rw [getSunriseStr_of_normal hnormal]
    exact stoi_toString hint.2
  · have hsunset := info.toLocalMinutes_bounds info.sunset
    have hsunrise := info.toLocalMinutes_bounds info.sunrise
    have hlt := clock.minuteOfDay_lt
    have hend : 0 ≤ (times info).2 := by
      unfold times
      dsimp only
      split_ifs <;> omega
    have hwithin := DarkModeState.within_eq_covers hclock ⟨hsunset.1, hint.1⟩ ⟨hend, hint.2⟩
    unfold DarkModeState.within at hwithin
    unfold isNighttime isDaytime
    rw [hnormal, hlocal, hwithin]
    dsimp only
    rw [hminute, Bool.eq_iff_iff, covers_eq_true]
    unfold times
    dsimp only
    split_ifs
    · simp only [Bool.not_eq_true', Bool.and_eq_false_iff, decide_eq_false_iff_not]
      omega
    · simp only [Bool.not_eq_true', Bool.or_eq_false_iff, decide_eq_false_iff_not]
      omega

end Night

/-- Sunset at 18:00 and sunrise at 6:00 UTC, seen eight hours east of Greenwich. -/
def eastern : SunriseSunsetInfo ℚ := ⟨21600, 64800, -480, .normal⟩

/-- There the sun sets at 2:00 and rises at 14:00, so that noon is in the night. -/
theorem eastern_noon :
    ∃ sunset sunrise : ℤ, stoi eastern.getSunsetStr = some sunset ∧
      stoi eastern.getSunriseStr = some sunrise ∧
      isWithinTimeInterval ⟨1000000, 43200, 956800, by decide⟩ (toUInt64 sunset)
        (toUInt64 sunrise) = eastern.isNighttime (fun _ => some ⟨12, 0, 28800⟩) 0 :=
  isWithinTimeInterval_eq_isNighttime rfl rfl rfl rfl

end SunSchedule
end UiAppearance
