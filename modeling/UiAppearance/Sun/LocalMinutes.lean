import UiAppearance.Sun.SunriseSunset

/-!
# Whole minutes

However a result of the calculator comes out, its seconds are a whole number of
minutes or the mark, and its local minute is that number moved by the offset.
-/

namespace UiAppearance

open CMath

namespace SunriseSunset

/-- The floored remainder by way of the truncated one. -/
theorem tmod_add_tmod (a : ℤ) : (a.tmod 1440 + 1440).tmod 1440 = a % 1440 := by
  have hlow := Int.lt_tmod_of_pos a (by omega : (0 : ℤ) < 1440)
  rw [Int.tmod_eq_emod_of_nonneg (by omega), Int.tmod_eq_emod]
  split_ifs <;> omega

variable {K : Type*} [Field K] [LinearOrder K] [FloorRing K]

/-- The minute of the day, counted in UTC, that a result stands for; the mark counts as midnight. -/
def eventMinute (minutes : K) : ℤ :=
  if minutes ≠ polarMark then ⌊minutes + 0.5⌋ % 1440 else 0

theorem eventMinute_bounds (minutes : K) :
    0 ≤ eventMinute minutes ∧ eventMinute minutes < 1440 := by
  unfold eventMinute
  split_ifs <;> omega

variable [IsStrictOrderedRing K]

theorem normalizeRoundedMinutes_intCast {seconds : ℤ} (h : 0 ≤ seconds) :
    normalizeRoundedMinutes (seconds : K) = (seconds + 30) / 60 % 1440 := by
  have hround := round_intCast_div (K := K) h (by omega : 0 < 60)
  push_cast at hround
  unfold normalizeRoundedMinutes
  dsimp only
  rw [tmod_add_tmod, hround]
  omega

theorem utcSeconds_of_found {minutes : K} (h : minutes ≠ polarMark) :
    utcSeconds minutes = ((eventMinute minutes * 60 : ℤ) : K) := by
  have hwrap : fmod (fmod minutes 1440 + 1440) 1440 = wrap minutes ((1440 : ℕ) : K) := by
    have hpos : (0 : K) < (1440 : ℕ) := by norm_num
    exact_mod_cast fmod_fmod_add (x := minutes) hpos
  have hround : CMath.round (wrap minutes ((1440 : ℕ) : K)) = _ := round_wrap (by omega)
  have hhalf : (0.5 : K) = 1 / 2 := by norm_num
  unfold utcSeconds eventMinute normalizeRoundedMinutes
  rw [if_pos h, if_pos h, hwrap, hhalf]
  dsimp only
  rw [mul_div_cancel_right₀ _ (by norm_num : (60 : K) ≠ 0), tmod_add_tmod, hround]
  congr 2
  omega

theorem utcSeconds_eq_polarMark_iff {minutes : K} :
    utcSeconds minutes = polarMark ↔ minutes = polarMark := by
  constructor
  · intro hseconds
    by_contra hfound
    rw [utcSeconds_of_found hfound] at hseconds
    unfold polarMark at hseconds
    have hint : eventMinute minutes * 60 = -1 := by exact_mod_cast hseconds
    omega
  · rintro rfl
    exact if_neg (not_not_intro rfl)

end SunriseSunset

namespace SunriseSunsetInfo

open SunriseSunset

variable {K : Type*} [Field K] [LinearOrder K] [FloorRing K] (info : SunriseSunsetInfo K)

theorem toLocalMinutes_bounds (seconds : K) :
    0 ≤ info.toLocalMinutes seconds ∧ info.toLocalMinutes seconds < 1440 := by
  unfold toLocalMinutes normalizeRoundedMinutes
  dsimp only
  rw [tmod_add_tmod]
  omega

section Constructor

variable (calcSunTimeMin : K → K → K → Bool → K) (localtime : ℤ → Option LocalTime) {lat lon : K}
  (timestampMs : ℤ)

/-- The refined result for one event of the date of a timestamp. -/
def refined (lat lon : K) (timestampMs : ℤ) (isSunrise : Bool) : K :=
  (iterate (calcSunTimeMin lat lon · isSunrise) (noonJulianDay timestampMs)).1

theorem result_of_valid (h : validCoordinates lat lon = true) :
    calculateSunriseSunset calcSunTimeMin lat lon timestampMs =
      (utcSeconds (refined calcSunTimeMin lat lon timestampMs true),
        utcSeconds (refined calcSunTimeMin lat lon timestampMs false)) := by
  unfold calculateSunriseSunset
  rw [h]
  rfl

theorem condition_of_invalid (h : validCoordinates lat lon = false) :
    (construct calcSunTimeMin localtime lat lon timestampMs).condition = .polarNight := by
  unfold construct calculateSunriseSunset
  rw [h]
  exact if_pos ⟨rfl, rfl⟩

variable [IsStrictOrderedRing K]

/-- What the constructor makes of the two marks: the sunset alone makes a normal day. -/
theorem condition_of_valid (h : validCoordinates lat lon = true) :
    (construct calcSunTimeMin localtime lat lon timestampMs).condition =
      if refined calcSunTimeMin lat lon timestampMs false ≠ polarMark then .normal
      else if refined calcSunTimeMin lat lon timestampMs true ≠ polarMark then .polarDay
      else .polarNight := by
  unfold construct
  rw [result_of_valid calcSunTimeMin timestampMs h]
  simp only [utcSeconds_eq_polarMark_iff]
  split_ifs <;> simp_all

theorem normal_construct_iff (h : validCoordinates lat lon = true) :
    (construct calcSunTimeMin localtime lat lon timestampMs).condition = .normal ↔
      refined calcSunTimeMin lat lon timestampMs false ≠ polarMark := by
  rw [condition_of_valid calcSunTimeMin localtime timestampMs h]
  split_ifs with hset hrise
  · exact iff_of_true rfl hset
  · exact iff_of_false nofun hset
  · exact iff_of_false nofun hset

end Constructor

variable [IsStrictOrderedRing K]

theorem toLocalMinutes_intCast (seconds : ℤ) :
    info.toLocalMinutes (seconds : K) =
      ((seconds - info.timezoneOffset * 60) % 86400 + 30) / 60 % 1440 := by
  have hpos : (0 : K) < (86400 : ℕ) := by norm_num
  have hlocal : fmod (fmod ((seconds : K) - ((info.timezoneOffset * 60 : ℤ) : K)) 86400 + 86400)
      86400 = (((seconds - info.timezoneOffset * 60) % 86400 : ℤ) : K) := by
    have hwrap := fmod_fmod_add (x := ((seconds - info.timezoneOffset * 60 : ℤ) : K)) hpos
    rw [wrap_intCast] at hwrap
    push_cast at hwrap ⊢
    exact hwrap
  unfold toLocalMinutes
  dsimp only
  rw [hlocal, normalizeRoundedMinutes_intCast (by omega)]

theorem toLocalMinutes_minutes (minutes : ℤ) :
    info.toLocalMinutes ((minutes * 60 : ℤ) : K) = (minutes - info.timezoneOffset) % 1440 := by
  rw [toLocalMinutes_intCast]
  omega

/-- The mark is one second before midnight, which rounds to midnight. -/
theorem toLocalMinutes_utcSeconds (minutes : K) :
    info.toLocalMinutes (utcSeconds minutes) =
      (eventMinute minutes - info.timezoneOffset) % 1440 := by
  by_cases hfound : minutes ≠ polarMark
  · rw [utcSeconds_of_found hfound, toLocalMinutes_minutes]
  · have hmark : utcSeconds minutes = ((-1 : ℤ) : K) := by
      rw [utcSeconds, if_neg hfound]
      norm_num [polarMark]
    rw [hmark, toLocalMinutes_intCast, eventMinute, if_neg hfound]
    omega

end SunriseSunsetInfo
end UiAppearance
