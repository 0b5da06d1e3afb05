import UiAppearance.Sun.LocalMinutes
import Mathlib.Data.Rat.Floor

/-!
# Days without a sunrise or a sunset

The mark that stands for a missing event does not say why it is missing. The
constructor takes two marks for a polar night and a sunrise that is missing for
a normal day; what it makes of a sun that does not set is the opposite of it.
-/

namespace UiAppearance
namespace SunClassification

open SunriseSunset SunriseSunsetInfo

variable {K : Type*} [Field K] [LinearOrder K] [FloorRing K] (trig : Trigonometry K)
  (localtime : ℤ → Option LocalTime) (lat lon : K) (timestampMs : ℤ)

/-- The information about one place and date, with the formulas of the source. -/
def sunInfo : SunriseSunsetInfo K :=
  construct (calcSunTimeMin trig) localtime lat lon timestampMs

/-- The Julian days on which the position of the sun is evaluated, sunrise first. -/
def evaluations : List K :=
  (iterate (calcSunTimeMin trig lat lon · true) (noonJulianDay timestampMs)).2 ++
    (iterate (calcSunTimeMin trig lat lon · false) (noonJulianDay timestampMs)).2

/-- The cosine of the hour angle on a Julian day is below -1: the sun does not set. -/
def neverSets (jd : K) : Bool :=
  (cosHourAngle trig lat (declinationOn trig jd)).any fun cosH => cosH < -1

/-- It is above 1: the sun does not rise. -/
def neverRises (jd : K) : Bool :=
  (cosHourAngle trig lat (declinationOn trig jd)).any fun cosH => 1 < cosH

/-- The condition tells the three kinds of days apart. -/
structure Classified : Prop where
  normal : (sunInfo trig localtime lat lon timestampMs).condition = .normal ↔
    refined (calcSunTimeMin trig) lat lon timestampMs true ≠ polarMark ∧
      refined (calcSunTimeMin trig) lat lon timestampMs false ≠ polarMark
  polarDay : (∀ jd ∈ evaluations trig lat lon timestampMs, neverSets trig lat jd = true) →
    (sunInfo trig localtime lat lon timestampMs).condition = .polarDay ∧
      ∀ now, (sunInfo trig localtime lat lon timestampMs).isDaytime localtime now = true
  polarNight : (∀ jd ∈ evaluations trig lat lon timestampMs, neverRises trig lat jd = true) →
    (sunInfo trig localtime lat lon timestampMs).condition = .polarNight ∧
      ∀ now, (sunInfo trig localtime lat lon timestampMs).isNighttime localtime now = true

section Iterations

variable {trig lat lon timestampMs}

theorem calcSunTimeMin_of_never {jd : K} {isSunrise : Bool}
    (h : neverSets trig lat jd = true ∨ neverRises trig lat jd = true) :
    calcSunTimeMin trig lat lon jd isSunrise = polarMark := by
  unfold neverSets neverRises at h
  cases hcos : cosHourAngle trig lat (declinationOn trig jd) with
  | none =>
    rw [hcos] at h
    simp at h
  | some cosH =>
    rw [hcos] at h
    refine calcSunTimeMin_of_polar trig hcos ?_
    simpa using h

theorem noonJulianDay_mem : noonJulianDay timestampMs ∈ evaluations trig lat lon timestampMs := by
  refine List.mem_append_left _ ?_
  unfold iterate
  dsimp only
  split_ifs <;> exact List.mem_cons_self

omit [FloorRing K] in
/-- A mark in the first iteration is the result, and there is no second one. -/
theorem iterate_of_mark (sunTimeMin : K → K) {jd : K} (h : sunTimeMin jd = polarMark) :
    iterate sunTimeMin jd = (polarMark, [jd]) := by
  unfold iterate
  dsimp only
  rw [if_neg (not_not_intro h), h]

theorem iterate_of_polar {jd : K}
    (h : neverSets trig lat jd = true ∨ neverRises trig lat jd = true) (isSunrise : Bool) :
    iterate (calcSunTimeMin trig lat lon · isSunrise) jd = (polarMark, [jd]) :=
  iterate_of_mark (calcSunTimeMin trig lat lon · isSunrise) (calcSunTimeMin_of_never h)

theorem refined_of_polar (h : neverSets trig lat (noonJulianDay timestampMs) = true ∨
    neverRises trig lat (noonJulianDay timestampMs) = true) (isSunrise : Bool) :
    refined (calcSunTimeMin trig) lat lon timestampMs isSunrise = polarMark := by
  unfold refined
  rw [iterate_of_polar h]

theorem evaluations_of_polar (h : neverSets trig lat (noonJulianDay timestampMs) = true) :
    evaluations trig lat lon timestampMs =
      [noonJulianDay timestampMs, noonJulianDay timestampMs] := by
  unfold evaluations
  rw [iterate_of_polar (.inl h), iterate_of_polar (.inl h)]
  rfl

end Iterations

variable [IsStrictOrderedRing K] {trig lat lon timestampMs}

theorem condition_of_polar (hvalid : validCoordinates lat lon = true)
    (h : neverSets trig lat (noonJulianDay timestampMs) = true ∨
      neverRises trig lat (noonJulianDay timestampMs) = true) :
    (sunInfo trig localtime lat lon timestampMs).condition = .polarNight := by
  unfold sunInfo
  rw [condition_of_valid _ _ _ hvalid, refined_of_polar h, refined_of_polar h]
  rw [if_neg (not_not_intro rfl), if_neg (not_not_intro rfl)]

/-- The days are told apart exactly if the sun does not stay up and no sunrise alone is missing. -/
theorem classified_iff (hvalid : validCoordinates lat lon = true) :
    Classified trig localtime lat lon timestampMs ↔
      neverSets trig lat (noonJulianDay timestampMs) = false ∧
        (refined (calcSunTimeMin trig) lat lon timestampMs false ≠ polarMark →
          refined (calcSunTimeMin trig) lat lon timestampMs true ≠ polarMark) := by
  have hcondition : (sunInfo trig localtime lat lon timestampMs).condition = .normal ↔
      refined (calcSunTimeMin trig) lat lon timestampMs false ≠ polarMark :=
    normal_construct_iff (calcSunTimeMin trig) localtime timestampMs hvalid
  constructor
  · intro h
    constructor
    · by_contra hsets
      rw [Bool.not_eq_false] at hsets
      have hall : ∀ jd ∈ evaluations trig lat lon timestampMs, neverSets trig lat jd = true := by
        rw [evaluations_of_polar hsets]
        intro jd hjd
        obtain rfl : jd = noonJulianDay timestampMs := by simpa using hjd
        exact hsets
      have hday := (h.polarDay hall).1
      rw [condition_of_polar localtime hvalid (.inl hsets)] at hday
      cases hday
    · intro hset
      exact (h.normal.mp (hcondition.mpr hset)).1
  · rintro ⟨hsets, hrise⟩
    refine ⟨?_, ?_, ?_⟩
    · rw [hcondition]
      exact ⟨fun hset => ⟨hrise hset, hset⟩, fun hboth => hboth.2⟩
    · intro hall
      have hnoon := hall _ noonJulianDay_mem
      rw [hsets] at hnoon
      cases hnoon
    · intro hall
      have hnight : (sunInfo trig localtime lat lon timestampMs).condition = .polarNight :=
        condition_of_polar localtime hvalid (.inr (hall _ noonJulianDay_mem))
      refine ⟨hnight, fun now => ?_⟩
      unfold isNighttime
      rw [hnight]

/-- A table of the functions for a day in June; angles are counted in degrees. -/
def june : Trigonometry ℚ where
  pi := 180
  sin x := if x = 80 then 0.985 else if x = 0 then 0 else 0.391
  cos x := if x = 80 then 0.174 else if x = 0 then 1 else if x = 90.833 then -0.0145 else 0.921
  tan _ := 0.207
  asin _ := 23
  acos _ := 90

/-- On the equator there are a sunrise and a sunset. -/
theorem june_equator : validCoordinates (0 : ℚ) 0 = true ∧
    Classified june (fun _ => none) 0 0 0 := by
  refine ⟨by decide +kernel, (classified_iff _ (by decide +kernel)).mpr ⟨?_, ?_⟩⟩
  · decide +kernel
  · intro _
    decide +kernel

/-- At 80 degrees north the sun does not set, and it is taken for a polar night. -/
theorem june_night :
    (∀ jd ∈ evaluations june 80 0 0, neverSets june 80 jd = true) ∧
      (sunInfo june (fun _ => none) 80 0 0).condition = .polarNight ∧
      ¬Classified june (fun _ => none) 80 0 0 := by
  have hsets : ∀ jd ∈ evaluations june 80 0 0, neverSets june 80 jd = true := by decide +kernel
  have hnight : (sunInfo june (fun _ => none) 80 0 0).condition = .polarNight := by decide +kernel
  refine ⟨hsets, hnight, ?_⟩
  intro h
  have hday := (h.polarDay hsets).1
  rw [hnight] at hday
  cases hday

end SunClassification
end UiAppearance
