import UiAppearance.Foundations.ExactArithmetic
import UiAppearance.DarkMode.Core

/-!
# Schedule arithmetic without overflow

The calculations on the times of a schedule once more, each operation at the
type it has in the source and in the branch that makes it. There is no result
where an operation leaves its type.
-/

namespace UiAppearance

open ExactArithmetic

def int32 : IntRange := .signed 32

/-- The type of the clock, `time_t`. -/
def int64 : IntRange := .signed 64

def uint64 : IntRange := .unsigned 64

theorem fits_int32_iff {x : ℤ} : int32.Fits x ↔ -2147483648 ≤ x ∧ x ≤ 2147483647 := Iff.rfl

theorem fits_int64_iff {x : ℤ} :
    int64.Fits x ↔ -9223372036854775808 ≤ x ∧ x ≤ 9223372036854775807 := Iff.rfl

theorem fits_uint64_iff {x : ℤ} : uint64.Fits x ↔ 0 ≤ x ∧ x ≤ 18446744073709551615 := Iff.rfl

namespace TemporaryColorMode

/-- The seconds after midnight that `GetTempColorModeTimeInfo` passes on. -/
def exactWindowEndSecond (clock : Clock) (settingStartTime settingEndTime : ℤ) : Option ℤ :=
  let within := AlarmTimerManager.isWithinTimeInterval clock (toUInt64 settingStartTime)
    (toUInt64 settingEndTime)
  let before := isWithInPreInterval clock settingStartTime
  if 1440 < settingEndTime then
    if !within then int32.mul settingEndTime 60
    else if before then int32.mul settingStartTime 60
    else (int32.add settingStartTime 1440).bind (int32.mul · 60)
  else
    if within then (int32.add settingStartTime 1440).bind (int32.mul · 60)
    else if before then int32.mul settingEndTime 60
    else (int32.add settingEndTime 1440).bind (int32.mul · 60)

/-- The time the window ends at: the start seen from inside, the end seen from outside. -/
def windowTime (clock : Clock) (times : ℤ × ℤ) : ℤ :=
  if DarkModeState.within clock times then times.1 else times.2

/-- That time is meant for the day after today. -/
def endsTomorrow (clock : Clock) (times : ℤ × ℤ) : Bool :=
  let within := DarkModeState.within clock times
  let before := isWithInPreInterval clock times.1
  if 1440 < times.2 then within && !before else within || !before

/-- Multiplied by 60, with or without a day added before, the time stays in 32 bits. -/
def WindowFits (clock : Clock) (times : ℤ × ℤ) : Prop :=
  if endsTomorrow clock times then
    -35792834 ≤ windowTime clock times ∧ windowTime clock times ≤ 35789954
  else -35791394 ≤ windowTime clock times ∧ windowTime clock times ≤ 35791394

instance (clock : Clock) (times : ℤ × ℤ) : Decidable (WindowFits clock times) :=
  inferInstanceAs (Decidable (ite ..))

theorem exactWindowEndSecond_iff (clock : Clock) (times : ℤ × ℤ) :
    exactWindowEndSecond clock times.1 times.2 =
        some (windowEndMinute clock times.1 times.2 * 60) ↔ WindowFits clock times := by
  have hday {x : ℤ} : (int32.add x 1440).bind (int32.mul · 60) = some ((x + 1440) * 60) ↔
      -35792834 ≤ x ∧ x ≤ 35789954 := by
    rw [IntRange.add_bind_eq_some_iff, IntRange.mul_eq_some_iff, fits_int32_iff, fits_int32_iff]
    omega
  have htoday {x : ℤ} : int32.mul x 60 = some (x * 60) ↔ -35791394 ≤ x ∧ x ≤ 35791394 := by
    rw [IntRange.mul_eq_some_iff, fits_int32_iff]
    omega
  have hsame : AlarmTimerManager.isWithinTimeInterval clock (toUInt64 times.1)
      (toUInt64 times.2) = DarkModeState.within clock times := rfl
  unfold exactWindowEndSecond windowEndMinute WindowFits endsTomorrow windowTime
  simp only [hsame]
  by_cases hovernight : 1440 < times.2
  · cases DarkModeState.within clock times with
    | false => simpa [hovernight] using htoday
    | true =>
      cases isWithInPreInterval clock times.1 with
      | false => simpa [hovernight] using hday
      | true => simpa [hovernight] using htoday
  · cases DarkModeState.within clock times with
    | true => simpa [hovernight] using hday
    | false =>
      cases isWithInPreInterval clock times.1 with
      | false => simpa [hovernight] using hday
      | true => simpa [hovernight] using htoday

end TemporaryColorMode

/-- The test of the timer callbacks, whose second comparison may be left out. -/
def exactCheckInDarkInterval (startTime endTime currentTimeSeconds : ℤ) : Option Bool :=
  if endTime ≤ 1440 then
    (int32.mul startTime 60).bind fun start =>
      (int32.sub start 5).bind fun start =>
        if start < currentTimeSeconds then
          (int32.mul endTime 60).bind fun finish =>
            (int32.sub finish 5).bind fun finish => some (decide (currentTimeSeconds < finish))
        else some false
  else
    (int32.sub endTime 1440).bind fun finish =>
      (int32.mul finish 60).bind fun finish =>
        (int32.sub finish 5).bind fun finish =>
          if currentTimeSeconds < finish then some true
          else
            (int32.mul startTime 60).bind fun start =>
              (int32.sub start 5).bind fun start => some (decide (start < currentTimeSeconds))

/-- Accepted bounds are small. -/
theorem exactCheckInDarkInterval_eq {times : ℤ × ℤ}
    (h : AlarmTimerManager.AcceptedTimes times) (currentTimeSeconds : ℤ) :
    exactCheckInDarkInterval times.1 times.2 currentTimeSeconds =
      some (checkCurrentTimeInDarkInterval times.1 times.2 currentTimeSeconds) := by
  obtain ⟨h₀, hlt, hstart, hend⟩ := h.bounds
  unfold exactCheckInDarkInterval checkCurrentTimeInDarkInterval
  by_cases hday : times.2 ≤ 1440
  · rw [if_pos hday, if_pos hday, IntRange.mul_bind_eq_some_iff, IntRange.sub_bind_eq_some_iff]
    refine ⟨by rw [fits_int32_iff]; omega, by rw [fits_int32_iff]; omega, ?_⟩
    by_cases hafter : times.1 * 60 - 5 < currentTimeSeconds
    · rw [if_pos hafter, IntRange.mul_bind_eq_some_iff, IntRange.sub_bind_eq_some_iff,
        decide_eq_true hafter, Bool.true_and]
      exact ⟨by rw [fits_int32_iff]; omega, by rw [fits_int32_iff]; omega, rfl⟩
    · rw [if_neg hafter, decide_eq_false hafter, Bool.false_and]
  · rw [if_neg hday, if_neg hday, IntRange.sub_bind_eq_some_iff, IntRange.mul_bind_eq_some_iff,
      IntRange.sub_bind_eq_some_iff]
    refine ⟨by rw [fits_int32_iff]; omega, by rw [fits_int32_iff]; omega,
      by rw [fits_int32_iff]; omega, ?_⟩
    by_cases hbefore : currentTimeSeconds < (times.2 - 1440) * 60 - 5
    · rw [if_pos hbefore, decide_eq_true hbefore, Bool.true_or]
    · rw [if_neg hbefore, IntRange.mul_bind_eq_some_iff, IntRange.sub_bind_eq_some_iff,
        decide_eq_false hbefore, Bool.false_or]
      exact ⟨by rw [fits_int32_iff]; omega, by rw [fits_int32_iff]; omega, rfl⟩

namespace AlarmTimerManager

/-- `SetTimerTriggerTime`: the products of the clock are signed, the rest is unsigned. -/
def exactTriggerTime (clock : Clock) (startTime endTime : ℕ) : Option (ℤ × ℤ) :=
  (int64.mul clock.timestamp 1000).bind fun current =>
  (int64.mul clock.midnight 1000).bind fun zero =>
  (uint64.fit current).bind fun curTimestamp =>
  (uint64.fit zero).bind fun zeroTimestamp =>
  (uint64.mul startTime 60).bind fun startSecond =>
  (uint64.mul startSecond 1000).bind fun startMilli =>
  (uint64.add zeroTimestamp startMilli).bind fun startTimestamp =>
  (uint64.mul endTime 60).bind fun endSecond =>
  (uint64.mul endSecond 1000).bind fun endMilli =>
  (uint64.add zeroTimestamp endMilli).bind fun endTimestamp =>
    if curTimestamp ≤ startTimestamp then
      (uint64.sub endTimestamp dayToMilli).bind fun endPreviousDay =>
        if curTimestamp < endPreviousDay then some (startTimestamp, endPreviousDay)
        else some (startTimestamp, endTimestamp)
    else if endTimestamp ≤ curTimestamp then
      (uint64.add startTimestamp dayToMilli).bind fun startNextDay =>
        (uint64.add endTimestamp dayToMilli).bind fun endNextDay =>
          some (startNextDay, endNextDay)
    else
      (uint64.add startTimestamp dayToMilli).bind fun startNextDay =>
        some (startNextDay, endTimestamp)

end AlarmTimerManager
end UiAppearance
