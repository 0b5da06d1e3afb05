import UiAppearance.Foundations.PeriodicInstants
import UiAppearance.Properties.OverrideWindow

/-!
# Trigger times

Both timers of a key are started for instants counted in milliseconds from
today's midnight. Away from the ends of the 64-bit range the four branches find
the next start that is not over and the next end after now, so the interval is
neither entered nor left before the earlier of the two.
-/

namespace UiAppearance
namespace TriggerTimes

open AlarmTimerManager DailyInterval OverrideWindow Periodic

/-- The time in milliseconds is a `time_t` again, which the product formed of it has to be. -/
def InRange (clock : Clock) : Prop := clock.timestamp * 1000 < 2 ^ 63

instance (clock : Clock) : Decidable (InRange clock) :=
  inferInstanceAs (Decidable (_ < _))

/-- Seconds of the two trigger times, from the bounds as they lie on the day of `clock`. -/
def triggerSeconds (clock : Clock) (startTime endTime : ℕ) : ℤ × ℤ :=
  let startSecond := clock.midnight + startTime * 60
  let endSecond := clock.midnight + endTime * 60
  if clock.timestamp ≤ startSecond then
    if clock.timestamp < endSecond - 86400 then (startSecond, endSecond - 86400)
    else (startSecond, endSecond)
  else if endSecond ≤ clock.timestamp then (startSecond + 86400, endSecond + 86400)
  else (startSecond + 86400, endSecond)

section Branches

variable {clock : Clock} {startTime endTime : ℕ}

/-- Where no difference is negative and no sum is too large, the millisecond arithmetic is that
of the instants. -/
theorem setTimerTriggerTime_cast (hvalid : isValidScheduleTime startTime endTime = true)
    (hmidnight : 0 ≤ clock.midnight) (hpast : clock.midnight ≤ clock.timestamp)
    (hrange : InRange clock)
    (hprevious : clock.timestamp ≤ clock.midnight + startTime * 60 →
      86400 ≤ clock.midnight + endTime * 60) :
    ((setTimerTriggerTime clock startTime endTime).1 : ℤ) =
        (triggerSeconds clock startTime endTime).1 * 1000 ∧
      ((setTimerTriggerTime clock startTime endTime).2 : ℤ) =
        (triggerSeconds clock startTime endTime).2 * 1000 := by
  obtain ⟨hlt, hstart, hend⟩ := isValidScheduleTime_iff.mp hvalid
  unfold InRange at hrange
  have hcur : (toUInt64 (clock.timestamp * 1000) : ℤ) = clock.timestamp * 1000 :=
    toUInt64_cast (by omega) (by omega)
  have hzero : (toUInt64 (clock.midnight * 1000) : ℤ) = clock.midnight * 1000 :=
    toUInt64_cast (by omega) (by omega)
  have hstartTime : (toUInt64 (clock.midnight * 1000 + startTime * minuteToMilli) : ℤ) =
      (clock.midnight + startTime * 60) * 1000 := by
    rw [toUInt64_cast] <;> unfold minuteToMilli <;> omega
  have hendTime : (toUInt64 (clock.midnight * 1000 + endTime * minuteToMilli) : ℤ) =
      (clock.midnight + endTime * 60) * 1000 := by
    rw [toUInt64_cast] <;> unfold minuteToMilli <;> omega
  have hstartNext : (toUInt64 ((clock.midnight + startTime * 60) * 1000 + dayToMilli) : ℤ) =
      (clock.midnight + startTime * 60 + 86400) * 1000 := by
    rw [toUInt64_cast] <;> unfold dayToMilli <;> omega
  have hendNext : (toUInt64 ((clock.midnight + endTime * 60) * 1000 + dayToMilli) : ℤ) =
      (clock.midnight + endTime * 60 + 86400) * 1000 := by
    rw [toUInt64_cast] <;> unfold dayToMilli <;> omega
  unfold setTimerTriggerTime triggerSeconds
  simp only [hzero, hstartTime, hendTime]
  by_cases hbefore : clock.timestamp ≤ clock.midnight + startTime * 60
  · -- the one difference is formed here
    have hendPrevious : (toUInt64 ((clock.midnight + endTime * 60) * 1000 - dayToMilli) : ℤ) =
        (clock.midnight + endTime * 60 - 86400) * 1000 := by
      have := hprevious hbefore
      rw [toUInt64_cast] <;> unfold dayToMilli <;> omega
    split_ifs <;> omega
  · split_ifs <;> omega

/-- The four branches, against the two instants. -/
theorem triggerSeconds_next (hvalid : isValidScheduleTime startTime endTime = true)
    (hregular : clock.Regular) :
    NextFrom 86400 (clock.midnight + startTime * 60) clock.timestamp
        (triggerSeconds clock startTime endTime).1 ∧
      NextAfter 86400 (clock.midnight + endTime * 60) clock.timestamp
        (triggerSeconds clock startTime endTime).2 := by
  obtain ⟨hlt, hstart, hend⟩ := isValidScheduleTime_iff.mp hvalid
  unfold Clock.Regular at hregular
  have hday := clock.secondOfDay_lt
  rw [nextFrom_iff (by decide), nextAfter_iff (by decide)]
  unfold triggerSeconds Int.ModEq
  dsimp only
  split_ifs <;> omega

end Branches

section Unchanged

variable {offset : ℤ} {clock : Clock} {startTime endTime : ℕ}

theorem acceptedTimes_cast (hvalid : isValidScheduleTime startTime endTime = true) :
    AcceptedTimes ((startTime : ℤ), (endTime : ℤ)) := by
  obtain ⟨hlt, hstart, hend⟩ := isValidScheduleTime_iff.mp hvalid
  have hs : IsInt32 (startTime : ℤ) := ⟨by omega, by omega⟩
  have he : IsInt32 (endTime : ℤ) := ⟨by omega, by omega⟩
  refine ⟨hs, he, ?_⟩
  dsimp only
  rw [toUInt64_of_nonneg (by omega) hs, toUInt64_of_nonneg (by omega) he]
  exact hvalid

theorem isWithinTimeInterval_eq_coversAt (hvalid : isValidScheduleTime startTime endTime = true)
    (hclock : KeepsTime offset clock) :
    isWithinTimeInterval clock startTime endTime =
      coversAt offset ((startTime : ℤ), (endTime : ℤ)) clock.timestamp := by
  have haccepted := acceptedTimes_cast hvalid
  have hwithin := within_eq_covers hclock.1 haccepted
  unfold DarkModeState.within at hwithin
  dsimp only at hwithin
  rw [toUInt64_of_nonneg (by omega) haccepted.1, toUInt64_of_nonneg (by omega) haccepted.2.1]
    at hwithin
  refine hwithin.trans ?_
  unfold coversAt
  rw [← hclock.2.2]
  rfl

/-- The instants at which the interval is left are those the triggers are chosen from. -/
theorem boundary_of_leavesAt (hvalid : isValidScheduleTime startTime endTime = true)
    (hclock : KeepsTime offset clock) {t : ℤ} {inside : Bool}
    (h : LeavesAt offset ((startTime : ℤ), (endTime : ℤ)) inside t) :
    t ≡ clock.midnight + (if inside then endTime else startTime) * 60 [ZMOD 86400] := by
  obtain ⟨-, hregular, hlocal⟩ := hclock
  have hsecond := (leavesAt_iff (acceptedTimes_cast hvalid).bounds).mp h
  unfold Clock.Regular at hregular
  unfold leavingMinute at hsecond
  unfold secondOfDay at hsecond hlocal
  unfold Int.ModEq
  cases inside with
  | true =>
    simp only [if_true] at hsecond ⊢
    omega
  | false =>
    simp only [Bool.false_eq_true, if_false] at hsecond ⊢
    omega

/-- The trigger times are the next start that is not over and the next end, and before both of
them the interval is neither entered nor left. -/
theorem triggerTimes_next (hvalid : isValidScheduleTime startTime endTime = true)
    (hclock : KeepsTime offset clock) (hmidnight : 86400 ≤ clock.midnight)
    (hrange : InRange clock) :
    ∃ T T' : ℤ, ((setTimerTriggerTime clock startTime endTime).1 : ℤ) = T * 1000 ∧
      ((setTimerTriggerTime clock startTime endTime).2 : ℤ) = T' * 1000 ∧
      NextFrom 86400 (clock.midnight + startTime * 60) clock.timestamp T ∧
      NextAfter 86400 (clock.midnight + endTime * 60) clock.timestamp T' ∧
      T < clock.timestamp + 86400 ∧ T' ≤ clock.timestamp + 86400 ∧
      ∀ clock' : Clock, KeepsTime offset clock' → clock.timestamp ≤ clock'.timestamp →
        clock'.timestamp < T → clock'.timestamp < T' →
        isWithinTimeInterval clock' startTime endTime =
          isWithinTimeInterval clock startTime endTime := by
  have hpast : clock.midnight ≤ clock.timestamp := by
    have hregular : clock.timestamp = clock.midnight + clock.secondOfDay := hclock.2.1
    omega
  obtain ⟨hstartTrigger, hendTrigger⟩ := setTimerTriggerTime_cast hvalid (by omega) hpast hrange
    fun _ => by omega
  obtain ⟨hfrom, hafter⟩ := triggerSeconds_next hvalid hclock.2.1
  refine ⟨_, _, hstartTrigger, hendTrigger, hfrom, hafter, ?_, ?_, ?_⟩
  · exact ((nextFrom_iff (by decide)).mp hfrom).2.2
  · exact ((nextAfter_iff (by decide)).mp hafter).2.2
  · intro clock' hclock' hle hstart hend
    rw [isWithinTimeInterval_eq_coversAt hvalid hclock,
      isWithinTimeInterval_eq_coversAt hvalid hclock']
    refine coversAt_eq_of_stays hle ?_
    intro t hlow hhigh inside hleaves
    have hboundary := boundary_of_leavesAt hvalid hclock hleaves
    cases inside with
    | true =>
      have := hafter.2 ⟨hlow, hboundary⟩
      omega
    | false =>
      have := hfrom.2 ⟨hlow.le, hboundary⟩
      omega

end Unchanged

/-- At noon the next sunset is that of today and the next sunrise the one of tomorrow. -/
theorem triggerTimes_noon :
    ∃ T T' : ℤ, ((setTimerTriggerTime (clockAt 1 43440 (by decide)).clock 1080 1860).1 : ℤ) =
        T * 1000 ∧
      ((setTimerTriggerTime (clockAt 1 43440 (by decide)).clock 1080 1860).2 : ℤ) = T' * 1000 ∧
      NextFrom 86400 (86400 + 64800) 129840 T ∧ NextAfter 86400 (86400 + 111600) 129840 T' := by
  have hvalid : isValidScheduleTime 1080 1860 = true := by decide
  have hclock : KeepsTime 0 (clockAt 1 43440 (by decide)).clock := by decide
  obtain ⟨T, T', hstart, hend, hfrom, hafter, -⟩ :=
    triggerTimes_next hvalid hclock (by decide) (by decide)
  exact ⟨T, T', hstart, hend, hfrom, hafter⟩

end TriggerTimes
end UiAppearance
