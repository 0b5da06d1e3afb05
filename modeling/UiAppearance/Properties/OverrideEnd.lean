import UiAppearance.Foundations.PeriodicInstants
import UiAppearance.Properties.OverrideWindow

/-!
# The end of an override and the next switch

A choice against the schedule is kept until the schedule next shows the other
colour of its own accord. The five branches that compute this instant agree
with it except in one minute: an overnight schedule has just begun, the minute
still counts as before the beginning, and the window ends where it starts.
-/

namespace UiAppearance
namespace OverrideEnd

open AlarmTimerManager Periodic

/-- Minutes after local midnight at which the schedule leaves a colour. -/
def boundary (times : ℤ × ℤ) (isDarkMode : Bool) : ℤ := if isDarkMode then times.2 else times.1

/-- One second after the end of the record, the schedule leaves the chosen colour for the first
time after now. -/
def EndsAtNextSwitch (clock : Clock) (times : ℤ × ℤ) (isDarkMode : Bool)
    (info : TempColorModeInfo) : Prop :=
  NextAfter 86400 (clock.midnight + boundary times isDarkMode * 60) clock.timestamp
      (info.keepTemporaryStateEndTime + 1) ∧
    clock.timestamp ≤ info.keepTemporaryStateEndTime

section Window

variable {clock : Clock} {times : ℤ × ℤ} {isDarkMode : Bool}

/-- The window ends in the first minute of an overnight schedule before it starts, and at the next
switch otherwise. -/
theorem windowEndMinute_next_iff (hread : clock.failed = false) (h : AcceptedTimes times)
    (hagainst : DarkModeState.within clock times ≠ isDarkMode) :
    (TemporaryColorMode.windowEndMinute clock times.1 times.2 % 1440 =
          boundary times isDarkMode % 1440 ∧
        (clock.minuteOfDay : ℤ) < TemporaryColorMode.windowEndMinute clock times.1 times.2 ∧
        TemporaryColorMode.windowEndMinute clock times.1 times.2 ≤ clock.minuteOfDay + 1440) ↔
      ¬(1440 < times.2 ∧ (clock.minuteOfDay : ℤ) = times.1) := by
  obtain ⟨h₀, hlt, hstart, hend⟩ := h.bounds
  have hm := clock.minuteOfDay_lt
  have hwithin : DailyInterval.covers times clock.minuteOfDay = true ↔ _ :=
    DailyInterval.covers_eq_true
  rw [← OverrideWindow.within_eq_covers hread h] at hwithin
  rw [OverrideWindow.windowEndMinute_eq hread]
  unfold boundary
  cases isDarkMode with
  | true =>
    have hout : DarkModeState.within clock times = false := Bool.not_eq_true _ ▸ hagainst
    simp only [hout, Bool.false_eq_true, false_iff] at hwithin
    simp only [hout, Bool.false_eq_true, if_true, if_false]
    split_ifs <;> omega
  | false =>
    have hin : DarkModeState.within clock times = true := Bool.not_eq_false _ ▸ hagainst
    simp only [hin, true_iff] at hwithin
    simp only [hin, Bool.false_eq_true, if_true, if_false]
    split_ifs <;> omega

/-- On the record that is made of the window. -/
theorem overrideRecord_next_iff (hread : clock.failed = false) (hregular : clock.Regular)
    (h : AcceptedTimes times) (hagainst : DarkModeState.within clock times ≠ isDarkMode)
    (oldEnd : ℤ) :
    EndsAtNextSwitch clock times isDarkMode (Core.overrideRecord clock times oldEnd) ↔
      ¬(1440 < times.2 ∧ (clock.minuteOfDay : ℤ) = times.1) := by
  have hend := OverrideWindow.overrideRecord_end hread times oldEnd
  have hminute : clock.minuteOfDay = clock.secondOfDay / 60 := rfl
  unfold Clock.Regular at hregular
  rw [← windowEndMinute_next_iff hread h hagainst]
  unfold EndsAtNextSwitch
  rw [nextAfter_iff (by decide), hend]
  unfold Int.ModEq
  constructor
  · rintro ⟨⟨hmod, hafter, hsoon⟩, -⟩
    refine ⟨?_, ?_, ?_⟩ <;> omega
  · rintro ⟨hmod, hafter, hsoon⟩
    refine ⟨⟨?_, ?_, ?_⟩, ?_⟩ <;> omega

end Window

/-- A choice against the schedule leaves the record of an override made now. -/
theorem overrideOf_choose {k : Core} {clock : Clock} {context : AccountContext}
    {isDarkMode : Bool} (hmode : (k.stateOf context).settingMode.isSchedule = true)
    (hagainst : DarkModeState.within clock (k.stateOf context).scheduleTime ≠ isDarkMode) :
    (k.choose clock context isDarkMode).overrideOf context =
      Core.overrideRecord clock (k.stateOf context).scheduleTime
        (k.overrideOf context).keepTemporaryStateEndTime := by
  unfold Core.choose
  dsimp only
  rw [if_neg (by simpa using hmode), if_neg hagainst]
  exact Function.update_self ..

/-- A recorded override ends at the next switch away from its colour, unless it was recorded in the
first minute of an overnight schedule. -/
theorem override_endsAtNextSwitch_iff {env : Env} {s : Service} {context : AccountContext}
    {isDarkMode : Bool} (hmode : (s.stateOf context).settingMode.isSchedule = true)
    (haccepted : AcceptedTimes (s.stateOf context).scheduleTime)
    (hread : env.clock.failed = false) (hregular : env.clock.Regular)
    (hagainst : DarkModeState.within env.clock (s.stateOf context).scheduleTime ≠ isDarkMode) :
    EndsAtNextSwitch env.clock (s.stateOf context).scheduleTime isDarkMode
        ((s.doSwitchTemporaryColorMode env context isDarkMode).tempInfoOf context) ↔
      ¬(1440 < (s.stateOf context).scheduleTime.2 ∧
        (env.clock.minuteOfDay : ℤ) = (s.stateOf context).scheduleTime.1) := by
  have hrecord := overrideOf_choose (k := s.core) hmode hagainst
  rw [← Service.core_doSwitchTemporaryColorMode] at hrecord
  change (s.doSwitchTemporaryColorMode env context isDarkMode).tempInfoOf context = _ at hrecord
  rw [hrecord]
  exact overrideRecord_next_iff hread hregular haccepted hagainst _

open OverrideWindow (clockAt)
open Scenario Transition

/-- Since noon the service has followed a schedule that is dark from 20:00 to 8:00. -/
def overnight : Service :=
  exec Service.step (Service.start Table.empty (scheduleRow "1200" "1920"))
    [(clockAt 1 43320 (by decide), .onAddSystemAbility),
      (clockAt 1 43320 (by decide), .bootCompleted)]

/-- In the second minute of the night the window of a light choice is a day long. -/
theorem overnight_secondMinute :
    EndsAtNextSwitch (clockAt 1 72090 (by decide)).clock (overnight.stateOf account).scheduleTime
      false ((overnight.doSwitchTemporaryColorMode (clockAt 1 72090 (by decide)) account
        false).tempInfoOf account) := by
  have hregular : (clockAt 1 72090 (by decide)).clock.Regular := rfl
  exact (override_endsAtNextSwitch_iff (by decide) (by decide) (by decide) hregular
    (by decide)).mpr (by decide)

/-- At 20:00:30 it is over before it begins: it ends at 19:59:59, and is never effective. -/
theorem overnight_firstMinute :
    (overnight.stateOf account).settingMode.isSchedule = true ∧
      AcceptedTimes (overnight.stateOf account).scheduleTime ∧
      DarkModeState.within (clockAt 1 72030 (by decide)).clock
        (overnight.stateOf account).scheduleTime = true ∧
      (overnight.doSwitchTemporaryColorMode (clockAt 1 72030 (by decide)) account
        false).tempInfoOf account = ⟨.colorModeTemp, 158430, 158399⟩ ∧
      ¬EndsAtNextSwitch (clockAt 1 72030 (by decide)).clock
        (overnight.stateOf account).scheduleTime false
        ((overnight.doSwitchTemporaryColorMode (clockAt 1 72030 (by decide)) account
          false).tempInfoOf account) := by
  refine ⟨by decide, by decide, by decide, by decide, ?_⟩
  rintro ⟨-, hover⟩
  revert hover
  decide

end OverrideEnd
end UiAppearance
