import UiAppearance.Ability.ScheduleRuns
import UiAppearance.DarkMode.ExactSchedule
import UiAppearance.Properties.TriggerTimes

/-!
# Schedule arithmetic

Any 32-bit number can become a time in memory, and only the timers check it.
The callbacks of the timers therefore calculate with small numbers, while the
window of an override is calculated from whatever has been stored. The trigger
times of an accepted schedule are exact except on the first day of the epoch.
-/

namespace UiAppearance
namespace ScheduleArithmetic

open AlarmTimerManager ExactArithmetic Service TemporaryColorMode Transition TriggerTimes

section Trigger

variable {clock : Clock} {startTime endTime : ℕ}

/-- The time in milliseconds is in range, and a start still to come has the end of the day before
after the epoch. -/
def TriggerFits (clock : Clock) (startTime endTime : ℕ) : Prop :=
  InRange clock ∧ (clock.timestamp ≤ clock.midnight + startTime * 60 →
    86400 ≤ clock.midnight + endTime * 60)

instance : Decidable (TriggerFits clock startTime endTime) :=
  inferInstanceAs (Decidable (_ ∧ (_ → _)))

theorem exactTriggerTime_iff (hvalid : isValidScheduleTime startTime endTime = true)
    (hmidnight : 0 ≤ clock.midnight) (hpast : clock.midnight ≤ clock.timestamp) :
    exactTriggerTime clock startTime endTime =
        some (((setTimerTriggerTime clock startTime endTime).1 : ℤ),
          ((setTimerTriggerTime clock startTime endTime).2 : ℤ)) ↔
      TriggerFits clock startTime endTime := by
  obtain ⟨hlt, hstart, hend⟩ := isValidScheduleTime_iff.mp hvalid
  have hmilli : (dayToMilli : ℤ) = 86400000 := rfl
  unfold exactTriggerTime TriggerFits
  rw [IntRange.mul_bind_eq_some_iff, IntRange.mul_bind_eq_some_iff,
    IntRange.fit_bind_eq_some_iff, IntRange.fit_bind_eq_some_iff,
    IntRange.mul_bind_eq_some_iff, IntRange.mul_bind_eq_some_iff, IntRange.add_bind_eq_some_iff,
    IntRange.mul_bind_eq_some_iff, IntRange.mul_bind_eq_some_iff, IntRange.add_bind_eq_some_iff]
  simp only [fits_int64_iff, fits_uint64_iff]
  constructor
  · rintro ⟨hcurrent, -, -, -, -, -, -, -, -, -, hbranch⟩
    refine ⟨by unfold InRange; omega, fun hbefore => ?_⟩
    rw [if_pos (by omega), IntRange.sub_bind_eq_some_iff, fits_uint64_iff] at hbranch
    omega
  · rintro ⟨hrange, hprevious⟩
    obtain ⟨hstartTrigger, hendTrigger⟩ :=
      setTimerTriggerTime_cast hvalid hmidnight hpast hrange hprevious
    unfold InRange at hrange
    refine ⟨by omega, by omega, by omega, by omega, by omega, by omega, by omega, by omega,
      by omega, by omega, ?_⟩
    rw [hstartTrigger, hendTrigger]
    unfold triggerSeconds
    dsimp only
    by_cases hbefore : clock.timestamp ≤ clock.midnight + startTime * 60
    · have := hprevious hbefore
      rw [if_pos (by omega), if_pos hbefore, IntRange.sub_bind_eq_some_iff, fits_uint64_iff]
      refine ⟨by omega, ?_⟩
      split_ifs <;> first | omega | (simp only [Option.some.injEq, Prod.mk.injEq]; omega)
    · rw [if_neg (by omega), if_neg hbefore]
      by_cases hover : clock.midnight + endTime * 60 ≤ clock.timestamp
      · rw [if_pos (by omega), if_pos hover, IntRange.add_bind_eq_some_iff,
          IntRange.add_bind_eq_some_iff, fits_uint64_iff, fits_uint64_iff]
        refine ⟨by omega, by omega, ?_⟩
        simp only [Option.some.injEq, Prod.mk.injEq]
        omega
      · rw [if_neg (by omega), if_neg hover, IntRange.add_bind_eq_some_iff, fits_uint64_iff]
        refine ⟨by omega, ?_⟩
        simp only [Option.some.injEq, Prod.mk.injEq]
        omega

end Trigger

section Memory

/-- The four times are values of `int32_t`. -/
structure Times32 (state : DarkModeState) : Prop where
  startTime : IsInt32 state.settingStartTime
  endTime : IsInt32 state.settingEndTime
  sunsetTime : IsInt32 state.settingSunsetTime
  sunriseTime : IsInt32 state.settingSunriseTime

theorem times32_default : Times32 {} := by
  constructor <;> decide

variable {env : Env} {s : Service} {context : AccountContext} {state : DarkModeState}

theorem Times32.scheduleTime (h : Times32 state) :
    IsInt32 state.scheduleTime.1 ∧ IsInt32 state.scheduleTime.2 := by
  unfold DarkModeState.scheduleTime
  split_ifs
  · exact ⟨h.sunsetTime, h.sunriseTime⟩
  · exact ⟨h.startTime, h.endTime⟩

theorem Times32.observerState {observer : DarkModeObserver}
    (h : Times32 (s.stateOf observer.context)) (env : Env) (key : String) :
    Times32 (s.observerState env observer key) := by
  have hread {default : ℤ} (hdefault : IsInt32 default) :
      IsInt32 (s.settingValue env key observer.context default) :=
    isInt32_settingValue env s observer.context hdefault key
  have hsun : IsInt32 sunsetTimeDefault ∧ IsInt32 sunriseTimeDefault := by decide
  unfold Service.observerState
  dsimp only
  cases observer.item with
  | mode => exact ⟨h.startTime, h.endTime, h.sunsetTime, h.sunriseTime⟩
  | startTime => exact ⟨hread (by decide), h.endTime, h.sunsetTime, h.sunriseTime⟩
  | endTime => exact ⟨h.startTime, hread (by decide), h.sunsetTime, h.sunriseTime⟩
  | sunset =>
    dsimp only
    unfold DarkModeState.withSunset
    split_ifs
    · exact ⟨h.startTime, h.endTime, hsun.1, hsun.2⟩
    · exact ⟨h.startTime, h.endTime, hread hsun.1, h.sunriseTime⟩
  | sunrise =>
    dsimp only
    unfold DarkModeState.withSunrise
    split_ifs
    · exact ⟨h.startTime, h.endTime, hsun.1, hsun.2⟩
    · exact ⟨h.startTime, h.endTime, h.sunsetTime, hread hsun.2⟩

theorem isInt32_loadSetting {default : ℤ} (h : IsInt32 default) (s : Service) (item : SettingItem) :
    IsInt32 (s.loadSetting env item context default).2 := by
  unfold loadSetting
  dsimp only
  split
  · next hread => exact SettingDataManager.getInt32ValueStrictly_isInt32 hread
  · split_ifs
    · exact h
    · split
      · exact h
      · next hread => exact SettingDataManager.getInt32ValueStrictly_isInt32 hread

theorem times32_loadState : Times32 (s.loadState env context).2 := by
  unfold loadState
  constructor
  · exact isInt32_loadSetting (by decide) ..
  · exact isInt32_loadSetting (by decide) ..
  · exact isInt32_loadSetting (by decide) ..
  · exact isInt32_loadSetting (by decide) ..

/-- Times in memory are values of their type, and the timers hold accepted ones. -/
structure InMemory (s : Service) : Prop where
  states : ∀ context, Times32 (s.stateOf context)
  callbacks : ∀ startTime endTime context,
    s.alarmTimerManager.Calls (.schedule startTime endTime context) →
    AcceptedTimes (startTime, endTime)

theorem states_put {s' : Service} (h : InMemory s) (hstate : Times32 state)
    (hput : s'.darkModeStates = s.darkModeStates.put context state) (context' : AccountContext) :
    Times32 (s'.stateOf context') := by
  unfold Service.stateOf
  rw [hput]
  by_cases hsame : context' = context
  · subst hsame
    rwa [Table.valueAt_put_self]
  · rw [Table.valueAt_put_of_ne hsame]
    exact h.states context'

theorem acceptedTimes_of_accepted (h : Times32 state) {startTime endTime : ℤ}
    (htimes : state.scheduleTime = (startTime, endTime)) (haccepted : state.accepted = true) :
    AcceptedTimes (startTime, endTime) := by
  rw [← htimes]
  exact ⟨h.scheduleTime.1, h.scheduleTime.2, haccepted⟩

theorem inMemory_invariant : ScheduleInvariant InMemory where
  congr h hstates htimers := by
    refine ⟨?_, ?_⟩
    · rw [hstates.stateOf]
      exact h.states
    · rw [htimers]
      exact h.callbacks
  observes env s observer key h := by
    have hstate := (h.states observer.context).observerState env key
    refine ⟨states_put h hstate (darkModeStates_observerUpdateFunc ..), ?_⟩
    intro startTime endTime context hcalls
    rcases calls_observerUpdateFunc hcalls with hbefore | ⟨-, -, htimes, haccepted⟩
    · exact h.callbacks _ _ _ hbefore
    · exact acceptedTimes_of_accepted hstate htimes haccepted
  loads env s context needUpdateCallback isDarkMode bootLoadFlag h := by
    refine ⟨states_put h times32_loadState (darkModeStates_loadUserSettingData ..), ?_⟩
    intro startTime endTime context' hcalls
    rcases calls_loadUserSettingData hcalls with hbefore | ⟨-, -, htimes, haccepted⟩
    · exact h.callbacks _ _ _ hbefore
    · exact acceptedTimes_of_accepted times32_loadState htimes haccepted
  clears env s context h :=
    ⟨h.states, fun startTime endTime context' hcalls =>
      h.callbacks _ _ _ (calls_clearTimerByUserId hcalls)⟩
  restarts env s h :=
    ⟨h.states, fun startTime endTime context hcalls =>
      h.callbacks _ _ _ (calls_restartAllTimer hcalls)⟩
  starts parameters tables := by
    refine ⟨fun context => times32_default, ?_⟩
    rintro startTime endTime context ⟨id, timer, htimer, -⟩
    cases htimer

end Memory

section Override

variable {env : Env} {s s' : Service} {context : AccountContext} {isDarkMode : Bool}

/-- The times `DoSwitchTemporaryColorMode` calls `GetTempColorModeTimeInfo` with, if it does. -/
def overrideTimes (env : Env) (s : Service) (context : AccountContext) (isDarkMode : Bool) :
    Option (ℤ × ℤ) :=
  let s := s.touchState context
  if s.isDarkModeCustomAuto context || s.isDarkModeSunsetSunrise context then
    match s.getSettingTime context with
    | none => none
    | some setting =>
      if isWithinTimeInterval env.clock (toUInt64 setting.1) (toUInt64 setting.2) = isDarkMode then
        none
      else s.getSettingTime context
  else none

theorem overrideTimes_eq_some_iff {times : ℤ × ℤ} :
    overrideTimes env s context isDarkMode = some times ↔
      (s.stateOf context).settingMode.isSchedule = true ∧
        DarkModeState.within env.clock (s.stateOf context).scheduleTime ≠ isDarkMode ∧
        (s.stateOf context).scheduleTime = times := by
  unfold overrideTimes
  dsimp only
  rw [isSchedule_touchState]
  by_cases hmode : (s.stateOf context).settingMode.isSchedule = true
  · have hsame : isWithinTimeInterval env.clock (toUInt64 (s.stateOf context).scheduleTime.1)
        (toUInt64 (s.stateOf context).scheduleTime.2) =
        DarkModeState.within env.clock (s.stateOf context).scheduleTime := rfl
    rw [if_pos hmode, getSettingTime_touchState s context hmode]
    dsimp only
    rw [hsame]
    split_ifs with hwithin
    · simp [hwithin]
    · simp [hwithin, hmode]
  · rw [if_neg hmode]
    simp [hmode]

/-- The window is calculated without overflow, from times of the right type. -/
def ExactOverride (env : Env) (s : Service) (context : AccountContext) (isDarkMode : Bool) : Prop :=
  ∀ times, overrideTimes env s context isDarkMode = some times →
    IsInt32 times.1 ∧ IsInt32 times.2 ∧
      exactWindowEndSecond env.clock times.1 times.2 =
        some (windowEndMinute env.clock times.1 times.2 * 60)

/-- A choice against a schedule is made when the time its window ends at is not too large. -/
def OverrideFits (env : Env) (s : Service) (context : AccountContext) (isDarkMode : Bool) : Prop :=
  (s.stateOf context).settingMode.isSchedule = true →
    DarkModeState.within env.clock (s.stateOf context).scheduleTime ≠ isDarkMode →
    WindowFits env.clock (s.stateOf context).scheduleTime

theorem exactOverride_iff (h : Times32 (s.stateOf context)) :
    ExactOverride env s context isDarkMode ↔ OverrideFits env s context isDarkMode := by
  have htimes := h.scheduleTime
  constructor
  · intro hexact hmode hagainst
    obtain ⟨-, -, hsecond⟩ := hexact _ (overrideTimes_eq_some_iff.mpr ⟨hmode, hagainst, rfl⟩)
    exact (exactWindowEndSecond_iff ..).mp hsecond
  · rintro hfits times hcalled
    obtain ⟨hmode, hagainst, rfl⟩ := overrideTimes_eq_some_iff.mp hcalled
    exact ⟨htimes.1, htimes.2, (exactWindowEndSecond_iff ..).mpr (hfits hmode hagainst)⟩

end Override

/-- After any run, and for an override also in the middle of a call that has kept the states: the
window is calculated without overflow exactly if the time it ends at is not too large, the test of
a timer callback always is, and the trigger times of an accepted schedule are exact unless the clock
is out of range or the end of the day before lies before the epoch. -/
theorem scheduleArithmetic_exact_iff (parameters : Table String String)
    (tables : ℤ → Table String String) (es : Run) :
    let s := exec step (start parameters tables) es
    (∀ s', KeepsStates s s' → ∀ env context isDarkMode,
      ExactOverride env s' context isDarkMode ↔ OverrideFits env s' context isDarkMode) ∧
    (∀ startTime endTime context,
      s.alarmTimerManager.Calls (.schedule startTime endTime context) → ∀ currentTimeSeconds,
      exactCheckInDarkInterval startTime endTime currentTimeSeconds =
        some (checkCurrentTimeInDarkInterval startTime endTime currentTimeSeconds)) ∧
    (∀ clock startTime endTime, isValidScheduleTime startTime endTime = true →
      0 ≤ clock.midnight → clock.midnight ≤ clock.timestamp →
      (exactTriggerTime clock startTime endTime =
          some (((setTimerTriggerTime clock startTime endTime).1 : ℤ),
            ((setTimerTriggerTime clock startTime endTime).2 : ℤ)) ↔
        TriggerFits clock startTime endTime)) := by
  intro s
  have hmemory : InMemory s := inMemory_invariant.exec parameters tables es
  refine ⟨?_, ?_, ?_⟩
  · intro s' hstates env context isDarkMode
    refine exactOverride_iff ?_
    rw [hstates.stateOf]
    exact hmemory.states context
  · intro startTime endTime context hcalls currentTimeSeconds
    exact exactCheckInDarkInterval_eq (hmemory.callbacks _ _ _ hcalls) currentTimeSeconds
  · intro clock startTime endTime hvalid hmidnight hpast
    exact exactTriggerTime_iff hvalid hmidnight hpast

open OverrideWindow (clockAt)
open Scenario

/-- From 11:00 to 13:00 everything is exact at noon. -/
theorem scheduleArithmetic_exact_noon :
    ExactOverride noon (exec step (start Table.empty customRow) bootRun) account false ∧
      exactCheckInDarkInterval 660 780 43200 = some true ∧
      exactTriggerTime noon.clock 660 780 = some (1082800000, 1003600000) := by
  obtain ⟨hoverride, hcheck, htrigger⟩ :=
    scheduleArithmetic_exact_iff Table.empty customRow bootRun
  refine ⟨(hoverride _ (keepsStates_of_eq rfl) _ _ _).mpr fun _ _ => by decide, ?_, ?_⟩
  · exact hcheck 660 780 account (calls_of_callback (i := 1) (by decide)) 43200
  · exact (htrigger noon.clock 660 780 (by decide) (by decide) (by decide)).mpr (by decide)

/-- The account was left dark. -/
def darkAccount : Table String String :=
  Table.empty.put (darkModeParamAssignUser account) dark

/-- With the largest number as start and end, a dark account is set to light at noon. The choice
succeeds and begins an override, whose window overflows. The end of the day before does so on the
first day of the epoch. -/
theorem largest_overflows :
    let s := exec step (start darkAccount (scheduleRow "2147483647" "2147483647")) bootRun
    (∃ s', KeepsStates s s' ∧
      s.setDarkMode noon 1 = s'.configurePersistence noon account .alwaysLight light ∧
      overrideTimes noon s' account false = some (2147483647, 2147483647) ∧
      ¬ExactOverride noon s' account false) ∧
    (s.setDarkMode noon 1).2 = .succeeded ∧
    ((s.setDarkMode noon 1).1.tempInfoOf account).isTemporary = true ∧
    exactWindowEndSecond noon.clock 2147483647 2147483647 = none ∧
    isValidScheduleTime 480 1000 = true ∧
    exactTriggerTime (clockAt 0 3600 (by decide)).clock 480 1000 = none ∧
    setTimerTriggerTime (clockAt 0 3600 (by decide)).clock 480 1000 =
      (28800000, 18446744073683151616) := by
  intro s
  -- what the choice has done when it comes to the override
  let s' := (s.updateConfiguration noon { colorMode := some light } account.userId
    (getMultipleUsers noon)).1.setParameterWrap noon persistDarkmodeKey light
  have hcalled : overrideTimes noon s' account false = some (2147483647, 2147483647) := by decide
  have hnone : exactWindowEndSecond noon.clock 2147483647 2147483647 = none := by decide
  refine ⟨⟨s', keepsStates_of_eq rfl, rfl, hcalled, ?_⟩, by decide, by decide, hnone, by decide,
    by decide, by decide⟩
  intro hexact
  obtain ⟨-, -, hsecond⟩ := hexact _ hcalled
  rw [hnone] at hsecond
  cases hsecond

end ScheduleArithmetic
end UiAppearance
