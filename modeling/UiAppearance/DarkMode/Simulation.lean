import UiAppearance.DarkMode.Core

/-!
# Settings and timers over the abstract state

The observers, the timer callbacks and the load, each as an operation of
`Core`. What they read from outside (a stored value, the loaded settings, a
saved override) appears as an argument of that operation.
-/

namespace UiAppearance

/-- Three of the five observers end an override. -/
def SettingItem.resets : SettingItem → Bool
  | mode => true
  | startTime => true
  | endTime => true
  | sunset => false
  | sunrise => false

namespace Core

/-- A new state for a context, and the reaction to it. -/
def observe (k : Core) (env : Env) (item : SettingItem) (context : AccountContext)
    (state : DarkModeState) : Core :=
  (k.setState context state).react env context true item.resets false

/-- The record a load ends up with: an override that is not effective is dropped. -/
def loadedRecord (clock : Clock) (info : TempColorModeInfo) : TempColorModeInfo :=
  if info.isTemporary && !info.effective clock then {} else info

theorem loadedRecord_of_effective {clock : Clock} {info : TempColorModeInfo}
    (h : info.effective clock = true) : loadedRecord clock info = info := by
  unfold loadedRecord
  rw [h, Bool.not_true, Bool.and_false, if_neg Bool.false_ne_true]

/-- The override counts after a load exactly if it is effective. -/
theorem isTemporary_loadedRecord (clock : Clock) (info : TempColorModeInfo) :
    (loadedRecord clock info).isTemporary = info.effective clock := by
  cases heffective : info.effective clock with
  | true =>
    rw [loadedRecord_of_effective heffective]
    exact TempColorModeInfo.effective_isTemporary heffective
  | false =>
    unfold loadedRecord
    rw [heffective, Bool.not_false, Bool.and_true]
    split_ifs with htemporary
    · rfl
    · exact Bool.eq_false_iff.mpr htemporary

def load (k : Core) (env : Env) (context : AccountContext) (state : DarkModeState)
    (info : TempColorModeInfo) (needUpdateCallback bootLoadFlag : Bool) : Core :=
  ((k.setState context state).setOverride context (loadedRecord env.clock info)).reset.react env
    context needUpdateCallback false bootLoadFlag

@[simp] theorem setOverride_setOverride (k : Core) (context : AccountContext)
    (info info' : TempColorModeInfo) :
    (k.setOverride context info).setOverride context info' = k.setOverride context info' := by
  simp [setOverride]

end Core

namespace Service

variable (env : Env) (s : Service) (context : AccountContext)

/-- The state an observer stores: its item replaced by the value it could read. -/
def observerState (observer : DarkModeObserver) (key : String) : DarkModeState :=
  let state := s.stateOf observer.context
  match observer.item with
  | .mode => { state with settingMode := .ofInt (s.settingValue env key observer.context (-1)) }
  | .startTime => { state with settingStartTime := s.settingValue env key observer.context (-1) }
  | .endTime => { state with settingEndTime := s.settingValue env key observer.context (-1) }
  | .sunset => state.withSunset (s.settingValue env key observer.context sunsetTimeDefault)
  | .sunrise => state.withSunrise (s.settingValue env key observer.context sunriseTimeDefault)

/-- What an observer reads fits into 32 bits when its default does. -/
theorem isInt32_settingValue {default : ℤ} (h : IsInt32 default) (key : String) :
    IsInt32 (s.settingValue env key context default) := by
  unfold settingValue
  split
  · next hread => exact SettingDataManager.getInt32ValueStrictly_isInt32 hread
  · exact h

@[simp] theorem ofColor_eq_alwaysDark (isDark : Bool) :
    decide (DarkModeMode.ofColor isDark = .alwaysDark) = isDark := by
  cases isDark <;> rfl

@[simp] theorem core_clearTimerByContext : (s.clearTimerByContext env context).core = s.core := rfl

@[simp] theorem core_clearRecalculationTimer :
    (s.clearRecalculationTimer env context).core = s.core := rfl

section Reaction

variable (needUpdateCallback isDarkMode resetTempColorModeFlag bootLoadFlag : Bool)

theorem createOrUpdateTimers_ok_iff {state : DarkModeState}
    (hmode : state.settingMode.isSchedule = true) :
    (s.createOrUpdateTimers env state.scheduleTime.1 state.scheduleTime.2 context).2 = .ok ↔
      state.actionable env = true := by
  unfold createOrUpdateTimers
  rw [AlarmTimerManager.setScheduleTime_ok_iff]
  cases hm : state.settingMode <;>
    simp_all [DarkModeState.actionable, DarkModeState.accepted, DarkModeMode.isSchedule, and_assoc]

theorem core_onStateChangeToAllDayMode (darkMode : DarkModeMode) :
    (s.onStateChangeToAllDayMode env context darkMode needUpdateCallback resetTempColorModeFlag
      bootLoadFlag).service.core =
      if needUpdateCallback then
        s.core.update env.clock (darkMode = .alwaysDark) context resetTempColorModeFlag
          bootLoadFlag
      else s.core := by
  unfold onStateChangeToAllDayMode
  dsimp only
  split_ifs <;> simp

theorem core_onStateChangeToCustomAutoMode {state : DarkModeState}
    (hmode : state.settingMode.isSchedule = true) :
    (s.onStateChangeToCustomAutoMode env context state needUpdateCallback isDarkMode
      resetTempColorModeFlag bootLoadFlag).service.core =
      if needUpdateCallback && state.actionable env then
        s.core.update env.clock (state.wantsDark env.clock) context resetTempColorModeFlag
          bootLoadFlag
      else s.core := by
  have hok := createOrUpdateTimers_ok_iff env s context hmode
  have hwants : state.wantsDark env.clock = AlarmTimerManager.isWithinTimeInterval env.clock
      (toUInt64 state.scheduleTime.1) (toUInt64 state.scheduleTime.2) :=
    DarkModeState.wantsDark_of_isSchedule env.clock hmode
  have hcore : (s.createOrUpdateTimers env state.scheduleTime.1 state.scheduleTime.2
      context).1.core = s.core := rfl
  unfold onStateChangeToCustomAutoMode
  simp only [hok, ← hwants]
  cases state.actionable env <;> cases needUpdateCallback <;> simp [hcore]

@[simp] theorem core_onStateChangeLocked :
    (s.onStateChangeLocked env context needUpdateCallback isDarkMode resetTempColorModeFlag
      bootLoadFlag).service.core =
      s.core.react env context needUpdateCallback resetTempColorModeFlag bootLoadFlag := by
  have hstate : s.core.stateOf context = s.stateOf context := rfl
  unfold Core.react
  rw [hstate]
  cases hm : (s.stateOf context).settingMode with
  | invalid => simp [onStateChangeLocked, DarkModeState.actionable, hm]
  | alwaysLight =>
    simp [onStateChangeLocked, hm, core_onStateChangeToAllDayMode,
      DarkModeState.actionable_of_allDay env false hm,
      DarkModeState.wantsDark_of_allDay env.clock false hm]
  | alwaysDark =>
    simp [onStateChangeLocked, hm, core_onStateChangeToAllDayMode,
      DarkModeState.actionable_of_allDay env true hm,
      DarkModeState.wantsDark_of_allDay env.clock true hm]
  | customAuto =>
    have hmode : (s.stateOf context).settingMode.isSchedule = true := by rw [hm]; rfl
    simp only [onStateChangeLocked, hm, core_onStateChangeToCustomAutoMode env _ context _ _ _ _ hmode,
      core_touchState]
  | sunriseSunset =>
    have hmode : (s.stateOf context).settingMode.isSchedule = true := by rw [hm]; rfl
    simp only [onStateChangeLocked, hm, core_onStateChangeToCustomAutoMode env _ context _ _ _ _ hmode,
      core_touchState]

end Reaction

@[simp] theorem core_calculateAndApplySunriseSunsetTimes :
    (s.calculateAndApplySunriseSunsetTimes env context).core = s.core := by
  obtain ⟨r, hr⟩ := s.calculateAndApplySunriseSunsetTimes_eq env context
  rw [hr]
  rfl

@[simp] theorem core_initSunriseSunsetMode :
    (s.initSunriseSunsetMode env context).core = s.core := by
  unfold initSunriseSunsetMode
  dsimp only
  split_ifs <;> simp

@[simp] theorem core_observerUpdateFunc (observer : DarkModeObserver) (key : String) :
    (s.observerUpdateFunc env observer key).core =
      s.core.observe env observer.item observer.context (s.observerState env observer key) := by
  unfold observerUpdateFunc observerState Core.observe
  cases observer.item with
  | mode =>
    simp only [settingDataDarkModeModeUpdateFunc, settingDataDarkModeModeLocked]
    split_ifs <;> simp [SettingItem.resets, DarkModeMode.toInt]
  | startTime => simp [settingDataDarkModeStartTimeUpdateFunc, SettingItem.resets]
  | endTime => simp [settingDataDarkModeEndTimeUpdateFunc, SettingItem.resets]
  | sunset => simp [settingDataDarkModeSunsetTimeUpdateFunc, SettingItem.resets]
  | sunrise => simp [settingDataDarkModeSunriseTimeUpdateFunc, SettingItem.resets]

/-- A timer callback follows the clock when its captured schedule is still the one in force. -/
theorem core_scheduleTimerCallback (startTime endTime : ℤ) :
    (s.scheduleTimerCallback env startTime endTime context).core =
      if (s.stateOf context).settingMode.isSchedule &&
          decide ((s.stateOf context).scheduleTime = (startTime, endTime)) && !env.clock.failed then
        s.core.update env.clock
          (checkCurrentTimeInDarkInterval startTime endTime env.clock.secondOfDay) context
          false false
      else s.core := by
  unfold scheduleTimerCallback checkTimerCallbackParams
  dsimp only
  split_ifs <;> simp

@[simp] theorem core_recalculationCallback :
    (s.recalculationCallback env context).core = s.core := by
  unfold recalculationCallback
  split_ifs <;> simp

@[simp] theorem stateOf_calculateAndApplySunriseSunsetTimes (context' : AccountContext) :
    (s.calculateAndApplySunriseSunsetTimes env context).stateOf context' = s.stateOf context' :=
  congrFun (congrArg Core.stateOf (core_calculateAndApplySunriseSunsetTimes env s context)) context'

@[simp] theorem core_restartTimerUpdate (startTime endTime : ℤ) :
    (s.restartTimerUpdate env startTime endTime context).core =
      s.core.update env.clock (DarkModeState.within env.clock (startTime, endTime)) context
        false false := by
  simp [restartTimerUpdate, DarkModeState.within]

/-- A restart follows the clock of the observed context in a schedule mode; recalculated times
take effect only through their notifications. -/
theorem core_restartTimer :
    (s.restartTimer env).core =
      if (s.stateOf s.observedContext).settingMode.isSchedule then
        s.core.update env.clock
          ((s.stateOf s.observedContext).wantsDark env.clock) s.observedContext false false
      else s.core := by
  unfold restartTimer restartTimerRead restartTimerReread
  cases hm : (s.stateOf s.observedContext).settingMode <;>
    simp [hm, DarkModeMode.isSchedule, DarkModeState.wantsDark, DarkModeState.scheduleTime]

section Load

@[simp] theorem core_loadSetting (item : SettingItem) (default : ℤ) :
    (s.loadSetting env item context default).1.core = s.core := by
  obtain ⟨r, hr⟩ := s.loadSetting_eq env context item default
  rw [hr]
  rfl

@[simp] theorem parameters_loadSetting (item : SettingItem) (default : ℤ) :
    (s.loadSetting env item context default).1.parameters = s.parameters := by
  obtain ⟨r, hr⟩ := s.loadSetting_eq env context item default
  rw [hr]
  rfl

@[simp] theorem core_loadState : (s.loadState env context).1.core = s.core := by
  simp [loadState]

theorem persistedInfo_congr {s' : Service} (h : s'.parameters = s.parameters) :
    s'.persistedInfo context = s.persistedInfo context := by
  unfold persistedInfo getParameterWrap
  rw [h]

/-- Reading the settings leaves the saved override alone. -/
theorem persistedInfo_loadState (state : DarkModeState) :
    ((s.loadState env context).1.setState context state).persistedInfo context =
      s.persistedInfo context := by
  refine persistedInfo_congr s context ?_
  change (s.loadState env context).1.parameters = s.parameters
  simp [loadState]

@[simp] theorem core_initData :
    (s.initData context).core = s.core.setOverride context (s.persistedInfo context) :=
  core_setTempInfo ..

theorem core_expireTemporary :
    (s.expireTemporary env context).core =
      s.core.setOverride context (Core.loadedRecord env.clock (s.core.overrideOf context)) := by
  unfold expireTemporary Core.loadedRecord
  rw [isColorModeTemporary_eq, checkTemporaryStateEffective_eq]
  split_ifs
  · simp
  · simp [Core.setOverride]

@[simp] theorem core_loadUserSettingData (needUpdateCallback isDarkMode bootLoadFlag : Bool) :
    (s.loadUserSettingData env context needUpdateCallback isDarkMode bootLoadFlag).service.core =
      s.core.load env context (s.loadState env context).2 (s.persistedInfo context)
        needUpdateCallback bootLoadFlag := by
  have hself (k : Core) (info : TempColorModeInfo) :
      (k.setOverride context info).overrideOf context = info := by simp [Core.setOverride]
  unfold loadUserSettingData Core.load
  dsimp only
  split_ifs <;>
    simp only [core_initSunriseSunsetMode, core_onStateChangeLocked, core_resetScreenOffOperateInfo,
      core_expireTemporary, core_initData, core_setState, core_loadState, persistedInfo_loadState,
      hself, Core.setOverride_setOverride]

end Load
end Service
end UiAppearance
