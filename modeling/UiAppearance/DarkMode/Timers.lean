import UiAppearance.DarkMode.Simulation
import UiAppearance.Schedule.Callbacks

/-!
# What happens to the timers

Colours and overrides leave the alarm timers alone; a reaction to a state sets
or clears those of its context, depending on the mode and on nothing else.
-/

namespace UiAppearance
namespace Service

variable (env : Env) (s : Service) (context : AccountContext)

section Frame

@[simp] theorem alarmTimerManager_setParameterWrap (paramName value : String) :
    (s.setParameterWrap env paramName value).alarmTimerManager = s.alarmTimerManager := by
  unfold setParameterWrap
  split_ifs <;> rfl

@[simp] theorem alarmTimerManager_setDarkModeOf (mode : DarkMode) :
    (s.setDarkModeOf env context mode).alarmTimerManager = s.alarmTimerManager := rfl

@[simp] theorem alarmTimerManager_updateConfiguration (config : Configuration) (userId : ℤ)
    (effectiveUserIds : List ℤ) :
    (s.updateConfiguration env config userId effectiveUserIds).1.alarmTimerManager =
      s.alarmTimerManager := by
  unfold updateConfiguration
  dsimp only
  split_ifs <;> rfl

@[simp] theorem alarmTimerManager_configurePersistenceOfCallback (isDarkMode : Bool)
    (paramValue : String) :
    (s.configurePersistenceOfCallback env isDarkMode context paramValue).alarmTimerManager =
      s.alarmTimerManager := by
  simp [configurePersistenceOfCallback]

@[simp] theorem alarmTimerManager_updateDarkModeCallback (isDarkMode : Bool) (userId : ℤ) :
    (s.updateDarkModeCallback env isDarkMode userId).alarmTimerManager = s.alarmTimerManager := by
  unfold updateDarkModeCallback
  dsimp only
  split_ifs
  · simp
  · rw [frame_foldl _ Service.alarmTimerManager]
    · simp
    · intro s' effectiveUserId
      simp
  · simp

@[simp] theorem alarmTimerManager_saveTempColorModeInfo :
    (s.saveTempColorModeInfo env context).alarmTimerManager = s.alarmTimerManager := by
  unfold saveTempColorModeInfo
  dsimp only
  split_ifs <;> simp only [alarmTimerManager_setParameterWrap]

@[simp] theorem alarmTimerManager_setColorModeNormal :
    (s.setColorModeNormal env context).alarmTimerManager = s.alarmTimerManager := by
  unfold setColorModeNormal
  rw [alarmTimerManager_saveTempColorModeInfo]
  rfl

@[simp] theorem alarmTimerManager_onChangeDarkMode (mode : DarkModeMode) :
    (s.onChangeDarkMode env mode context).alarmTimerManager = s.alarmTimerManager := by
  have hcallback : ((s.emit (.updateCallback (mode = .alwaysDark) context)).updateDarkModeCallback
      env (mode = .alwaysDark) context.userId).alarmTimerManager = s.alarmTimerManager := by
    rw [alarmTimerManager_updateDarkModeCallback]
    rfl
  unfold onChangeDarkMode
  dsimp only
  split_ifs
  · rfl
  · rw [alarmTimerManager_setColorModeNormal, hcallback]
  · exact hcallback

@[simp] theorem alarmTimerManager_updateDarkModeSchedule (mode : DarkModeMode)
    (resetTempColorModeFlag bootLoadFlag : Bool) :
    (s.updateDarkModeSchedule env mode context resetTempColorModeFlag
      bootLoadFlag).alarmTimerManager = s.alarmTimerManager := by
  unfold updateDarkModeSchedule
  dsimp only
  split_ifs
  · exact alarmTimerManager_onChangeDarkMode ..
  · exact alarmTimerManager_onChangeDarkMode ..
  · rfl
  · rfl
  · rfl

end Frame

/-- The timers once a schedule of a context was asked for: both run, or there are none. -/
def scheduleTimers (m : AlarmTimerManager TimerCallback) (times : ℤ × ℤ) :
    AlarmTimerManager TimerCallback :=
  let callback := TimerCallback.schedule times.1 times.2 context
  let r := m.setScheduleTime env (toUInt64 times.1) (toUInt64 times.2) context.buildTimerKey
    callback callback
  if r.2 = .ok then r.1 else r.1.clearTimerByUserId env context.buildTimerKey

/-- The timers after a reaction to a state of a context. -/
def timersFor (m : AlarmTimerManager TimerCallback) (state : DarkModeState) :
    AlarmTimerManager TimerCallback :=
  let key := context.buildTimerKey
  match state.settingMode with
  | .alwaysLight => (m.clearRecalculationTimer env key).clearTimerByUserId env key
  | .alwaysDark => (m.clearRecalculationTimer env key).clearTimerByUserId env key
  | .customAuto => scheduleTimers env context m state.scheduleTime
  | .sunriseSunset => scheduleTimers env context m state.scheduleTime
  | .invalid => m

section Callbacks

variable {env context} {m : AlarmTimerManager TimerCallback} {callback : TimerCallback}

theorem calls_scheduleTimers {times : ℤ × ℤ}
    (h : (scheduleTimers env context m times).Calls callback) :
    m.Calls callback ∨ (callback = .schedule times.1 times.2 context ∧
      AlarmTimerManager.isValidScheduleTime (toUInt64 times.1) (toUInt64 times.2) = true) := by
  unfold scheduleTimers at h
  dsimp only at h
  split_ifs at h
  · exact AlarmTimerManager.calls_setScheduleTime h
  · exact AlarmTimerManager.calls_setScheduleTime (AlarmTimerManager.calls_clearTimerByUserId h)

/-- A reaction adds callbacks for the schedule of its state only, and only if that is accepted. -/
theorem calls_timersFor {state : DarkModeState}
    (h : (timersFor env context m state).Calls callback) :
    m.Calls callback ∨ (callback = .schedule state.scheduleTime.1 state.scheduleTime.2 context ∧
      state.settingMode.isSchedule = true ∧ state.accepted = true) := by
  unfold timersFor at h
  cases hm : state.settingMode with
  | invalid =>
    simp only [hm] at h
    exact .inl h
  | alwaysLight =>
    simp only [hm] at h
    exact .inl (AlarmTimerManager.calls_clearRecalculationTimer _
      (AlarmTimerManager.calls_clearTimerByUserId h))
  | alwaysDark =>
    simp only [hm] at h
    exact .inl (AlarmTimerManager.calls_clearRecalculationTimer _
      (AlarmTimerManager.calls_clearTimerByUserId h))
  | customAuto =>
    simp only [hm] at h
    exact (calls_scheduleTimers h).imp_right fun hnew => ⟨hnew.1, rfl, hnew.2⟩
  | sunriseSunset =>
    simp only [hm] at h
    exact (calls_scheduleTimers h).imp_right fun hnew => ⟨hnew.1, rfl, hnew.2⟩

/-- The same, for the callbacks of a schedule. -/
theorem calls_schedule_timersFor {state : DarkModeState} {startTime endTime : ℤ}
    {context' : AccountContext}
    (h : (timersFor env context m state).Calls (.schedule startTime endTime context')) :
    m.Calls (.schedule startTime endTime context') ∨ (context' = context ∧
      state.settingMode.isSchedule = true ∧ state.scheduleTime = (startTime, endTime) ∧
      state.accepted = true) := by
  rcases calls_timersFor h with hbefore | ⟨hcallback, hmode, haccepted⟩
  · exact .inl hbefore
  · obtain ⟨rfl, rfl, rfl⟩ := TimerCallback.schedule.inj hcallback
    exact .inr ⟨rfl, hmode, rfl, haccepted⟩

end Callbacks

section Reaction

variable (needUpdateCallback isDarkMode resetTempColorModeFlag bootLoadFlag : Bool)

theorem alarmTimerManager_onStateChangeToAllDayMode (darkMode : DarkModeMode) :
    (s.onStateChangeToAllDayMode env context darkMode needUpdateCallback resetTempColorModeFlag
      bootLoadFlag).service.alarmTimerManager =
      (s.alarmTimerManager.clearRecalculationTimer env context.buildTimerKey).clearTimerByUserId
        env context.buildTimerKey := by
  unfold onStateChangeToAllDayMode
  dsimp only
  split_ifs
  · rw [alarmTimerManager_updateDarkModeSchedule]
    rfl
  · rfl

theorem alarmTimerManager_onStateChangeToCustomAutoMode (state : DarkModeState) :
    (s.onStateChangeToCustomAutoMode env context state needUpdateCallback isDarkMode
      resetTempColorModeFlag bootLoadFlag).service.alarmTimerManager =
      scheduleTimers env context s.alarmTimerManager state.scheduleTime := by
  unfold onStateChangeToCustomAutoMode scheduleTimers createOrUpdateTimers
  dsimp only
  split_ifs
  · rw [alarmTimerManager_updateDarkModeSchedule]
    rfl
  · rfl
  · rfl

theorem alarmTimerManager_onStateChangeLocked :
    (s.onStateChangeLocked env context needUpdateCallback isDarkMode resetTempColorModeFlag
      bootLoadFlag).service.alarmTimerManager =
      timersFor env context s.alarmTimerManager (s.stateOf context) := by
  cases hm : (s.stateOf context).settingMode with
  | invalid =>
    simp only [onStateChangeLocked, timersFor, hm]
    rfl
  | alwaysLight =>
    simp only [onStateChangeLocked, timersFor, hm, alarmTimerManager_onStateChangeToAllDayMode]
    rfl
  | alwaysDark =>
    simp only [onStateChangeLocked, timersFor, hm, alarmTimerManager_onStateChangeToAllDayMode]
    rfl
  | customAuto =>
    simp only [onStateChangeLocked, timersFor, hm, alarmTimerManager_onStateChangeToCustomAutoMode]
    rfl
  | sunriseSunset =>
    simp only [onStateChangeLocked, timersFor, hm, alarmTimerManager_onStateChangeToCustomAutoMode]
    rfl

end Reaction

@[simp] theorem alarmTimerManager_calculateAndApplySunriseSunsetTimes :
    (s.calculateAndApplySunriseSunsetTimes env context).alarmTimerManager =
      s.alarmTimerManager := by
  obtain ⟨r, hr⟩ := s.calculateAndApplySunriseSunsetTimes_eq env context
  rw [hr]
  rfl

@[simp] theorem darkModeStates_calculateAndApplySunriseSunsetTimes :
    (s.calculateAndApplySunriseSunsetTimes env context).darkModeStates = s.darkModeStates := by
  obtain ⟨r, hr⟩ := s.calculateAndApplySunriseSunsetTimes_eq env context
  rw [hr]
  rfl

@[simp] theorem alarmTimerManager_scheduleTimerCallback (startTime endTime : ℤ) :
    (s.scheduleTimerCallback env startTime endTime context).alarmTimerManager =
      s.alarmTimerManager := by
  unfold scheduleTimerCallback
  split
  · rfl
  · rw [alarmTimerManager_updateDarkModeSchedule]
    rfl

@[simp] theorem alarmTimerManager_recalculationCallback :
    (s.recalculationCallback env context).alarmTimerManager = s.alarmTimerManager := by
  unfold recalculationCallback
  split_ifs
  · exact alarmTimerManager_calculateAndApplySunriseSunsetTimes ..
  · rfl

theorem alarmTimerManager_restartTimerUpdate (startTime endTime : ℤ) :
    (s.restartTimerUpdate env startTime endTime context).alarmTimerManager =
      (s.alarmTimerManager.restartAllTimer env).1 := by
  change (AlarmTimerManager.restartAllTimer env (updateDarkModeSchedule ..).alarmTimerManager).1 = _
  rw [alarmTimerManager_updateDarkModeSchedule]

/-- A restart in a schedule mode restarts every timer; otherwise none is touched. -/
theorem alarmTimerManager_restartTimer :
    (s.restartTimer env).alarmTimerManager =
      if (s.stateOf s.observedContext).settingMode.isSchedule then
        (s.alarmTimerManager.restartAllTimer env).1
      else s.alarmTimerManager := by
  unfold restartTimer restartTimerRead restartTimerReread
  cases hm : (s.stateOf s.observedContext).settingMode with
  | invalid => simp only [stateOf_touchState, hm]; rfl
  | alwaysLight => simp only [stateOf_touchState, hm]; rfl
  | alwaysDark => simp only [stateOf_touchState, hm]; rfl
  | customAuto =>
    simp only [stateOf_touchState, hm, DarkModeMode.isSchedule]
    exact alarmTimerManager_restartTimerUpdate ..
  | sunriseSunset =>
    simp only [stateOf_touchState, stateOf_calculateAndApplySunriseSunsetTimes, hm,
      DarkModeMode.isSchedule]
    change (restartTimerUpdate ..).alarmTimerManager = _
    rw [alarmTimerManager_restartTimerUpdate]
    change (AlarmTimerManager.restartAllTimer env
      (calculateAndApplySunriseSunsetTimes ..).alarmTimerManager).1 = _
    rw [alarmTimerManager_calculateAndApplySunriseSunsetTimes]
    rfl

theorem alarmTimerManager_initSunriseSunsetMode :
    (s.initSunriseSunsetMode env context).alarmTimerManager =
      if s.isDarkModeSunsetSunrise context then
        s.alarmTimerManager.setRecalculationTimer env context.buildTimerKey
          (.recalculation context)
      else s.alarmTimerManager := by
  have hmode : (s.calculateAndApplySunriseSunsetTimes env context).isDarkModeSunsetSunrise
      context = s.isDarkModeSunsetSunrise context := by
    unfold isDarkModeSunsetSunrise
    rw [darkModeStates_calculateAndApplySunriseSunsetTimes]
  unfold initSunriseSunsetMode
  dsimp only
  rw [hmode]
  split_ifs
  · change AlarmTimerManager.setRecalculationTimer _ _ _ _ = _
    rw [alarmTimerManager_calculateAndApplySunriseSunsetTimes]
  · exact alarmTimerManager_calculateAndApplySunriseSunsetTimes ..

@[simp] theorem darkModeStates_initSunriseSunsetMode :
    (s.initSunriseSunsetMode env context).darkModeStates = s.darkModeStates := by
  unfold initSunriseSunsetMode
  dsimp only
  split_ifs
  · exact darkModeStates_calculateAndApplySunriseSunsetTimes ..
  · exact darkModeStates_calculateAndApplySunriseSunsetTimes ..

section Observer

variable (needUpdateCallback isDarkMode resetTempColorModeFlag bootLoadFlag : Bool)

/-- Reacting to a state that has just been stored leaves the states as they are. -/
theorem darkModeStates_onStateChangeLocked {state : DarkModeState}
    (h : s.darkModeStates context = some state) :
    (s.onStateChangeLocked env context needUpdateCallback isDarkMode resetTempColorModeFlag
      bootLoadFlag).service.darkModeStates = s.darkModeStates := by
  rw [darkModeStates_of_frame (beyondSchedule_onStateChangeLocked ..)]
  exact Table.touch_of_some h

variable (state : DarkModeState)

theorem darkModeStates_setState_onStateChangeLocked :
    ((s.setState context state).onStateChangeLocked env context needUpdateCallback isDarkMode
      resetTempColorModeFlag bootLoadFlag).service.darkModeStates =
      s.darkModeStates.put context state :=
  darkModeStates_onStateChangeLocked env _ context _ _ _ _ Table.put_self

theorem alarmTimerManager_setState_onStateChangeLocked :
    ((s.setState context state).onStateChangeLocked env context needUpdateCallback isDarkMode
      resetTempColorModeFlag bootLoadFlag).service.alarmTimerManager =
      timersFor env context s.alarmTimerManager state := by
  rw [alarmTimerManager_onStateChangeLocked, stateOf_setState_self]
  rfl

theorem alarmTimerManager_settingDataDarkModeModeUpdateFunc (key : String) :
    (s.settingDataDarkModeModeUpdateFunc env key context).alarmTimerManager =
      let value := s.settingValue env key context (-1)
      let m := timersFor env context s.alarmTimerManager
        { s.stateOf context with settingMode := .ofInt value }
      if DarkModeMode.ofInt value = .sunriseSunset then
        m.setRecalculationTimer env context.buildTimerKey (.recalculation context)
      else m.clearRecalculationTimer env context.buildTimerKey := by
  set value := s.settingValue env key context (-1)
  have hlocked : (s.settingDataDarkModeModeLocked env value context).alarmTimerManager =
      timersFor env context s.alarmTimerManager
        { s.stateOf context with settingMode := .ofInt value } :=
    alarmTimerManager_setState_onStateChangeLocked ..
  have hstates : (s.settingDataDarkModeModeLocked env value context).darkModeStates =
      s.darkModeStates.put context { s.stateOf context with settingMode := .ofInt value } :=
    darkModeStates_setState_onStateChangeLocked ..
  change (ite (DarkModeMode.ofInt value = .sunriseSunset)
    ((s.settingDataDarkModeModeLocked env value context).initSunriseSunsetMode env context)
    ((s.settingDataDarkModeModeLocked env value context).clearRecalculationTimer env
      context)).alarmTimerManager = _
  dsimp only
  split_ifs with hsun
  · have hmode : (s.settingDataDarkModeModeLocked env value context).isDarkModeSunsetSunrise
        context = true := by
      unfold isDarkModeSunsetSunrise
      rw [hstates, Table.put_self]
      exact decide_eq_true hsun
    rw [alarmTimerManager_initSunriseSunsetMode, hmode, if_pos rfl, hlocked]
  · rw [← hlocked]
    rfl

variable (observer : DarkModeObserver) (key : String)

theorem darkModeStates_observerUpdateFunc :
    (s.observerUpdateFunc env observer key).darkModeStates =
      s.darkModeStates.put observer.context (s.observerState env observer key) := by
  unfold observerUpdateFunc observerState
  cases observer.item with
  | mode =>
    unfold settingDataDarkModeModeUpdateFunc settingDataDarkModeModeLocked
    dsimp only
    split_ifs
    · rw [darkModeStates_initSunriseSunsetMode]
      exact darkModeStates_setState_onStateChangeLocked ..
    · exact darkModeStates_setState_onStateChangeLocked ..
  | startTime => exact darkModeStates_setState_onStateChangeLocked ..
  | endTime => exact darkModeStates_setState_onStateChangeLocked ..
  | sunset => exact darkModeStates_setState_onStateChangeLocked ..
  | sunrise => exact darkModeStates_setState_onStateChangeLocked ..

theorem stateOf_observerUpdateFunc :
    (s.observerUpdateFunc env observer key).stateOf observer.context =
      s.observerState env observer key := by
  rw [stateOf, darkModeStates_observerUpdateFunc, Table.valueAt_put_self]

/-- Only the mode observer looks after the recalculation timer. -/
theorem alarmTimerManager_observerUpdateFunc :
    (s.observerUpdateFunc env observer key).alarmTimerManager =
      let state := s.observerState env observer key
      let m := timersFor env observer.context s.alarmTimerManager state
      if observer.item ≠ .mode then m
      else if state.settingMode = .sunriseSunset then
        m.setRecalculationTimer env observer.context.buildTimerKey
          (.recalculation observer.context)
      else m.clearRecalculationTimer env observer.context.buildTimerKey := by
  unfold observerUpdateFunc observerState
  cases observer.item with
  | mode =>
    simp only [ne_eq, not_true, if_false]
    exact alarmTimerManager_settingDataDarkModeModeUpdateFunc ..
  | startTime => exact alarmTimerManager_setState_onStateChangeLocked ..
  | endTime => exact alarmTimerManager_setState_onStateChangeLocked ..
  | sunset => exact alarmTimerManager_setState_onStateChangeLocked ..
  | sunrise => exact alarmTimerManager_setState_onStateChangeLocked ..

variable {env s observer key}

theorem calls_observerUpdateFunc {startTime endTime : ℤ} {context : AccountContext}
    (h : (s.observerUpdateFunc env observer key).alarmTimerManager.Calls
      (.schedule startTime endTime context)) :
    s.alarmTimerManager.Calls (.schedule startTime endTime context) ∨
      (context = observer.context ∧
        (s.observerState env observer key).settingMode.isSchedule = true ∧
        (s.observerState env observer key).scheduleTime = (startTime, endTime) ∧
        (s.observerState env observer key).accepted = true) := by
  rw [alarmTimerManager_observerUpdateFunc] at h
  have hreacted : (timersFor env observer.context s.alarmTimerManager
      (s.observerState env observer key)).Calls (.schedule startTime endTime context) := by
    dsimp only at h
    split_ifs at h
    · exact h
    · exact (AlarmTimerManager.calls_setRecalculationTimer h).resolve_right nofun
    · exact AlarmTimerManager.calls_clearRecalculationTimer _ h
  exact calls_schedule_timersFor hreacted

end Observer

section Load

@[simp] theorem alarmTimerManager_loadSetting (item : SettingItem) (default : ℤ) :
    (s.loadSetting env item context default).1.alarmTimerManager = s.alarmTimerManager := by
  obtain ⟨r, hr⟩ := s.loadSetting_eq env context item default
  rw [hr]
  rfl

@[simp] theorem darkModeStates_loadSetting (item : SettingItem) (default : ℤ) :
    (s.loadSetting env item context default).1.darkModeStates = s.darkModeStates := by
  obtain ⟨r, hr⟩ := s.loadSetting_eq env context item default
  rw [hr]
  rfl

/-- What a load has done before it reacts to the state it has read. -/
def loadedService : Service :=
  ((((s.loadState env context).1.setState context (s.loadState env context).2).initData
    context).expireTemporary env context).resetScreenOffOperateInfo

theorem darkModeStates_loadedService :
    (s.loadedService env context).darkModeStates =
      s.darkModeStates.put context (s.loadState env context).2 := by
  have hexpire (s' : Service) : (s'.expireTemporary env context).darkModeStates =
      s'.darkModeStates := by
    unfold expireTemporary
    split_ifs
    · exact darkModeStates_of_frame (by simp [setColorModeNormal])
    · rfl
  change (expireTemporary _ _ _).darkModeStates = _
  rw [hexpire]
  change Table.put (s.loadState env context).1.darkModeStates _ _ = _
  simp [loadState]

theorem stateOf_loadedService :
    (s.loadedService env context).stateOf context = (s.loadState env context).2 := by
  rw [stateOf, darkModeStates_loadedService, Table.valueAt_put_self]

theorem alarmTimerManager_loadedService :
    (s.loadedService env context).alarmTimerManager = s.alarmTimerManager := by
  have hexpire (s' : Service) : (s'.expireTemporary env context).alarmTimerManager =
      s'.alarmTimerManager := by
    unfold expireTemporary
    split_ifs
    · exact alarmTimerManager_setColorModeNormal ..
    · rfl
  change (expireTemporary _ _ _).alarmTimerManager = _
  rw [hexpire]
  change (s.loadState env context).1.alarmTimerManager = _
  simp [loadState]

variable (needUpdateCallback isDarkMode bootLoadFlag : Bool)

theorem darkModeStates_loadedService_onStateChangeLocked :
    ((s.loadedService env context).onStateChangeLocked env context needUpdateCallback isDarkMode
      false bootLoadFlag).service.darkModeStates =
      s.darkModeStates.put context (s.loadState env context).2 := by
  have hentry : (s.loadedService env context).darkModeStates context =
      some (s.loadState env context).2 := by
    rw [darkModeStates_loadedService, Table.put_self]
  rw [darkModeStates_onStateChangeLocked env _ context _ _ _ _ hentry,
    darkModeStates_loadedService]

theorem darkModeStates_loadUserSettingData :
    (s.loadUserSettingData env context needUpdateCallback isDarkMode
      bootLoadFlag).service.darkModeStates =
      s.darkModeStates.put context (s.loadState env context).2 := by
  have hreacted := darkModeStates_loadedService_onStateChangeLocked env s context
    needUpdateCallback isDarkMode bootLoadFlag
  unfold loadUserSettingData
  dsimp only
  split_ifs
  · rw [darkModeStates_initSunriseSunsetMode]
    exact hreacted
  · exact hreacted

theorem stateOf_loadUserSettingData :
    (s.loadUserSettingData env context needUpdateCallback isDarkMode
      bootLoadFlag).service.stateOf context = (s.loadState env context).2 := by
  rw [stateOf, darkModeStates_loadUserSettingData, Table.valueAt_put_self]

theorem alarmTimerManager_loadUserSettingData :
    (s.loadUserSettingData env context needUpdateCallback isDarkMode
      bootLoadFlag).service.alarmTimerManager =
      let state := (s.loadState env context).2
      let m := timersFor env context s.alarmTimerManager state
      if state.settingMode = .sunriseSunset then
        m.setRecalculationTimer env context.buildTimerKey (.recalculation context)
      else m := by
  set reacted := (s.loadedService env context).onStateChangeLocked env context
    needUpdateCallback isDarkMode false bootLoadFlag with hreacted
  have hstates : reacted.service.darkModeStates =
      s.darkModeStates.put context (s.loadState env context).2 :=
    darkModeStates_loadedService_onStateChangeLocked ..
  have htimers : reacted.service.alarmTimerManager =
      timersFor env context s.alarmTimerManager (s.loadState env context).2 := by
    rw [hreacted, alarmTimerManager_onStateChangeLocked, alarmTimerManager_loadedService,
      stateOf_loadedService]
  change (ite ((s.loadState env context).2.settingMode = .sunriseSunset)
    { reacted with service := reacted.service.initSunriseSunsetMode env context }
    reacted).service.alarmTimerManager = _
  dsimp only
  split_ifs with hsun
  · have hmode : reacted.service.isDarkModeSunsetSunrise context = true := by
      unfold isDarkModeSunsetSunrise
      rw [hstates, Table.put_self]
      exact decide_eq_true hsun
    rw [alarmTimerManager_initSunriseSunsetMode, hmode, if_pos rfl, htimers]
  · exact htimers

variable {env s context needUpdateCallback isDarkMode bootLoadFlag}

theorem calls_loadUserSettingData {startTime endTime : ℤ} {context' : AccountContext}
    (h : (s.loadUserSettingData env context needUpdateCallback isDarkMode
      bootLoadFlag).service.alarmTimerManager.Calls (.schedule startTime endTime context')) :
    s.alarmTimerManager.Calls (.schedule startTime endTime context') ∨
      (context' = context ∧ (s.loadState env context).2.settingMode.isSchedule = true ∧
        (s.loadState env context).2.scheduleTime = (startTime, endTime) ∧
        (s.loadState env context).2.accepted = true) := by
  rw [alarmTimerManager_loadUserSettingData] at h
  have hreacted : (timersFor env context s.alarmTimerManager (s.loadState env context).2).Calls
      (.schedule startTime endTime context') := by
    dsimp only at h
    split_ifs at h
    · exact (AlarmTimerManager.calls_setRecalculationTimer h).resolve_right nofun
    · exact h
  exact calls_schedule_timersFor hreacted

end Load

end Service
end UiAppearance
