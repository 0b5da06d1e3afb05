import UiAppearance.DarkMode.ColorChange

/-!
# Following the settings

The five setting observers, the timer callbacks, a restart of the timers and
the recalculation of the sun times. Each observer stores its new value and lets
`onStateChangeLocked` arm the timers and bring the colour up to date. A value
that cannot be read is replaced by the default of its own observer.
-/

namespace UiAppearance

/-- What the observers of the state get back: its code, and the colour when there is one. -/
structure StateChange where
  service : Service
  code : ErrCode
  isDarkMode : Bool

def DarkModeMode.ofColor (isDarkMode : Bool) : DarkModeMode :=
  if isDarkMode then .alwaysDark else .alwaysLight

/-- The interval of the timer callbacks, in seconds and five seconds early at both ends. -/
def checkCurrentTimeInDarkInterval (startTime endTime currentTimeSeconds : ℤ) : Bool :=
  if endTime ≤ 1440 then
    decide (startTime * 60 - 5 < currentTimeSeconds) &&
      decide (currentTimeSeconds < endTime * 60 - 5)
  else
    decide (currentTimeSeconds < (endTime - 1440) * 60 - 5) ||
      decide (startTime * 60 - 5 < currentTimeSeconds)

namespace Service

variable (env : Env) (s : Service)

def setTimers (timers : AlarmTimerManager TimerCallback) : Service :=
  { s with alarmTimerManager := timers }

def createOrUpdateTimers (startTime endTime : ℤ) (context : AccountContext) : Service × ErrCode :=
  let callback := TimerCallback.schedule startTime endTime context
  let r := s.alarmTimerManager.setScheduleTime env (toUInt64 startTime) (toUInt64 endTime)
    context.buildTimerKey callback callback
  (s.setTimers r.1, r.2)

def clearTimerByContext (context : AccountContext) : Service :=
  s.setTimers (s.alarmTimerManager.clearTimerByUserId env context.buildTimerKey)

def clearRecalculationTimer (context : AccountContext) : Service :=
  s.setTimers (s.alarmTimerManager.clearRecalculationTimer env context.buildTimerKey)

def onStateChangeToAllDayMode (context : AccountContext) (darkMode : DarkModeMode)
    (needUpdateCallback resetTempColorModeFlag bootLoadFlag : Bool) : StateChange :=
  let cleared := (s.clearRecalculationTimer env context).clearTimerByContext env context
  { service :=
      if needUpdateCallback then
        cleared.updateDarkModeSchedule env darkMode context resetTempColorModeFlag bootLoadFlag
      else cleared
    code := .ok
    isDarkMode := darkMode = .alwaysDark }

def onStateChangeToCustomAutoMode (context : AccountContext) (state : DarkModeState)
    (needUpdateCallback isDarkMode resetTempColorModeFlag bootLoadFlag : Bool) : StateChange :=
  let times := state.scheduleTime
  let r := s.createOrUpdateTimers env times.1 times.2 context
  if r.2 = .ok then
    let within := AlarmTimerManager.isWithinTimeInterval env.clock (toUInt64 times.1)
      (toUInt64 times.2)
    { service :=
        if needUpdateCallback then
          r.1.updateDarkModeSchedule env (.ofColor within) context resetTempColorModeFlag
            bootLoadFlag
        else r.1
      code := .ok
      isDarkMode := within }
  else ⟨r.1.clearTimerByContext env context, r.2, isDarkMode⟩

def onStateChangeLocked (context : AccountContext)
    (needUpdateCallback isDarkMode resetTempColorModeFlag bootLoadFlag : Bool) : StateChange :=
  let state := s.stateOf context
  let s := s.touchState context
  match state.settingMode with
  | .alwaysLight =>
    s.onStateChangeToAllDayMode env context .alwaysLight needUpdateCallback
      resetTempColorModeFlag bootLoadFlag
  | .alwaysDark =>
    s.onStateChangeToAllDayMode env context .alwaysDark needUpdateCallback
      resetTempColorModeFlag bootLoadFlag
  | .customAuto =>
    s.onStateChangeToCustomAutoMode env context state needUpdateCallback isDarkMode
      resetTempColorModeFlag bootLoadFlag
  | .sunriseSunset =>
    s.onStateChangeToCustomAutoMode env context state needUpdateCallback isDarkMode
      resetTempColorModeFlag bootLoadFlag
  | .invalid => ⟨s, .invalidOperation, isDarkMode⟩

/-- The store half of `ApplySunriseSunsetTimes`; the times themselves come from `env`. -/
def applySunriseSunsetTimes (newSunset newSunrise : ℤ) (context : AccountContext) : Service :=
  match s.darkModeStates context with
  | none => s
  | some state =>
    if state.settingMode ≠ .sunriseSunset then s
    else if state.settingSunsetTime = newSunset ∧ state.settingSunriseTime = newSunrise then s
    else
      { s with settingDataManager :=
          (s.settingDataManager.setInt32ValuePair env
            (AccountContext.buildSettingKey SettingItem.sunset.key context) newSunset
            (AccountContext.buildSettingKey SettingItem.sunrise.key context) newSunrise
            context.userId).1 }

/-- Without a cached location, or in polar conditions, the times stay as they are. -/
def calculateAndApplySunriseSunsetTimes (context : AccountContext) : Service :=
  match env.sunTimes with
  | none => s
  | some times => s.applySunriseSunsetTimes env times.1 times.2 context

def initSunriseSunsetMode (context : AccountContext) : Service :=
  let s := s.calculateAndApplySunriseSunsetTimes env context
  if s.isDarkModeSunsetSunrise context then
    s.setTimers (s.alarmTimerManager.setRecalculationTimer env context.buildTimerKey
      (.recalculation context))
  else s

/-- The value an observer works with when its setting cannot be read strictly. -/
def settingValue (key : String) (context : AccountContext) (default : ℤ) : ℤ :=
  match s.settingDataManager.getInt32ValueStrictly env key context.userId with
  | .ok value => value
  | .error _ => default

/-- The state after the mode observer stored its value, locked part only. -/
def settingDataDarkModeModeLocked (value : ℤ) (context : AccountContext) : Service :=
  let state := s.stateOf context
  ((s.setState context { state with settingMode := .ofInt value }).onStateChangeLocked env context
    true false true false).service

def settingDataDarkModeModeUpdateFunc (key : String) (context : AccountContext) : Service :=
  let value := s.settingValue env key context DarkModeMode.invalid.toInt
  let s := s.settingDataDarkModeModeLocked env value context
  if DarkModeMode.ofInt value = .sunriseSunset then s.initSunriseSunsetMode env context
  else s.clearRecalculationTimer env context

def settingDataDarkModeStartTimeUpdateFunc (key : String) (context : AccountContext) : Service :=
  let value := s.settingValue env key context (-1)
  let state := s.stateOf context
  ((s.setState context { state with settingStartTime := value }).onStateChangeLocked env context
    true false true false).service

def settingDataDarkModeEndTimeUpdateFunc (key : String) (context : AccountContext) : Service :=
  let value := s.settingValue env key context (-1)
  let state := s.stateOf context
  ((s.setState context { state with settingEndTime := value }).onStateChangeLocked env context
    true false true false).service

end Service

namespace DarkModeState

/-- A sunset that is not before the known sunrise resets both times. -/
def withSunset (state : DarkModeState) (value : ℤ) : DarkModeState :=
  if state.settingSunriseTime ≤ value then
    { state with settingSunsetTime := sunsetTimeDefault, settingSunriseTime := sunriseTimeDefault }
  else { state with settingSunsetTime := value }

def withSunrise (state : DarkModeState) (value : ℤ) : DarkModeState :=
  if value ≤ state.settingSunsetTime then
    { state with settingSunsetTime := sunsetTimeDefault, settingSunriseTime := sunriseTimeDefault }
  else { state with settingSunriseTime := value }

end DarkModeState

namespace Service

variable (env : Env) (s : Service)

def settingDataDarkModeSunsetTimeUpdateFunc (key : String) (context : AccountContext) : Service :=
  let value := s.settingValue env key context sunsetTimeDefault
  ((s.setState context ((s.stateOf context).withSunset value)).onStateChangeLocked env context
    true false false false).service

def settingDataDarkModeSunriseTimeUpdateFunc (key : String) (context : AccountContext) : Service :=
  let value := s.settingValue env key context sunriseTimeDefault
  ((s.setState context ((s.stateOf context).withSunrise value)).onStateChangeLocked env context
    true false false false).service

/-- The callback registered for an item, with the key its observer carries. -/
def observerUpdateFunc (observer : DarkModeObserver) (key : String) : Service :=
  match observer.item with
  | .mode => s.settingDataDarkModeModeUpdateFunc env key observer.context
  | .startTime => s.settingDataDarkModeStartTimeUpdateFunc env key observer.context
  | .endTime => s.settingDataDarkModeEndTimeUpdateFunc env key observer.context
  | .sunset => s.settingDataDarkModeSunsetTimeUpdateFunc env key observer.context
  | .sunrise => s.settingDataDarkModeSunriseTimeUpdateFunc env key observer.context

/-- The captured schedule has to be the one in force; then the colour follows the clock. -/
def checkTimerCallbackParams (startTime endTime : ℤ) (context : AccountContext) :
    Option DarkModeMode :=
  let state := s.stateOf context
  if state.settingMode.isSchedule && decide (state.scheduleTime = (startTime, endTime)) &&
      !env.clock.failed then
    some (.ofColor (checkCurrentTimeInDarkInterval startTime endTime env.clock.secondOfDay))
  else none

def scheduleTimerCallback (startTime endTime : ℤ) (context : AccountContext) : Service :=
  match s.checkTimerCallbackParams env startTime endTime context with
  | none => s.touchState context
  | some colorMode => (s.touchState context).updateDarkModeSchedule env colorMode context false false

def recalculationCallback (context : AccountContext) : Service :=
  if s.isDarkModeSunsetSunrise context then s.calculateAndApplySunriseSunsetTimes env context else s

/-- The observed context, with the fallback to the bare user id. -/
def observedContext : AccountContext :=
  if s.settingDataObserversContext.userId = invalidUserId &&
      s.settingDataObserversUserId ≠ invalidUserId then
    .createBaseContext s.settingDataObserversUserId
  else s.settingDataObserversContext

/-- First locked read of `RestartTimer`: the schedule in force, if there is one. -/
def restartTimerRead (context : AccountContext) : Option (DarkModeMode × ℤ × ℤ) :=
  let state := s.stateOf context
  if state.settingMode.isSchedule then some (state.settingMode, state.scheduleTime) else none

/-- Second locked read, made only in sun mode and after the recalculation. -/
def restartTimerReread (context : AccountContext) : Option (ℤ × ℤ) :=
  let state := s.stateOf context
  if state.settingMode = .sunriseSunset then
    some (state.settingSunsetTime, state.settingSunriseTime)
  else none

/-- The colour is brought up to date, then every timer is started again. -/
def restartTimerUpdate (startTime endTime : ℤ) (context : AccountContext) : Service :=
  let within := AlarmTimerManager.isWithinTimeInterval env.clock (toUInt64 startTime)
    (toUInt64 endTime)
  let s := s.updateDarkModeSchedule env (.ofColor within) context false false
  s.setTimers (s.alarmTimerManager.restartAllTimer env).1

def restartTimer : Service :=
  let currentContext := s.observedContext
  let s := s.touchState currentContext
  match s.restartTimerRead currentContext with
  | none => s
  | some (.sunriseSunset, _) =>
    let s := (s.calculateAndApplySunriseSunsetTimes env currentContext).touchState currentContext
    match s.restartTimerReread currentContext with
    | none => s
    | some times => s.restartTimerUpdate env times.1 times.2 currentContext
  | some (_, times) => s.restartTimerUpdate env times.1 times.2 currentContext

end Service
end UiAppearance
