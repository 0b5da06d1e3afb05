import UiAppearance.Foundations.ScopedLocks

/-!
# The locks on each call path

For every function of the service, the scoped locks it takes, in order, with
everything else forgotten: a branch becomes a choice, a loop over users or
observers a loop. Calls into other processes take no lock of this one.
-/

namespace UiAppearance

inductive Mutex where
  | darkModeStates
  | multiUserTempColorModeMap
  | settingDataObservers
  | timerMap
  | screenSwitch
  | screenOffOperateInfo
  | usersParam
  | observers
  deriving DecidableEq, Repr

namespace CallPaths

open ScopedLocks Prog

abbrev Code := Prog Mutex

def maybe (p : Code) : Code := .choice .skip p

/-- A block that does nothing with other locks. -/
def guarded (m : Mutex) : Code := .withLock m .skip

section ScreenSwitchOperatorManager

def isScreenOff : Code := guarded .screenSwitch
def setScreenOn : Code := guarded .screenSwitch
def setScreenOff : Code := guarded .screenSwitch
def resetScreenOffOperateInfo : Code := guarded .screenOffOperateInfo
def setScreenOffOperateInfo : Code := guarded .screenOffOperateInfo
def getScreenOffOperateInfo : Code := guarded .screenOffOperateInfo
def haveScreenOffOperate : Code := guarded .screenOffOperateInfo

end ScreenSwitchOperatorManager

section AlarmTimerManager

def setScheduleTime : Code := guarded .timerMap
def clearTimerByUserId : Code := guarded .timerMap
def restartAllTimer : Code := guarded .timerMap
def setRecalculationTimer : Code := guarded .timerMap
def clearRecalculationTimer : Code := guarded .timerMap

end AlarmTimerManager

section SettingDataManager

def registerObserver : Code := maybe (guarded .observers)
def unregisterObserver : Code := guarded .observers

end SettingDataManager

section TemporaryColorModeManager

def getSettingTime : Code := guarded .darkModeStates
def initData : Code := guarded .multiUserTempColorModeMap
def isColorModeTemporary : Code := guarded .multiUserTempColorModeMap
def isColorModeNormal : Code := guarded .multiUserTempColorModeMap
def checkTemporaryStateEffective : Code := guarded .multiUserTempColorModeMap
def saveTempColorModeInfo : Code := guarded .multiUserTempColorModeMap

/-- The schedule is asked for inside the block, and a missing one leaves it early. -/
def setColorModeTemporary : Code :=
  .seq (.withLock .multiUserTempColorModeMap getSettingTime) (maybe saveTempColorModeInfo)

def setColorModeNormal : Code :=
  .seq (guarded .multiUserTempColorModeMap) saveTempColorModeInfo

end TemporaryColorModeManager

section DarkModeManager

def configurePersistenceOfCallback : Code := guarded .usersParam

def updateDarkModeCallback : Code := maybe (.loop configurePersistenceOfCallback)

def onChangeDarkMode : Code :=
  maybe (.seq updateDarkModeCallback (.seq isColorModeTemporary (maybe setColorModeNormal)))

/-- The second test is made only when the first one fails. -/
def followsSchedule : Code := .seq isColorModeNormal (maybe checkTemporaryStateEffective)

def updateDarkModeSchedule : Code :=
  .seq resetScreenOffOperateInfo
    (.choice onChangeDarkMode
      (.seq isScreenOff (.seq followsSchedule
        (maybe (.choice onChangeDarkMode setScreenOffOperateInfo)))))

def onStateChangeToAllDayMode : Code :=
  .seq clearRecalculationTimer (.seq clearTimerByUserId (maybe updateDarkModeSchedule))

def onStateChangeToCustomAutoMode : Code :=
  .seq setScheduleTime (.choice clearTimerByUserId (maybe updateDarkModeSchedule))

def onStateChangeLocked : Code :=
  maybe (.choice onStateChangeToAllDayMode onStateChangeToCustomAutoMode)

def isDarkModeCustomAuto : Code := guarded .darkModeStates
def isDarkModeSunsetSunrise : Code := guarded .darkModeStates

def applySunriseSunsetTimes : Code := maybe (guarded .darkModeStates)

def calculateAndApplySunriseSunsetTimes : Code := maybe applySunriseSunsetTimes

def initSunriseSunsetMode : Code :=
  .seq calculateAndApplySunriseSunsetTimes (.withLock .darkModeStates (maybe setRecalculationTimer))

def loadUserSettingData : Code :=
  .seq
    (.withLock .darkModeStates
      (.seq initData (.seq isColorModeTemporary
        (.seq (maybe (.seq checkTemporaryStateEffective (maybe setColorModeNormal)))
          (.seq resetScreenOffOperateInfo onStateChangeLocked)))))
    (maybe initSunriseSunsetMode)

def notifyDarkModeUpdate : Code := guarded .darkModeStates

def screenOnCallback : Code := setScreenOn

def screenOffCallback : Code :=
  .seq setScreenOff (.seq haveScreenOffOperate (maybe
    (.seq getScreenOffOperateInfo (.seq onChangeDarkMode resetScreenOffOperateInfo))))

def onSwitchContext : Code :=
  maybe (.withLock .settingDataObservers
    (.seq (maybe (.seq clearTimerByUserId (.loop unregisterObserver))) (.loop registerObserver)))

def doSwitchTemporaryColorMode : Code :=
  .seq isDarkModeCustomAuto (.seq (maybe isDarkModeSunsetSunrise)
    (maybe (.seq resetScreenOffOperateInfo (.seq getSettingTime
      (maybe (.choice setColorModeNormal setColorModeTemporary))))))

def settingDataDarkModeModeUpdateFunc : Code :=
  .seq (.withLock .darkModeStates onStateChangeLocked)
    (.choice initSunriseSunsetMode clearRecalculationTimer)

def settingDataDarkModeStartTimeUpdateFunc : Code := .withLock .darkModeStates onStateChangeLocked
def settingDataDarkModeEndTimeUpdateFunc : Code := .withLock .darkModeStates onStateChangeLocked
def settingDataDarkModeSunsetTimeUpdateFunc : Code := .withLock .darkModeStates onStateChangeLocked
def settingDataDarkModeSunriseTimeUpdateFunc : Code :=
  .withLock .darkModeStates onStateChangeLocked

def checkTimerCallbackParams : Code := guarded .darkModeStates

def scheduleTimerCallback : Code := .seq checkTimerCallbackParams (maybe updateDarkModeSchedule)

def recalculationCallback : Code :=
  .seq isDarkModeSunsetSunrise (maybe calculateAndApplySunriseSunsetTimes)

/-- The second read is made in sun mode only; either read may end the restart. -/
def restartTimer : Code :=
  .seq (guarded .darkModeStates) (maybe
    (.seq (maybe (.seq calculateAndApplySunriseSunsetTimes (guarded .darkModeStates)))
      (maybe (.seq updateDarkModeSchedule restartAllTimer))))

end DarkModeManager

section UiAppearanceAbility

def configurePersistence : Code :=
  .seq doSwitchTemporaryColorMode (.seq (guarded .usersParam) (maybe notifyDarkModeUpdate))

def onSetDarkMode : Code := maybe (.loop configurePersistence)

def setDarkMode : Code := maybe (.seq (guarded .usersParam) (maybe onSetDarkMode))

def doInitProcess : Code := .loop (guarded .usersParam)

def updateCurrentUserConfiguration : Code := guarded .usersParam

/-- The migration of the old parameters, which runs before the initialisation, takes none of
these locks. -/
def accountContextSwitchFunc : Code :=
  .seq onSwitchContext (.seq loadUserSettingData (.seq (maybe doInitProcess)
    (.seq (maybe (.seq isColorModeNormal (maybe (guarded .usersParam))))
      updateCurrentUserConfiguration)))

def bootCompletedCallback : Code := maybe (.seq onSwitchContext loadUserSettingData)

end UiAppearanceAbility

/-- The ways a thread enters the service. -/
inductive Entry where
  | setDarkMode
  | accountContextSwitch
  | loadUserSettingData
  | bootCompleted
  | modeChanged
  | startTimeChanged
  | endTimeChanged
  | sunsetChanged
  | sunriseChanged
  | scheduleTimer
  | recalculationTimer
  | restartTimer
  | screenOn
  | screenOff
  deriving DecidableEq, Repr

def Entry.code : Entry → Code
  | .setDarkMode => CallPaths.setDarkMode
  | .accountContextSwitch => accountContextSwitchFunc
  | .loadUserSettingData => CallPaths.loadUserSettingData
  | .bootCompleted => bootCompletedCallback
  | .modeChanged => settingDataDarkModeModeUpdateFunc
  | .startTimeChanged => settingDataDarkModeStartTimeUpdateFunc
  | .endTimeChanged => settingDataDarkModeEndTimeUpdateFunc
  | .sunsetChanged => settingDataDarkModeSunsetTimeUpdateFunc
  | .sunriseChanged => settingDataDarkModeSunriseTimeUpdateFunc
  | .scheduleTimer => scheduleTimerCallback
  | .recalculationTimer => recalculationCallback
  | .restartTimer => CallPaths.restartTimer
  | .screenOn => screenOnCallback
  | .screenOff => screenOffCallback

/-- A thread that serves one entry after the other. -/
def thread (entries : List Entry) : Code := entries.foldr (fun entry p => .seq entry.code p) .skip

/-- The permitted nestings, read off the source: at most one lock inside another, and the only
two that nest in both orders are those of the states and of the overrides. -/
def Nested : List Mutex → Mutex → Prop
  | [], _ => True
  | [.darkModeStates], m =>
    m = .multiUserTempColorModeMap ∨ m = .timerMap ∨ m = .screenSwitch ∨
      m = .screenOffOperateInfo ∨ m = .usersParam
  | [.settingDataObservers], m => m = .timerMap ∨ m = .observers
  | [.multiUserTempColorModeMap], m => m = .darkModeStates
  | _, _ => False

instance : ∀ held m, Decidable (Nested held m)
  | [], _ => isTrue trivial
  | [.darkModeStates], _ => inferInstanceAs (Decidable (_ ∨ _))
  | [.settingDataObservers], _ => inferInstanceAs (Decidable (_ ∨ _))
  | [.multiUserTempColorModeMap], _ => inferInstanceAs (Decidable (_ = _))
  | [.timerMap], _ => isFalse id
  | [.screenSwitch], _ => isFalse id
  | [.screenOffOperateInfo], _ => isFalse id
  | [.usersParam], _ => isFalse id
  | [.observers], _ => isFalse id
  | _ :: _ :: _, _ => isFalse fun h => by simp [Nested] at h

theorem entry_nests (entry : Entry) : entry.code.Nests Nested [] := by
  cases entry <;> decide

theorem thread_nests (entries : List Entry) : (thread entries).Nests Nested [] := by
  induction entries with
  | nil => trivial
  | cons entry entries ih => exact ⟨entry_nests entry, ih⟩

end CallPaths
end UiAppearance
