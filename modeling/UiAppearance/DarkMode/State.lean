import UiAppearance.Schedule.AlarmTimerManager
import UiAppearance.Settings.SettingDataManager

/-!
# State of the service

`Service` collects the fields of the dark mode manager, of the three managers
it owns and of the ability, together with the two stores that outlive the
process: the parameters and the settings tables. `trace` is no field of the
source. It records, newest first, the calls an observer of the service would
notice, and no function reads it.
-/

namespace UiAppearance

inductive DarkModeMode where
  | invalid
  | alwaysLight
  | alwaysDark
  | customAuto
  | sunriseSunset
  deriving DecidableEq, Repr

namespace DarkModeMode

def toInt : DarkModeMode → ℤ
  | invalid => -1
  | alwaysLight => 0
  | alwaysDark => 1
  | customAuto => 2
  | sunriseSunset => 3

/-- The range check and the cast that both readers of the setting make. -/
def ofInt (value : ℤ) : DarkModeMode :=
  if value = 0 then alwaysLight
  else if value = 1 then alwaysDark
  else if value = 2 then customAuto
  else if value = 3 then sunriseSunset
  else invalid

def isSchedule (mode : DarkModeMode) : Bool := mode = customAuto || mode = sunriseSunset

end DarkModeMode

def sunsetTimeDefault : ℤ := 1080
def sunriseTimeDefault : ℤ := 1860

structure DarkModeState where
  settingMode : DarkModeMode := .invalid
  settingStartTime : ℤ := -1
  settingEndTime : ℤ := -1
  settingSunsetTime : ℤ := sunsetTimeDefault
  settingSunriseTime : ℤ := sunriseTimeDefault
  deriving DecidableEq, Repr

namespace DarkModeState

/-- The pair of bounds a schedule mode works with. -/
def scheduleTime (state : DarkModeState) : ℤ × ℤ :=
  if state.settingMode = .sunriseSunset then (state.settingSunsetTime, state.settingSunriseTime)
  else (state.settingStartTime, state.settingEndTime)

end DarkModeState

inductive TempColorModeType where
  | colorModeNormal
  | colorModeTemp
  deriving DecidableEq, Repr

structure TempColorModeInfo where
  tempColorMode : TempColorModeType := .colorModeNormal
  keepTemporaryStateStartTime : ℤ := 0
  keepTemporaryStateEndTime : ℤ := 0
  deriving DecidableEq, Repr

inductive ScreenSwitchType where
  | screenOff
  | screenOn
  deriving DecidableEq, Repr

inductive ScreenOffOperateType where
  | none
  | switchToLight
  | switchToDark
  deriving DecidableEq, Repr

def ScreenOffOperateType.ofColor (switchToDark : Bool) : ScreenOffOperateType :=
  if switchToDark then .switchToDark else .switchToLight

/-- The singleton that owns this record is zero-initialised, so it starts with the screen off. -/
structure ScreenSwitchOperatorManager where
  screenSwitch : ScreenSwitchType := .screenOff
  screenOffOperator : ScreenOffOperateType := .none
  userId : ℤ := 0
  deriving DecidableEq, Repr

namespace ScreenSwitchOperatorManager

variable (m : ScreenSwitchOperatorManager)

def isScreenOff : Bool := m.screenSwitch = .screenOff

def setScreenOn : ScreenSwitchOperatorManager := { m with screenSwitch := .screenOn }

def setScreenOff : ScreenSwitchOperatorManager := { m with screenSwitch := .screenOff }

def resetScreenOffOperateInfo : ScreenSwitchOperatorManager :=
  { m with screenOffOperator := .none, userId := user100 }

def setScreenOffOperateInfo (switchToDark : Bool) (userId : ℤ) : ScreenSwitchOperatorManager :=
  { m with screenOffOperator := .ofColor switchToDark, userId := userId }

def getScreenOffOperateInfo : Bool × ℤ := (m.screenOffOperator = .switchToDark, m.userId)

def haveScreenOffOperate : Bool := m.screenOffOperator ≠ .none

end ScreenSwitchOperatorManager

inductive DarkMode where
  | alwaysDark
  | alwaysLight
  | unknown
  deriving DecidableEq, Repr

/-- Any number but 0 and 1 names no colour. -/
def DarkMode.ofInt (mode : ℤ) : DarkMode :=
  if mode = 0 then .alwaysDark else if mode = 1 then .alwaysLight else .unknown

def DarkMode.ofColor (isDarkMode : Bool) : DarkMode :=
  if isDarkMode then .alwaysDark else .alwaysLight

structure UiAppearanceParam where
  darkMode : DarkMode := .alwaysLight
  fontScale : String := "1"
  fontWeightScale : String := "1"
  deriving DecidableEq, Repr

inductive FuncResult where
  | succeeded
  | permissionErr
  | notSystemApp
  | invalidArg
  | sysErr
  deriving DecidableEq, Repr

/-- What an alarm timer carries: the values its callback has captured. -/
inductive TimerCallback where
  | schedule (startTime endTime : ℤ) (context : AccountContext)
  | recalculation (context : AccountContext)
  deriving DecidableEq, Repr

/-- The five settings with an observer. -/
inductive SettingItem where
  | mode
  | startTime
  | endTime
  | sunset
  | sunrise
  deriving DecidableEq, Repr

def SettingItem.key : SettingItem → String
  | mode => "settings.uiappearance.darkmode_mode"
  | startTime => "settings.uiappearance.darkmode_starttime"
  | endTime => "settings.uiappearance.darkmode_endtime"
  | sunset => "settings.display.sun_set"
  | sunrise => "settings.display.sun_rise"

def modeKey (context : AccountContext) : String :=
  AccountContext.buildSettingKey SettingItem.mode.key context

/-- The callback of a registered observer, with the context it was registered for. -/
structure DarkModeObserver where
  item : SettingItem
  context : AccountContext
  deriving DecidableEq, Repr

/-- The items of an application manager configuration that this service sets. -/
structure Configuration where
  colorMode : Option String := none
  fontSizeScale : Option String := none
  fontWeightScale : Option String := none
  deriving DecidableEq, Repr

inductive Effect where
  | updateCallback (isDarkMode : Bool) (context : AccountContext)
  | setScreenOffOperateInfo (switchToDark : Bool) (context : AccountContext)
      (state : DarkModeState)
  | setColorModeTemporary (isDarkMode : Bool) (context : AccountContext)
  | updateConfiguration (config : Configuration) (userIds : List ℤ)
  deriving DecidableEq, Repr

structure Service where
  darkModeStates : Table AccountContext DarkModeState := Table.empty
  settingDataObservers : List SettingItem := []
  settingDataObserversContext : AccountContext := .createBaseContext invalidUserId
  settingDataObserversUserId : ℤ := invalidUserId
  hasUpdateCallback : Bool := false
  multiUserTempColorModeMap : Table AccountContext TempColorModeInfo := Table.empty
  screenSwitchOperatorMgr : ScreenSwitchOperatorManager := {}
  alarmTimerManager : AlarmTimerManager TimerCallback := {}
  settingDataManager : SettingDataManager DarkModeObserver := {}
  usersParam : Table AccountContext UiAppearanceParam := Table.empty
  isNeedDoCompatibleProcess : Bool := false
  isInitializationFinished : Bool := false
  onceFlag : AccountContext → Bool := fun _ => false
  bootCompleteFlag : Bool := false
  parameters : Table String String := Table.empty
  trace : List Effect := []

namespace Service

variable (env : Env) (s : Service)

/-- The state an inserting subscript on `darkModeStates_` yields. -/
def stateOf (context : AccountContext) : DarkModeState := s.darkModeStates.valueAt context {}

/-- `darkModeStates_[context]` read without being assigned. -/
def touchState (context : AccountContext) : Service :=
  { s with darkModeStates := s.darkModeStates.touch context {} }

def setState (context : AccountContext) (state : DarkModeState) : Service :=
  { s with darkModeStates := s.darkModeStates.put context state }

def emit (effect : Effect) : Service := { s with trace := effect :: s.trace }

def resetScreenOffOperateInfo : Service :=
  { s with screenSwitchOperatorMgr := s.screenSwitchOperatorMgr.resetScreenOffOperateInfo }

/-- An empty value counts as a failed read and leaves the caller's variable alone. -/
def getParameterWrap (paramName default : String) : Option String :=
  let value := (s.parameters paramName).getD default
  if value = "" then none else some value

/-- Succeeds as `env.setParameter` says. -/
def setParameterWrap (paramName value : String) : Service :=
  if env.setParameter paramName value then
    { s with parameters := s.parameters.put paramName value }
  else s

def getMultipleUsers : List ℤ := env.foregroundOsAccounts

end Service
end UiAppearance
