import UiAppearance.DarkMode.TemporaryColorMode

/-!
# Changing the colour

The ways a colour reaches the applications: directly through the callback the
ability has installed, or first into the pending screen-off operation and from
there through the callback when the screen goes off. A change through the
callback ends an override of the context; a followed schedule does not change
the colour while an override is effective.
-/

namespace UiAppearance

def light : String := "light"
def dark : String := "dark"
def baseScale : String := "1"
def standardFontWeight : String := "const.standard_font_weight"
def persistDarkmodeKey : String := "persist.ace.darkmode"
def persistDarkmodeKeyForNone : String := "persist.ace.darkmode."

def colorName (isDarkMode : Bool) : String := if isDarkMode then dark else light

def darkModeParamAssignUser (context : AccountContext) : String :=
  AccountContext.buildUserParamKey persistDarkmodeKeyForNone context

namespace Service

variable (env : Env) (s : Service)

def getDefaultFontWeightScaleValue (defaultValue : String) : String :=
  match s.getParameterWrap standardFontWeight defaultValue with
  | none => defaultValue
  | some value => if env.validFontWeightScale value then value else defaultValue

/-- A default-constructed `UiAppearanceParam`. -/
def newParam : UiAppearanceParam :=
  { fontWeightScale := s.getDefaultFontWeightScaleValue env baseScale }

def paramOf (context : AccountContext) : UiAppearanceParam :=
  s.usersParam.valueAt context (s.newParam env)

def setDarkModeOf (context : AccountContext) (mode : DarkMode) : Service :=
  { s with usersParam := s.usersParam.put context { s.paramOf env context with darkMode := mode } }

/-- A configuration that AppMgr refuses still counts when it is already in force. -/
def updateConfiguration (config : Configuration) (userId : ℤ) (effectiveUserIds : List ℤ) :
    Service × Bool :=
  let userIds := if 1 < effectiveUserIds.length then effectiveUserIds else [userId]
  if !env.appManager then (s, false)
  else if env.updateConfiguration userIds then (s.emit (.updateConfiguration config userIds), true)
  else (s, env.configurationInForce)

/-- The overload without a result: neither the override nor the settings are looked at. -/
def configurePersistenceOfCallback (isDarkMode : Bool) (context : AccountContext)
    (paramValue : String) : Service :=
  (s.setDarkModeOf env context (.ofColor isDarkMode)).setParameterWrap env
    (darkModeParamAssignUser context) paramValue

def updateDarkModeCallback (isDarkMode : Bool) (userId : ℤ) : Service :=
  let paramValue := colorName isDarkMode
  let effectiveUserIds := getMultipleUsers env
  let r := s.updateConfiguration env { colorMode := some paramValue } userId effectiveUserIds
  if !r.2 then r.1
  else
    let persisted := r.1.setParameterWrap env persistDarkmodeKey paramValue
    if 1 < effectiveUserIds.length then
      effectiveUserIds.foldl (fun s effectiveUserId =>
        s.configurePersistenceOfCallback env isDarkMode
          (.getForegroundContext env effectiveUserId) paramValue) persisted
    else
      persisted.configurePersistenceOfCallback env isDarkMode
        (.getForegroundContext env userId) paramValue

def onChangeDarkMode (mode : DarkModeMode) (context : AccountContext) : Service :=
  if !s.hasUpdateCallback then s
  else
    let isDarkMode : Bool := mode = .alwaysDark
    let updated := (s.emit (.updateCallback isDarkMode context)).updateDarkModeCallback env
      isDarkMode context.userId
    if updated.isColorModeTemporary context then updated.setColorModeNormal env context else updated

def setScreenOffOperateInfo (switchToDark : Bool) (context : AccountContext) : Service :=
  { s with screenSwitchOperatorMgr :=
      s.screenSwitchOperatorMgr.setScreenOffOperateInfo switchToDark context.userId }.emit
    (.setScreenOffOperateInfo switchToDark context (s.stateOf context))

def updateDarkModeSchedule (mode : DarkModeMode) (context : AccountContext)
    (resetTempColorModeFlag bootLoadFlag : Bool) : Service :=
  let s := s.resetScreenOffOperateInfo
  if resetTempColorModeFlag then s.onChangeDarkMode env mode context
  else if s.screenSwitchOperatorMgr.isScreenOff || bootLoadFlag then
    if s.followsSchedule env context then s.onChangeDarkMode env mode context else s
  else if s.followsSchedule env context then
    s.setScreenOffOperateInfo (mode = .alwaysDark) context
  else s

def screenOnCallback : Service :=
  { s with screenSwitchOperatorMgr := s.screenSwitchOperatorMgr.setScreenOn }

def setScreenOff : Service :=
  { s with screenSwitchOperatorMgr := s.screenSwitchOperatorMgr.setScreenOff }

def screenOffCallback : Service :=
  let s := s.setScreenOff
  if s.screenSwitchOperatorMgr.haveScreenOffOperate then
    let info := s.screenSwitchOperatorMgr.getScreenOffOperateInfo
    (s.onChangeDarkMode env (if info.1 then .alwaysDark else .alwaysLight)
      (.createBaseContext info.2)).resetScreenOffOperateInfo
  else s

def isDarkModeCustomAuto (context : AccountContext) : Bool :=
  (s.stateOf context).settingMode = .customAuto

def isDarkModeSunsetSunrise (context : AccountContext) : Bool :=
  match s.darkModeStates context with
  | some state => state.settingMode = .sunriseSunset
  | none => false

/-- A choice the schedule makes anyway ends an override, any other choice starts one. -/
def doSwitchTemporaryColorMode (context : AccountContext) (isDarkMode : Bool) : Service :=
  let s := s.touchState context
  if s.isDarkModeCustomAuto context || s.isDarkModeSunsetSunrise context then
    let s := s.resetScreenOffOperateInfo
    match s.getSettingTime context with
    | none => s
    | some setting =>
      if AlarmTimerManager.isWithinTimeInterval env.clock (toUInt64 setting.1)
          (toUInt64 setting.2) = isDarkMode then
        s.setColorModeNormal env context
      else (s.setColorModeTemporary env context).emit (.setColorModeTemporary isDarkMode context)
  else s

end Service
end UiAppearance
