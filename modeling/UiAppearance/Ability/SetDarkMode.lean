import UiAppearance.DarkMode.Loading

/-!
# `SetDarkMode`

A manual choice is compared with the colour in memory, sent to the application
manager, and then made persistent for each affected context in turn: the
override is started or ended, the colour in memory and its parameter are
written, and the mode setting is changed when it is an all-day mode. The first
context that fails ends the call. `usersParam_` is left alone up to that point
only.
-/

namespace UiAppearance
namespace Service

variable (env : Env) (s : Service)

def getCallingUserId : ℤ :=
  let userId := env.callingUid.tdiv 200000
  if userId = 0 then env.foregroundOsAccountLocalId.getD user100 else userId

def getCallingAccountContext : AccountContext :=
  .getForegroundContext env (getCallingUserId env)

/-- The setting follows an all-day choice unless the mode in memory is a schedule or the same. -/
def notifyDarkModeUpdate (context : AccountContext) (isDarkMode : Bool) : Service :=
  let mode := (s.stateOf context).settingMode
  let s := s.touchState context
  let key := AccountContext.buildSettingKey SettingItem.mode.key context
  if isDarkMode then
    if mode = .alwaysLight ∨ mode = .invalid then
      s.withSettings (s.settingDataManager.setStringValue env key
        (toString DarkModeMode.alwaysDark.toInt) context.userId true)
    else s
  else
    if mode = .alwaysDark ∨ mode = .invalid then
      s.withSettings (s.settingDataManager.setStringValue env key
        (toString DarkModeMode.alwaysLight.toInt) context.userId true)
    else s

/-- The colour in memory and its parameter, the override first. -/
def persistColor (context : AccountContext) (mode : DarkMode) (paramValue : String) : Service :=
  ((s.doSwitchTemporaryColorMode env context (mode = .alwaysDark)).setDarkModeOf env context
    mode).setParameterWrap env (darkModeParamAssignUser context) paramValue

def configurePersistence (context : AccountContext) (mode : DarkMode) (paramValue : String) :
    Service × FuncResult :=
  let s := s.persistColor env context mode paramValue
  if !env.setParameter (darkModeParamAssignUser context) paramValue then (s, .sysErr)
  else (s.notifyDarkModeUpdate env context (mode = .alwaysDark), .succeeded)

/-- The contexts one after the other, up to the first that fails. -/
def configurePersistenceAll (mode : DarkMode) (paramValue : String) :
    List AccountContext → Service → Service × FuncResult
  | [], s => (s, .succeeded)
  | context :: rest, s =>
    let r := s.configurePersistence env context mode paramValue
    if r.2 ≠ .succeeded then (r.1, .sysErr)
    else configurePersistenceAll mode paramValue rest r.1

/-- The contexts a manual choice is made persistent for. -/
def affectedContexts (context : AccountContext) : List AccountContext :=
  let effectiveUserIds := getMultipleUsers env
  if 1 < effectiveUserIds.length then
    effectiveUserIds.map (AccountContext.getForegroundContext env)
  else [context]

def onSetDarkMode (context : AccountContext) (mode : DarkMode) : Service × FuncResult :=
  if mode = .unknown then (s, .invalidArg)
  else
    let paramValue := colorName (mode = .alwaysDark)
    let r := s.updateConfiguration env { colorMode := some paramValue } context.userId
      (getMultipleUsers env)
    if !r.2 then (r.1, .sysErr)
    else
      configurePersistenceAll env mode paramValue (affectedContexts env context)
        (r.1.setParameterWrap env persistDarkmodeKey paramValue)

/-- The colour in memory, light for a context without an entry. -/
def currentDarkMode (context : AccountContext) : DarkMode :=
  match s.usersParam context with
  | some param => param.darkMode
  | none => .alwaysLight

def setDarkMode (mode : ℤ) : Service × FuncResult :=
  let darkMode := DarkMode.ofInt mode
  if !env.accessGranted then (s, .permissionErr)
  else
    let context := getCallingAccountContext env
    if darkMode = s.currentDarkMode context then (s, .sysErr)
    else s.onSetDarkMode env context darkMode

def getDarkMode : DarkMode := s.currentDarkMode (getCallingAccountContext env)

end Service
end UiAppearance
