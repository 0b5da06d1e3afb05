import UiAppearance.Ability.FontScale

/-!
# Initialisation and account switches

The one-time migration of the old parameters, the load of every account's
parameters, the configuration sent on a switch, and the switch itself.
-/

namespace UiAppearance

def firstInitialization : String := "persist.uiAppearance.first_initialization"

namespace Service

variable (env : Env) (s : Service)

/-- A query that fails yields no account. -/
def getUserIds (query : AccountQuery) : List ℤ := env.createdOsAccounts query

/-- A parameter that already has a value is kept. -/
def migrateParam (paramName value : String) : Service :=
  if (s.getParameterWrap paramName "").isSome then s else s.setParameterWrap env paramName value

/-- One family of parameters: the old value, when there is one, goes to every context. -/
def migrateFamily (oldParam default : String) (refine : Service → String → String)
    (paramAssignUser : AccountContext → String) (contexts : List AccountContext) : Service :=
  match s.getParameterWrap oldParam default with
  | none => s
  | some old =>
    contexts.foldl (fun s' context => s'.migrateParam env (paramAssignUser context)
      (refine s old)) s

def doCompatibleProcess : Service :=
  let contexts := AccountContext.getContextsByUserIds env (getUserIds env .migration)
  let s := s.migrateFamily env persistDarkmodeKey light (fun _ value => value)
    darkModeParamAssignUser contexts
  let s := s.migrateFamily env fontScaleForUser0 baseScale (fun _ value => value)
    fontScaleParamAssignUser contexts
  let s := s.migrateFamily env fontWeightScaleForUser0 baseScale
    (fun s value => s.getDefaultFontWeightScaleValue env value)
    fontWeightScaleParamAssignUser contexts
  { s.setParameterWrap env firstInitialization "0" with isNeedDoCompatibleProcess := false }

/-- A sub-profile without a value of its own takes over the account's and keeps it. -/
def loadContextParam (context : AccountContext) (contextKey baseKey defaultValue : String) :
    Service × String :=
  match s.getParameterWrap contextKey "" with
  | some value => (s, value)
  | none =>
    if !context.isSubProfileContext then (s, defaultValue)
    else
      match s.getParameterWrap baseKey defaultValue with
      | none => (s, defaultValue)
      | some value => (s.setParameterWrap env contextKey value, value)

theorem loadContextParam_cases (context : AccountContext)
    (contextKey baseKey defaultValue : String) :
    (s.loadContextParam env context contextKey baseKey defaultValue).1 = s ∨
      context.isSubProfileContext = true ∧
        s.getParameterWrap baseKey defaultValue =
          some (s.loadContextParam env context contextKey baseKey defaultValue).2 ∧
        (s.loadContextParam env context contextKey baseKey defaultValue).1 =
          s.setParameterWrap env contextKey
            (s.loadContextParam env context contextKey baseKey defaultValue).2 := by
  unfold loadContextParam
  split
  · exact .inl rfl
  · split_ifs with hbase
    · exact .inl rfl
    · split
      · exact .inl rfl
      · next value hvalue => exact .inr ⟨by simpa using hbase, hvalue, rfl⟩

def initContext (context : AccountContext) : Service :=
  let base := AccountContext.createBaseContext context.userId
  let color := s.loadContextParam env context (darkModeParamAssignUser context)
    (darkModeParamAssignUser base) light
  let size := color.1.loadContextParam env context (fontScaleParamAssignUser context)
    (fontScaleParamAssignUser base) baseScale
  let weight := size.1.loadContextParam env context (fontWeightScaleParamAssignUser context)
    (fontWeightScaleParamAssignUser base) (size.1.getDefaultFontWeightScaleValue env baseScale)
  let tmpParam : UiAppearanceParam := ⟨.ofColor (color.2 = dark), size.2, weight.2⟩
  { weight.1 with usersParam := weight.1.usersParam.put context tmpParam }

def doInitProcess : Service :=
  let s := (AccountContext.getContextsByUserIds env (getUserIds env .initialization)).foldl
    (fun s context => s.initContext env context) s
  { s with isInitializationFinished := true }

/-- Only the first configuration of a context is addressed to its user unless it is forced. -/
def updateCurrentUserConfiguration (context : AccountContext) (isForceUpdate : Bool) : Service :=
  let tmpParam := s.paramOf env context
  let s := { s with usersParam := s.usersParam.touch context (s.newParam env) }
  let color := colorName (tmpParam.darkMode = .alwaysDark)
  let config : Configuration :=
    ⟨some color, some tmpParam.fontScale, some tmpParam.fontWeightScale⟩
  if !env.appManager then s
  else
    let first := isForceUpdate || !s.onceFlag context
    let target := if first then context.userId else user0
    let told := if env.updateConfiguration [target] then
        s.emit (.updateConfiguration config [target]) else s
    let marked := if first then
        { told with onceFlag := Function.update told.onceFlag context true } else told
    ((marked.setParameterWrap env persistDarkmodeKey color).setParameterWrap env
      fontScaleForUser0 tmpParam.fontScale).setParameterWrap env
      fontWeightScaleForUser0 tmpParam.fontWeightScale

/-- The colour a load reports counts unless an override is recorded. -/
def adoptLoadedColor (context : AccountContext) (code : ErrCode) (isDarkMode : Bool) :
    Service × Bool :=
  if code = .ok && s.isColorModeNormal context then
    if (s.paramOf env context).darkMode = .ofColor isDarkMode then
      ({ s with usersParam := s.usersParam.touch context (s.newParam env) }, false)
    else (s.setDarkModeOf env context (.ofColor isDarkMode), true)
  else (s, false)

def accountContextSwitchFunc (context : AccountContext) : Service :=
  let s := (s.onSwitchContext env context).1
  let load := s.loadUserSettingData env context false false false
  let s := load.service
  let s := if s.isNeedDoCompatibleProcess then s.doCompatibleProcess env else s
  let s := if s.isInitializationFinished then s else s.doInitProcess env
  let r := s.adoptLoadedColor env context load.code load.isDarkMode
  r.1.updateCurrentUserConfiguration env context (r.2 || context.isSubProfileContext)

def userSwitchFunc (userId : ℤ) : Service :=
  s.accountContextSwitchFunc env (.getForegroundContext env userId)

def applyAppearanceContextToUser (sourceContext targetContext : AccountContext) : Service :=
  match s.usersParam sourceContext with
  | none => s
  | some sourceParam =>
    let s := { s with usersParam := s.usersParam.put targetContext sourceParam }
    let s := ((s.setParameterWrap env (darkModeParamAssignUser targetContext)
      (colorName (sourceParam.darkMode = .alwaysDark))).setParameterWrap env
      (fontScaleParamAssignUser targetContext) sourceParam.fontScale).setParameterWrap env
      (fontWeightScaleParamAssignUser targetContext) sourceParam.fontWeightScale
    s.updateCurrentUserConfiguration env targetContext true

def subProfileContext (userId subProfileId : ℤ) : AccountContext :=
  if subProfileId = invalidSubProfileId then .getForegroundContext env userId
  else .createContext env userId subProfileId

/-- The user 100 is the centre whose appearance the other effective users take over. -/
def handleSubProfileSwitched (userId subProfileId : ℤ) : Service :=
  if !env.enableSubspace then s
  else if userId ≠ user100 then
    if userId ≤ invalidUserId then s
    else s.applyAppearanceContextToUser env (.getForegroundContext env user100)
      (subProfileContext env userId subProfileId)
  else
    let centerContext := subProfileContext env userId subProfileId
    (getMultipleUsers env).foldl (fun s effectiveUserId =>
      if effectiveUserId = user100 then s
      else s.applyAppearanceContextToUser env centerContext
        (.getForegroundContext env effectiveUserId)) (s.accountContextSwitchFunc env centerContext)

def bootCompletedCallback : Service :=
  if s.bootCompleteFlag then s
  else
    let s := { s with bootCompleteFlag := true }
    let context := AccountContext.getForegroundContext env (env.activeOsAccountIds.headD user100)
    ((s.onSwitchContext env context).1.loadUserSettingData env context true false true).service

/-- The application manager has become available. -/
def onAddSystemAbility : Service :=
  let initFlag := (s.getParameterWrap firstInitialization "0").getD "0"
  let s := { s with isNeedDoCompatibleProcess := decide (initFlag = "1") }.initializeManager
  let s := if s.isNeedDoCompatibleProcess && !(getUserIds env .beforeMigration).isEmpty then
      s.doCompatibleProcess env else s
  if !s.isInitializationFinished && !(getUserIds env .beforeInitialization).isEmpty then
    (s.doInitProcess env).updateCurrentUserConfiguration env
      (.getForegroundContext env (env.foregroundOsAccountLocalId.getD user100)) false
  else s

def onRemoveSystemAbility : Service := { s with onceFlag := fun _ => false }

def setSettingData (key value : String) : Service :=
  let context := getCallingAccountContext env
  s.withSettings (s.settingDataManager.setStringValue env
    (AccountContext.buildSettingKey key context) value context.userId true)

end Service
end UiAppearance
