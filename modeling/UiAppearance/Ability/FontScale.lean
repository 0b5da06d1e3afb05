import UiAppearance.Ability.SetDarkMode

/-!
# Font scale and font weight

The two setters take the same way: configuration, global parameter, then memory
and parameter of each affected context. They differ in the item, in the names
of the parameters and in the field of `usersParam_`. Several effective users
are told only in a build with sub-profiles.
-/

namespace UiAppearance

def fontScaleForUser0 : String := "persist.sys.font_scale_for_user0"
def fontWeightScaleForUser0 : String := "persist.sys.font_wght_scale_for_user0"
def fontScaleForNone : String := "persist.sys.font_scale_for_user."
def fontWeightScaleForNone : String := "persist.sys.font_wght_scale_for_user."

def fontScaleParamAssignUser (context : AccountContext) : String :=
  AccountContext.buildUserParamKey fontScaleForNone context

def fontWeightScaleParamAssignUser (context : AccountContext) : String :=
  AccountContext.buildUserParamKey fontWeightScaleForNone context

/-- What one font property consists of, apart from the steps that set it. -/
structure FontProperty where
  config : String → Configuration
  globalParam : String
  paramAssignUser : AccountContext → String
  assign : String → UiAppearanceParam → UiAppearanceParam

def fontScaleProperty : FontProperty where
  config value := { fontSizeScale := some value }
  globalParam := fontScaleForUser0
  paramAssignUser := fontScaleParamAssignUser
  assign value param := { param with fontScale := value }

def fontWeightScaleProperty : FontProperty where
  config value := { fontWeightScale := some value }
  globalParam := fontWeightScaleForUser0
  paramAssignUser := fontWeightScaleParamAssignUser
  assign value param := { param with fontWeightScale := value }

namespace Service

variable (env : Env) (s : Service)

def configureFontPersistence (property : FontProperty) (context : AccountContext)
    (value : String) : Service × FuncResult :=
  let s := { s with usersParam :=
    s.usersParam.put context (property.assign value (s.paramOf env context)) }
  (s.setParameterWrap env (property.paramAssignUser context) value,
    if env.setParameter (property.paramAssignUser context) value then .succeeded else .sysErr)

def configureFontPersistenceAll (property : FontProperty) (value : String) :
    List AccountContext → Service → Service × FuncResult
  | [], s => (s, .succeeded)
  | context :: rest, s =>
    let r := s.configureFontPersistence env property context value
    if r.2 ≠ .succeeded then (r.1, .sysErr)
    else configureFontPersistenceAll property value rest r.1

def onSetFont (property : FontProperty) (context : AccountContext) (value : String) :
    Service × FuncResult :=
  let effectiveUserIds := if env.enableSubspace then getMultipleUsers env else []
  let r := s.updateConfiguration env (property.config value) context.userId effectiveUserIds
  if !r.2 then (r.1, .sysErr)
  else
    let contexts := if 1 < effectiveUserIds.length then
        effectiveUserIds.map (AccountContext.getForegroundContext env)
      else [context]
    configureFontPersistenceAll env property value contexts
      (r.1.setParameterWrap env property.globalParam value)

def setFont (property : FontProperty) (value : String) : Service × FuncResult :=
  if !env.accessGranted then (s, .permissionErr)
  else if value = "" then (s, .sysErr)
  else s.onSetFont env property (getCallingAccountContext env) value

def setFontScale (fontScale : String) : Service × FuncResult :=
  s.setFont env fontScaleProperty fontScale

def setFontWeightScale (fontWeightScale : String) : Service × FuncResult :=
  s.setFont env fontWeightScaleProperty fontWeightScale

def getFontScale : String :=
  match s.usersParam (getCallingAccountContext env) with
  | some param => param.fontScale
  | none => baseScale

def getFontWeightScale : String :=
  match s.usersParam (getCallingAccountContext env) with
  | some param => param.fontWeightScale
  | none => baseScale

end Service
end UiAppearance
