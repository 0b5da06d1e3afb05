import UiAppearance.Bindings.JsUiAppearance

/-!
# The binding for the static language

The same functions once more, for callers whose arguments the compiler has
checked. A setter asks the client before it returns. What it throws itself has
no prefix, and no one asks whether the caller is a system application.
-/

namespace UiAppearance
namespace AniUiAppearance

structure AniEnv where
  hasEnv : Bool
  allocate : Bool
  promiseNew : Bool
  newErrorObject : Bool
  findEnum : Bool

def parseErrCode (errCode : ℤ) : String :=
  if errCode = FuncResult.permissionErr.toInt then "Permission denied. "
  else if errCode = FuncResult.invalidArg.toInt then "Parameter error. "
  else if errCode = FuncResult.sysErr.toInt then "Internal error. "
  else ""

def forbiddenGetMsg : String :=
  "An attempt was made to get configuration forbidden by permission: " ++
    "ohos.permission.UPDATE_CONFIGURATION."

variable (env : AniEnv) (client : ClientAnswers)

def getErrorObject (errMsg : String) (code : ℤ) : Option BusinessError :=
  if !env.hasEnv then none else if !env.newErrorObject then none else some ⟨code, errMsg⟩

def aniThrow (errMsg : String) (code : FuncResult) : List BusinessError :=
  (getErrorObject env errMsg code.toInt).toList

/-- Without a listener nobody is told. -/
def onComplete (listener : Option Listener) (requests : List ClientRequest) (status : ℤ)
    (errMsg : String) : SetterOutcome :=
  let settlement :=
    if status = FuncResult.succeeded.toInt then .resolved
    else .rejected (getErrorObject env (parseErrCode status ++ errMsg) status)
  { requests := requests, settled := listener.map fun listener => (listener, settlement) }

/-- The common part of `SetDarkMode` and `SetDarkModeWithPromise`. -/
def setDarkModeOf (listener : Option Listener) (modeEnum : ℤ) : SetterOutcome :=
  if !env.hasEnv then {}
  else if !env.allocate then { thrown := aniThrow env "create AsyncContext failed." .sysErr }
  else
    let request : ClientRequest := .setDarkMode (convertJsDarkMode2Enum modeEnum).toInt
    let status := (client request).funcRes
    let errMsg :=
      if status = FuncResult.permissionErr.toInt then permissionErrMsg
      else if status = FuncResult.invalidArg.toInt then invalidArgMsg
      else ""
    onComplete env listener [request] status errMsg

def setDarkMode (modeEnum : ℤ) (hasCallback : Bool) : SetterOutcome :=
  setDarkModeOf env client (if hasCallback then some .callback else none) modeEnum

/-- A promise that cannot be made is logged, and the work goes on. -/
def setDarkModeWithPromise (modeEnum : ℤ) : SetterOutcome :=
  setDarkModeOf env client (if env.promiseNew then some .promise else none) modeEnum

/-- `SetFontScale` and `SetFontWeightScale`. -/
def setFont (binding : FontBinding) (fontScale : JsNumber) : SetterOutcome :=
  if !env.hasEnv then {}
  else if !env.allocate then { thrown := aniThrow env "create AsyncContext failed." .sysErr }
  else if !env.promiseNew then {}
  else
    let request := binding.request fontScale.toText
    let (requests, status) :=
      if fontScale.outOfRange then ([], FuncResult.invalidArg.toInt)
      else ([request], (client request).funcRes)
    let errMsg :=
      if status = FuncResult.permissionErr.toInt then permissionErrMsg
      else if status = FuncResult.invalidArg.toInt then binding.invalidArgMsg
      else ""
    onComplete env (some .promise) requests status errMsg

def setFontScale (fontScale : JsNumber) : SetterOutcome :=
  setFont env client fontScaleBinding fontScale

def setFontWeightScale (fontWeightScale : JsNumber) : SetterOutcome :=
  setFont env client fontWeightScaleBinding fontWeightScale

/-- What a getter throws, when it does. -/
def getterError (failedMsg : String) (funcRes : ℤ) : Option (List BusinessError) :=
  if funcRes = FuncResult.sysErr.toInt then some (aniThrow env failedMsg .sysErr)
  else if funcRes = FuncResult.permissionErr.toInt then
    some (aniThrow env forbiddenGetMsg .permissionErr)
  else none

/-- The item of the enumeration, of which there are two. -/
def getDarkMode : List BusinessError × Option ℤ :=
  if !env.hasEnv then ([], none)
  else
    let mode := (client .getDarkMode).funcRes
    match getterError env "get dark-mode failed." mode with
    | some thrown => (thrown, none)
    | none => ([], if env.findEnum ∧ (mode = 0 ∨ mode = 1) then some mode else none)

/-- `GetFontScale` and `GetFontWeightScale`; `-1` comes back where something was thrown. -/
def getFont (binding : FontBinding) (strtod : Strtod) :
    List BusinessError × GetterOutcome (Option ℚ) :=
  if !env.hasEnv then ([], .returned (some (-1)))
  else
    let reply := client binding.getter
    match getterError env binding.getFailedMsg reply.funcRes with
    | some thrown => (thrown, .returned (some (-1)))
    | none => ([], JsUiAppearance.readScale strtod reply)

def getFontScale (strtod : Strtod) : List BusinessError × GetterOutcome (Option ℚ) :=
  getFont env client fontScaleBinding strtod

def getFontWeightScale (strtod : Strtod) : List BusinessError × GetterOutcome (Option ℚ) :=
  getFont env client fontWeightScaleBinding strtod

end AniUiAppearance
end UiAppearance
