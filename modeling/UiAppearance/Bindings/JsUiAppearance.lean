import UiAppearance.Client.ServiceStub
import UiAppearance.Platform.NumberText

/-!
# The binding for scripts

A setter checks its arguments, queues its work and returns; the work asks the
client, and its completion settles the promise or calls the callback. A getter
asks the client at once. The client is a function of the request here. What of
the engine may fail is part of the environment. An error carries its code as a
number; the engine is given its digits.
-/

namespace UiAppearance

structure BusinessError where
  code : ℤ
  message : String
  deriving DecidableEq

inductive Settlement where
  | resolved
  | rejected (error : Option BusinessError)
  deriving DecidableEq

/-- To whom the end of a setter is told. -/
inductive Listener where
  | promise
  | callback
  deriving DecidableEq

/-- What a call of a setter leads to. -/
structure SetterOutcome where
  thrown : List BusinessError := []
  requests : List ClientRequest := []
  settled : Option (Listener × Settlement) := none
  deriving DecidableEq

/-- What a call of a getter leads to; an exception of the C++ library ends the process. -/
inductive GetterOutcome (α : Type) where
  | returned (value : α)
  | threw (error : BusinessError)
  | terminated
  deriving DecidableEq

abbrev ClientAnswers := ClientRequest → ClientReply

inductive JsValue where
  | number (value : JsNumber)
  | function
  | other
  deriving DecidableEq

/-- The parts of a font setter that depend on the property. -/
structure FontBinding where
  request : String → ClientRequest
  getter : ClientRequest
  invalidArgMsg : String
  getFailedMsg : String

def fontScaleBinding : FontBinding where
  request := .setFontScale
  getter := .getFontScale
  invalidArgMsg := "fontScale must between 0 and 5"
  getFailedMsg := "get font-scale failed."

def fontWeightScaleBinding : FontBinding where
  request := .setFontWeightScale
  getter := .getFontWeightScale
  invalidArgMsg := "fontWeightScale must between 0 and 5"
  getFailedMsg := "get font-Weight-scale failed."

def permissionErrMsg : String :=
  "An attempt was made to update configuration forbidden by permission: " ++
    "ohos.permission.UPDATE_CONFIGURATION."

def invalidArgMsg : String := "The type of 'mode' must be DarkMode."

def notSystemAppMsg : String := "A non-system application calls a system API."

/-- Comparisons with a NaN are false. -/
def JsNumber.outOfRange : JsNumber → Bool
  | .finite value => decide (value ≤ minFontScale) || decide (maxFontScale < value)
  | .nan => false
  | .infinity _ => true

def convertJsDarkMode2Enum (jsVal : ℤ) : DarkMode :=
  if jsVal = 0 then .alwaysDark else if jsVal = 1 then .alwaysLight else .unknown

namespace JsUiAppearance

structure NapiEnv where
  getCbInfo : Bool
  allocate : Bool
  createReference : Bool
  openHandleScope : Bool
  callerIsSystemApp : Bool
  getValueInt32 : JsNumber → ℤ

def parseErrCode (errCode : ℤ) : String :=
  if errCode = FuncResult.permissionErr.toInt then "Permission denied. "
  else if errCode = FuncResult.notSystemApp.toInt then "Permission verification failed. "
  else if errCode = FuncResult.invalidArg.toInt then "Parameter error. "
  else if errCode = FuncResult.sysErr.toInt then "Internal error. "
  else ""

def napiThrow (message : String) (errCode : FuncResult) : BusinessError :=
  ⟨errCode.toInt, parseErrCode errCode.toInt ++ message⟩

/-- What the work leaves in the context of the call. -/
structure Executed where
  requests : List ClientRequest
  status : ℤ
  errMsg : String

variable (env : NapiEnv) (client : ClientAnswers)

def onExecute (mode : DarkMode) : Executed :=
  let status := (client (.setDarkMode mode.toInt)).funcRes
  { requests := [.setDarkMode mode.toInt]
    status := status
    errMsg :=
      if status = FuncResult.permissionErr.toInt then permissionErrMsg
      else if status = FuncResult.invalidArg.toInt then invalidArgMsg
      else "" }

/-- `OnSetFontScale` and `OnSetFontWeightScale`. -/
def onSetFont (binding : FontBinding) (jsFontScale : JsNumber) : Executed :=
  let request := binding.request jsFontScale.toText
  let (requests, status) :=
    if !env.callerIsSystemApp then ([], FuncResult.notSystemApp.toInt)
    else if jsFontScale.outOfRange then ([], FuncResult.invalidArg.toInt)
    else ([request], (client request).funcRes)
  { requests := requests
    status := status
    errMsg :=
      if status = FuncResult.notSystemApp.toInt then notSystemAppMsg
      else if status = FuncResult.permissionErr.toInt then permissionErrMsg
      else if status = FuncResult.invalidArg.toInt then binding.invalidArgMsg
      else "" }

def onComplete (listener : Listener) (executed : Executed) : SetterOutcome :=
  if !env.openHandleScope then
    { thrown := [napiThrow "open handle scope failed." .sysErr], requests := executed.requests }
  else
    let settlement :=
      if executed.status = FuncResult.succeeded.toInt then .resolved
      else .rejected
        (some ⟨executed.status, parseErrCode executed.status ++ executed.errMsg⟩)
    { requests := executed.requests, settled := some (listener, settlement) }

/-- What the check of the arguments objects to, if anything. -/
def checkArgsWith (firstMsg : String) : List JsValue → Option String
  | [first, second] =>
    if second ≠ .function then some "the second parameter must be a function."
    else
      match first with
      | .number _ => none
      | .function | .other => some firstMsg
  | [first] =>
    match first with
    | .number _ => none
    | .function | .other => some firstMsg
  | _ => some "the number of parameters can only be 1 or 2."

def checkArgs : List JsValue → Option String :=
  checkArgsWith "the first parameter must be DarkMode."

def checkFontScaleArgs : List JsValue → Option String :=
  checkArgsWith "the first parameter must be Number."

/-- The number in the first place; what stands there for want of one has been refused. -/
def firstNumber : List JsValue → JsNumber
  | .number value :: _ => value
  | _ => .finite 0

/-- The way all setters take from their arguments to the end. -/
def jsSet (check : List JsValue → Option String) (execute : JsNumber → Executed)
    (args : List JsValue) : SetterOutcome :=
  if !env.getCbInfo then { thrown := [napiThrow "get callback info failed." .invalidArg] }
  else
    match check args with
    | some message =>
      { thrown := [napiThrow message .invalidArg,
          napiThrow "parameter parsing error." .invalidArg] }
    | none =>
      if !env.allocate then { thrown := [napiThrow "create AsyncContext failed." .sysErr] }
      else
        let listener : Listener :=
          if args.length = 2 ∧ env.createReference then .callback else .promise
        onComplete env listener (execute (firstNumber args))

def jsSetDarkMode (args : List JsValue) : SetterOutcome :=
  jsSet env checkArgs
    (fun value => onExecute client (convertJsDarkMode2Enum (env.getValueInt32 value))) args

def jsSetFont (binding : FontBinding) (args : List JsValue) : SetterOutcome :=
  jsSet env checkFontScaleArgs (onSetFont env client binding) args

def jsSetFontScale (args : List JsValue) : SetterOutcome :=
  jsSetFont env client fontScaleBinding args

def jsSetFontWeightScale (args : List JsValue) : SetterOutcome :=
  jsSetFont env client fontWeightScaleBinding args

def jsGetDarkMode (args : List JsValue) : GetterOutcome ℤ :=
  if args.length ≠ 0 then .threw (napiThrow "requires no parameter." .invalidArg)
  else
    let mode := (client .getDarkMode).funcRes
    if mode = FuncResult.sysErr.toInt then .threw (napiThrow "get dark-mode failed." .sysErr)
    else .returned mode

/-- The number that the getters make of a text, whatever else the reply says. -/
def readScale (strtod : Strtod) (reply : ClientReply) : GetterOutcome (Option ℚ) :=
  match stod strtod (reply.data.getD "") with
  | some value => .returned value
  | none => .terminated

def jsGetFont (binding : FontBinding) (strtod : Strtod) (args : List JsValue) :
    GetterOutcome (Option ℚ) :=
  if args.length ≠ 0 then .threw (napiThrow "requires no parameter." .invalidArg)
  else
    let reply := client binding.getter
    if reply.funcRes = FuncResult.sysErr.toInt then .threw (napiThrow binding.getFailedMsg .sysErr)
    else readScale strtod reply

def jsGetFontScale (strtod : Strtod) (args : List JsValue) : GetterOutcome (Option ℚ) :=
  jsGetFont client fontScaleBinding strtod args

def jsGetFontWeightScale (strtod : Strtod) (args : List JsValue) : GetterOutcome (Option ℚ) :=
  jsGetFont client fontWeightScaleBinding strtod args

end JsUiAppearance
end UiAppearance
