import UiAppearance.Properties.ScaleRoundTrip

/-!
# The two bindings side by side

What a script sees of a setter and what a program in the static language sees
are the same, to the text of an error, for every answer the service can give and
for a connection that is down; one text that only one of them has is never
needed. They differ in the texts that getters throw, for applications that are
not of the system, which only scripts are asked about, and in a colour that the
static language has no item for.
-/

namespace UiAppearance
namespace BindingsAgree

open Service JsUiAppearance ScaleRoundTrip

variable {napi : NapiEnv} {ani : AniUiAppearance.AniEnv} {client : ClientAnswers}
  {binding : FontBinding} {env : Env} {s : Service} {app : Bool}

/-! ## The results of the service -/

theorem configurePersistenceAll_ne_notSystemApp (mode : DarkMode) (paramValue : String)
    (contexts : List AccountContext) (s : Service) :
    (configurePersistenceAll env mode paramValue contexts s).2 ≠ .notSystemApp := by
  induction contexts generalizing s with
  | nil => exact FuncResult.noConfusion
  | cons context rest ih =>
    unfold configurePersistenceAll
    dsimp only
    split_ifs
    · exact FuncResult.noConfusion
    · exact ih _

theorem configureFontPersistenceAll_ne_notSystemApp (property : FontProperty) (value : String)
    (contexts : List AccountContext) (s : Service) :
    (configureFontPersistenceAll env property value contexts s).2 ≠ .notSystemApp := by
  induction contexts generalizing s with
  | nil => exact FuncResult.noConfusion
  | cons context rest ih =>
    unfold configureFontPersistenceAll
    dsimp only
    split_ifs
    · exact FuncResult.noConfusion
    · exact ih _

theorem setFont_ne_notSystemApp (property : FontProperty) (value : String) :
    (s.setFont env property value).2 ≠ .notSystemApp := by
  unfold setFont Service.onSetFont
  dsimp only
  split_ifs
  all_goals first
    | exact FuncResult.noConfusion
    | exact configureFontPersistenceAll_ne_notSystemApp _ _ _ _

/-- The setters have no result for callers that are no system applications. -/
theorem call_ne_notSystemApp (r : Request) : (r.call env s).2 ≠ .notSystemApp := by
  cases r with
  | setDarkMode mode =>
    change (s.setDarkMode env mode).2 ≠ .notSystemApp
    unfold Service.setDarkMode onSetDarkMode
    dsimp only
    split_ifs
    all_goals first
      | exact FuncResult.noConfusion
      | exact configurePersistenceAll_ne_notSystemApp _ _ _ _
  | setFontScale fontScale => exact setFont_ne_notSystemApp fontScaleProperty fontScale
  | setFontWeightScale fontWeightScale =>
    exact setFont_ne_notSystemApp fontWeightScaleProperty fontWeightScale

/-- What a client returns over a connection that may be down. -/
def received (env : Env) (app : Bool) (s : Service) (delivered : Bool) : ClientAnswers :=
  fun request => ClientSystem.resultOf
    (if delivered then (s.answer env app request).2 else none)

theorem toInt_ne_notSystemApp {r : FuncResult} (h : r ≠ .notSystemApp) :
    r.toInt ≠ FuncResult.notSystemApp.toInt := by
  revert h
  cases r <;> decide

theorem received_setter (r : Request) {request : ClientRequest} (delivered : Bool)
    (h : (s.answer env app request).2 = some ⟨(r.call env s).2.toInt, none⟩) :
    (received env app s delivered request).funcRes ≠ FuncResult.notSystemApp.toInt := by
  cases delivered with
  | false => exact toInt_ne_notSystemApp (r := .sysErr) FuncResult.noConfusion
  | true =>
    unfold received
    rw [if_pos rfl, h]
    exact toInt_ne_notSystemApp (call_ne_notSystemApp r)

/-! ## Setters -/

theorem parseErrCode_eq {errCode : ℤ} (h : errCode ≠ FuncResult.notSystemApp.toInt) :
    AniUiAppearance.parseErrCode errCode = parseErrCode errCode := by
  unfold AniUiAppearance.parseErrCode parseErrCode
  rw [if_neg h]

section Agreement

variable (h : Working napi ani)
include h

theorem setDarkMode_agree (value : JsNumber)
    (hreply : (client (.setDarkMode
      (convertJsDarkMode2Enum (napi.getValueInt32 value)).toInt)).funcRes ≠
        FuncResult.notSystemApp.toInt) :
    jsSetDarkMode napi client [.number value] =
      AniUiAppearance.setDarkModeWithPromise ani client (napi.getValueInt32 value) := by
  simp [jsSetDarkMode, jsSet, checkArgs, checkArgsWith, firstNumber, onExecute, onComplete,
    AniUiAppearance.setDarkModeWithPromise, AniUiAppearance.setDarkModeOf,
    AniUiAppearance.onComplete, AniUiAppearance.getErrorObject, parseErrCode_eq hreply,
    h.getCbInfo, h.allocate, h.openHandleScope, h.hasEnv, h.allocateStatic, h.promiseNew,
    h.newErrorObject]
  rfl

theorem setDarkMode_agree_callback (value : JsNumber) (hreference : napi.createReference = true)
    (hreply : (client (.setDarkMode
      (convertJsDarkMode2Enum (napi.getValueInt32 value)).toInt)).funcRes ≠
        FuncResult.notSystemApp.toInt) :
    jsSetDarkMode napi client [.number value, .function] =
      AniUiAppearance.setDarkMode ani client (napi.getValueInt32 value) true := by
  simp [jsSetDarkMode, jsSet, checkArgs, checkArgsWith, firstNumber, onExecute, onComplete,
    AniUiAppearance.setDarkMode, AniUiAppearance.setDarkModeOf,
    AniUiAppearance.onComplete, AniUiAppearance.getErrorObject, parseErrCode_eq hreply,
    h.getCbInfo, h.allocate, h.openHandleScope, h.hasEnv, h.allocateStatic, h.newErrorObject,
    hreference]
  rfl

theorem setFont_agree (value : JsNumber)
    (hreply : (client (binding.request value.toText)).funcRes ≠
      FuncResult.notSystemApp.toInt) :
    jsSetFont napi client binding [.number value] =
      AniUiAppearance.setFont ani client binding value := by
  have hinvalid : FuncResult.invalidArg.toInt ≠ FuncResult.notSystemApp.toInt := by decide
  cases hrange : value.outOfRange <;>
    simp [jsSetFont, jsSet, checkFontScaleArgs, checkArgsWith, firstNumber, JsUiAppearance.onSetFont,
      onComplete,
      AniUiAppearance.setFont, AniUiAppearance.onComplete, AniUiAppearance.getErrorObject,
      parseErrCode_eq hreply, parseErrCode_eq hinvalid, h.getCbInfo, h.allocate,
      h.openHandleScope, h.callerIsSystemApp, h.hasEnv, h.allocateStatic, h.promiseNew,
      h.newErrorObject, hrange, hreply, hinvalid]

/-- A script of another application sends nothing, and a program still does. -/
theorem setFont_notSystemApp (value : JsNumber) :
    jsSetFont { napi with callerIsSystemApp := false } client binding [.number value] =
        { settled := some (.promise, .rejected
            (some (napiThrow notSystemAppMsg .notSystemApp))) } ∧
      (AniUiAppearance.setFont ani client binding value).requests =
        if value.outOfRange then [] else [binding.request value.toText] := by
  have hfailed : FuncResult.notSystemApp.toInt ≠ FuncResult.succeeded.toInt := by decide
  constructor
  · simp [jsSetFont, jsSet, checkFontScaleArgs, checkArgsWith, JsUiAppearance.onSetFont,
      onComplete, napiThrow, h.getCbInfo, h.allocate, h.openHandleScope, hfailed]
  · cases hrange : value.outOfRange <;>
      simp [AniUiAppearance.setFont, AniUiAppearance.onComplete, h.hasEnv, h.allocateStatic,
        h.promiseNew, hrange]

end Agreement

/-! ## Getters -/

/-- What the service answers to a getter of a scale. -/
theorem received_getter (kind : Scale) :
    ∃ text, received env app s true kind.binding.getter =
      ⟨FuncResult.succeeded.toInt, some text⟩ := by
  cases kind with
  | size => exact ⟨_, rfl⟩
  | weight => exact ⟨_, rfl⟩

theorem getFont_agree (hworking : Working napi ani) {text : String}
    (hreply : client binding.getter = ⟨FuncResult.succeeded.toInt, some text⟩) (strtod : Strtod) :
    AniUiAppearance.getFont ani client binding strtod =
      ([], jsGetFont client binding strtod []) := by
  have hsys : FuncResult.succeeded.toInt ≠ FuncResult.sysErr.toInt := by decide
  have hpermission : FuncResult.succeeded.toInt ≠ FuncResult.permissionErr.toInt := by decide
  simp [jsGetFont, AniUiAppearance.getFont, AniUiAppearance.getterError, hreply, hsys,
    hpermission, hworking.hasEnv]

/-- Both throw when there is no reply, and only the prefix differs. -/
theorem getFont_noReply (hworking : Working napi ani) (hreply : client binding.getter =
    ClientSystem.resultOf none) (strtod : Strtod) :
    jsGetFont client binding strtod [] =
        .threw ⟨FuncResult.sysErr.toInt, "Internal error. " ++ binding.getFailedMsg⟩ ∧
      AniUiAppearance.getFont ani client binding strtod =
        ([⟨FuncResult.sysErr.toInt, binding.getFailedMsg⟩], .returned (some (-1))) := by
  have hprefix : parseErrCode FuncResult.sysErr.toInt = "Internal error. " := by decide
  simp [jsGetFont, AniUiAppearance.getFont, AniUiAppearance.getterError, hreply, napiThrow,
    ClientSystem.resultOf, AniUiAppearance.aniThrow, AniUiAppearance.getErrorObject, hprefix,
    hworking.hasEnv, hworking.newErrorObject]

theorem getDarkMode_agree (hworking : Working napi ani) {mode : DarkMode}
    (hreply : client .getDarkMode = ⟨mode.toInt, none⟩) :
    jsGetDarkMode client [] = .returned mode.toInt ∧
      AniUiAppearance.getDarkMode ani client =
        ([], if ani.findEnum ∧ mode ≠ .unknown then some mode.toInt else none) := by
  have hsys : mode.toInt ≠ FuncResult.sysErr.toInt := by cases mode <;> decide
  have hpermission : mode.toInt ≠ FuncResult.permissionErr.toInt := by cases mode <;> decide
  have hitem : (mode.toInt = 0 ∨ mode.toInt = 1) ↔ mode ≠ .unknown := by cases mode <;> decide
  simp [jsGetDarkMode, AniUiAppearance.getDarkMode, AniUiAppearance.getterError, hreply, hsys,
    hpermission, hworking.hasEnv, hitem]

theorem getDarkMode_noReply (hworking : Working napi ani)
    (hreply : client .getDarkMode = ClientSystem.resultOf none) :
    jsGetDarkMode client [] =
        .threw ⟨FuncResult.sysErr.toInt, "Internal error. get dark-mode failed."⟩ ∧
      AniUiAppearance.getDarkMode ani client =
        ([⟨FuncResult.sysErr.toInt, "get dark-mode failed."⟩], none) := by
  have hprefix : parseErrCode FuncResult.sysErr.toInt = "Internal error. " := by decide
  simp [jsGetDarkMode, AniUiAppearance.getDarkMode, AniUiAppearance.getterError, hreply, napiThrow,
    ClientSystem.resultOf, AniUiAppearance.aniThrow, AniUiAppearance.getErrorObject, hprefix,
    hworking.hasEnv, hworking.newErrorObject]

/-- For every state of the service, every caller it may see, every number, and a connection that is
up or down, the two bindings send the same requests and tell their callers the same, getters that
throw apart, whose texts differ in the prefix; and a script of an application that is not of the
system, unlike a program, sends no scale. A program gets a colour only if its enumeration is found
and has an item for it. -/
theorem bindings_agree (hworking : Working napi ani) (hreference : napi.createReference = true)
    (env : Env) (app : Bool) (s : Service) (delivered : Bool) :
    let client := received env app s delivered
    (∀ value,
      jsSetDarkMode napi client [.number value] =
          AniUiAppearance.setDarkModeWithPromise ani client (napi.getValueInt32 value) ∧
        jsSetDarkMode napi client [.number value, .function] =
          AniUiAppearance.setDarkMode ani client (napi.getValueInt32 value) true) ∧
    (if delivered then
      jsGetDarkMode client [] = .returned (s.getDarkMode env).toInt ∧
        AniUiAppearance.getDarkMode ani client =
          ([], if ani.findEnum ∧ s.getDarkMode env ≠ .unknown then some (s.getDarkMode env).toInt
            else none)
    else
      jsGetDarkMode client [] =
          .threw ⟨FuncResult.sysErr.toInt, "Internal error. get dark-mode failed."⟩ ∧
        AniUiAppearance.getDarkMode ani client =
          ([⟨FuncResult.sysErr.toInt, "get dark-mode failed."⟩], none)) ∧
    ∀ kind : Scale,
      (∀ value,
        jsSetFont napi client kind.binding [.number value] =
            AniUiAppearance.setFont ani client kind.binding value ∧
          (jsSetFont { napi with callerIsSystemApp := false } client kind.binding
            [.number value]).requests = [] ∧
          (AniUiAppearance.setFont ani client kind.binding value).requests =
            if value.outOfRange then [] else [kind.binding.request value.toText]) ∧
      ∀ strtod,
        if delivered then
          AniUiAppearance.getFont ani client kind.binding strtod =
            ([], jsGetFont client kind.binding strtod [])
        else
          jsGetFont client kind.binding strtod [] =
              .threw ⟨FuncResult.sysErr.toInt, "Internal error. " ++ kind.binding.getFailedMsg⟩ ∧
            AniUiAppearance.getFont ani client kind.binding strtod =
              ([⟨FuncResult.sysErr.toInt, kind.binding.getFailedMsg⟩],
                .returned (some (-1))) := by
  intro client
  refine ⟨fun value => ?_, ?_, fun kind => ⟨fun value => ?_, fun strtod => ?_⟩⟩
  · let mode := (convertJsDarkMode2Enum (napi.getValueInt32 value)).toInt
    have hanswer : (s.answer env app (.setDarkMode mode)).2 =
        some ⟨((Request.setDarkMode mode).call env s).2.toInt, none⟩ := rfl
    have hreply := received_setter (.setDarkMode mode) delivered hanswer
    exact ⟨setDarkMode_agree hworking value hreply,
      setDarkMode_agree_callback hworking value hreference hreply⟩
  · cases delivered with
    | true => exact getDarkMode_agree hworking rfl
    | false => exact getDarkMode_noReply hworking rfl
  · have hanswer : (s.answer env app (kind.binding.request value.toText)).2 =
        some ⟨((kind.request value.toText).call env s).2.toInt, none⟩ :=
      congrArg Prod.snd answer_request
    have hreply := received_setter (kind.request value.toText) delivered hanswer
    have hother : _ ∧ (AniUiAppearance.setFont ani client kind.binding value).requests = _ :=
      setFont_notSystemApp hworking value
    exact ⟨setFont_agree hworking value hreply, by rw [hother.1], hother.2⟩
  · cases delivered with
    | true =>
      obtain ⟨text, hreply⟩ : ∃ text, client kind.binding.getter = _ := received_getter kind
      exact getFont_agree hworking hreply strtod
    | false => exact getFont_noReply hworking rfl strtod

/-- The test of the range lets a NaN pass in both, and both tell a context without an entry to be
light. -/
theorem bindings_agree_nan :
    let client := received Scenario.noon true {} true
    (jsSetFontScale workingNapi client [.number .nan] =
        AniUiAppearance.setFontScale workingAni client .nan ∧
      (AniUiAppearance.setFontScale workingAni client .nan).requests = [.setFontScale "nan"]) ∧
    jsGetDarkMode client [] = .returned 1 ∧
      AniUiAppearance.getDarkMode workingAni client = ([], some 1) := by
  have hworking : Working workingNapi workingAni := ⟨rfl, rfl, rfl, rfl, rfl, rfl, rfl, rfl⟩
  obtain ⟨-, hcolor, hscale⟩ := bindings_agree hworking rfl Scenario.noon true {} true
  obtain ⟨hagree, -, hsent⟩ := (hscale .size).1 .nan
  exact ⟨⟨hagree, hsent⟩, hcolor⟩

end BindingsAgree
end UiAppearance
