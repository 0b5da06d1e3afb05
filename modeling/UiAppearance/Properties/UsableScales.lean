import UiAppearance.Ability.AppearanceRuns
import UiAppearance.Ability.Migration
import UiAppearance.Platform.FloatText

/-!
# Usable scales

The service hands out the texts it was given: by a request, by the parameters
of a context, or by the old parameters in a migration. Only the font weight of
the product is looked at before it is used.
-/

namespace UiAppearance
namespace UsableScales

open Service Transition Scenario

/-- A parameter that holds one of the two scales, of a context or of the service as a whole. -/
def IsScaleParam (key : String) : Prop :=
  ∃ item : AppearanceItem, item ≠ .darkMode ∧
    (key = item.globalParam ∨ ∃ context, key = item.paramAssignUser context)

/-- Both scales of an entry are texts that `U` holds of. -/
def Scales (U : String → Prop) (param : UiAppearanceParam) : Prop :=
  U param.fontScale ∧ U param.fontWeightScale

/-- The text that a font request of a permitted caller makes persistent. -/
def sentText (env : Env) (r : Request) : Option String :=
  match r with
  | .setDarkMode _ => none
  | .setFontScale text | .setFontWeightScale text =>
    if env.accessGranted && decide (text ≠ "") &&
        acceptsConfiguration env (getCallingAccountContext env).userId (r.effectiveUserIds env) then
      some text
    else none

/-- Every scale in memory or in a parameter is such a text. -/
structure AllScales (U : String → Prop) (s : Service) : Prop where
  memory : ∀ context param, s.usersParam context = some param → Scales U param
  stored : ∀ key value, IsScaleParam key → s.parameters key = some value → value ≠ "" → U value

section Keys

variable {item : AppearanceItem} {context : AccountContext}

theorem isScaleParam_assignUser (h : item ≠ .darkMode) :
    IsScaleParam (item.paramAssignUser context) := ⟨item, h, .inr ⟨context, rfl⟩⟩

theorem isScaleParam_global (h : item ≠ .darkMode) : IsScaleParam item.globalParam :=
  ⟨item, h, .inl rfl⟩

theorem not_isScaleParam_darkMode : ¬IsScaleParam (darkModeParamAssignUser context) := by
  rintro ⟨item, hitem, hglobal | ⟨context', hcontext⟩⟩
  · exact AppearanceItem.darkMode.paramAssignUser_ne_globalParam item context hglobal
  · exact hitem ((AppearanceItem.paramAssignUser_inj .darkMode item context context').mp
      hcontext).1.symm

theorem not_isScaleParam_persistDarkmodeKey : ¬IsScaleParam persistDarkmodeKey := by
  rintro ⟨item, hitem, hglobal | ⟨context, hcontext⟩⟩
  · revert hglobal hitem
    cases item <;> decide
  · exact item.paramAssignUser_ne_globalParam .darkMode context hcontext.symm

theorem not_isScaleParam_first : ¬IsScaleParam firstInitialization := by
  rintro ⟨item, hitem, hglobal | ⟨context, hcontext⟩⟩
  · exact item.globalParam_ne_first hglobal.symm
  · exact item.paramAssignUser_ne_first context hcontext.symm

theorem isTemporaryParam_of_isScaleParam {key : String} (h : IsScaleParam key) :
    isTemporaryParam key = false := by
  obtain ⟨item, -, rfl | ⟨context, rfl⟩⟩ := h
  · exact item.isTemporaryParam_globalParam
  · exact item.isTemporaryParam_paramAssignUser context

end Keys

theorem admitsFont_eq (env : Env) (s : Service) (r : Request) (property : FontProperty)
    (value : String) :
    r.admitsFont env s property value = (env.accessGranted && decide (value ≠ "") &&
      acceptsConfiguration env (getCallingAccountContext env).userId (r.effectiveUserIds env)) := by
  unfold Request.admitsFont
  rw [updateConfiguration_accepted]

section Operations

variable {U : String → Prop} {env : Env} {s s' : Service} {context : AccountContext}
  {param : UiAppearanceParam}

theorem AllScales.congr (h : AllScales U s) (hkept : KeepsEntries s s') : AllScales U s' := by
  constructor
  · rw [hkept.usersParam]
    exact h.memory
  · intro key value hkey
    rw [hkept.parameters key (isTemporaryParam_of_isScaleParam hkey)]
    exact h.stored key value hkey

theorem AllScales.of_appearance (h : AllScales U s) (heq : s'.appearance = s.appearance) :
    AllScales U s' := h.congr (keepsEntries_of_appearance heq)

theorem AllScales.setParameterWrap (h : AllScales U s) {paramName value : String}
    (hvalue : IsScaleParam paramName → value ≠ "" → U value) :
    AllScales U (s.setParameterWrap env paramName value) := by
  constructor
  · rw [usersParam_setParameterWrap]
    exact h.memory
  · intro key value' hkey hstored hne
    by_cases hsame : key = paramName
    · subst hsame
      rw [parameters_setParameterWrap_self] at hstored
      split_ifs at hstored
      · obtain rfl := Option.some.inj hstored
        exact hvalue hkey hne
      · exact h.stored key value' hkey hstored hne
    · rw [parameters_setParameterWrap_of_ne env s hsame] at hstored
      exact h.stored key value' hkey hstored hne

/-- A parameter of another kind may hold any text. -/
theorem AllScales.setColorParam (h : AllScales U s) {paramName : String}
    (hname : ¬IsScaleParam paramName) (value : String) :
    AllScales U (s.setParameterWrap env paramName value) :=
  h.setParameterWrap fun hkey => absurd hkey hname

theorem AllScales.put (h : AllScales U s) (hparam : Scales U param) :
    AllScales U { s with usersParam := s.usersParam.put context param } := by
  refine ⟨fun context' param' hentry => ?_, h.stored⟩
  by_cases hsame : context' = context
  · subst hsame
    change s.usersParam.put context' param context' = _ at hentry
    rw [Table.put_self] at hentry
    exact Option.some.inj hentry ▸ hparam
  · change s.usersParam.put context param context' = _ at hentry
    rw [Table.put_of_ne hsame] at hentry
    exact h.memory context' param' hentry

theorem AllScales.updateConfiguration (h : AllScales U s) (config : Configuration) (userId : ℤ)
    (effectiveUserIds : List ℤ) :
    AllScales U (s.updateConfiguration env config userId effectiveUserIds).1 := by
  refine h.congr (keepsEntries_of_eq (usersParam_updateConfiguration ..) ?_)
  unfold Service.updateConfiguration
  dsimp only
  split_ifs <;> rfl

theorem AllScales.sentFont (h : AllScales U s) (r : Request) (property : FontProperty)
    {value : String} (hvalue : U value) : AllScales U (r.sentFont env s property value) :=
  (h.updateConfiguration ..).setParameterWrap fun _ _ => hvalue

/-- What is read of a parameter is its text, or the default. -/
theorem AllScales.getParameterWrap (h : AllScales U s) {paramName default value : String}
    (hname : IsScaleParam paramName) (hdefault : default ≠ "" → U default)
    (hvalue : s.getParameterWrap paramName default = some value) : U value := by
  have hne := getParameterWrap_ne hvalue
  unfold Service.getParameterWrap at hvalue
  dsimp only at hvalue
  split_ifs at hvalue
  obtain rfl := Option.some.inj hvalue
  cases hstored : s.parameters paramName with
  | none =>
    rw [hstored] at hne
    exact hdefault hne
  | some stored =>
    rw [hstored] at hne
    exact h.stored paramName stored hname hstored hne

/-- The initialisation of one parameter of a scale. -/
theorem AllScales.loadContextParam (h : AllScales U s) (context : AccountContext)
    {contextKey baseKey default : String} (hcontext : IsScaleParam contextKey)
    (hbase : IsScaleParam baseKey) (hdefault : U default) :
    AllScales U (s.loadContextParam env context contextKey baseKey default).1 ∧
      U (s.loadContextParam env context contextKey baseKey default).2 := by
  unfold Service.loadContextParam
  split
  · next value hvalue =>
    exact ⟨h, h.getParameterWrap hcontext (fun hne => absurd rfl hne) hvalue⟩
  · split_ifs
    · exact ⟨h, hdefault⟩
    · split
      · exact ⟨h, hdefault⟩
      · next value hvalue =>
        have hused : U value := h.getParameterWrap hbase (fun _ => hdefault) hvalue
        exact ⟨h.setParameterWrap fun _ _ => hused, hused⟩

/-- What is known of the default texts. -/
structure Defaults (U : String → Prop) (env : Env) : Prop where
  baseScale : U baseScale
  validFontWeightScale : ∀ value, env.validFontWeightScale value = true → U value

variable (henv : Defaults U env)

include henv

theorem getDefaultFontWeightScaleValue_of {value : String} (h : U value) (s : Service) :
    U (s.getDefaultFontWeightScaleValue env value) := by
  unfold getDefaultFontWeightScaleValue
  split
  · exact h
  · next standard hstandard =>
    split_ifs with hvalid
    · exact henv.validFontWeightScale standard hvalid
    · exact h

theorem scales_newParam (s : Service) : Scales U (s.newParam env) :=
  ⟨henv.baseScale, getDefaultFontWeightScaleValue_of henv henv.baseScale s⟩

theorem AllScales.paramOf (h : AllScales U s) (context : AccountContext) :
    Scales U (s.paramOf env context) := by
  unfold Service.paramOf
  cases hentry : s.usersParam context with
  | none =>
    rw [Table.valueAt_of_none hentry]
    exact scales_newParam henv s
  | some param =>
    rw [Table.valueAt_of_some hentry]
    exact h.memory context param hentry

theorem AllScales.touch (h : AllScales U s) (context : AccountContext) :
    AllScales U { s with usersParam := s.usersParam.touch context (s.newParam env) } := by
  rw [Table.touch_eq_put]
  exact h.put (h.paramOf henv context)

theorem AllScales.setDarkModeOf (h : AllScales U s) (context : AccountContext) (mode : DarkMode) :
    AllScales U (s.setDarkModeOf env context mode) := by
  have hentry : Scales U { s.paramOf env context with darkMode := mode } :=
    h.paramOf henv context
  exact h.put hentry

section Colors

theorem AllScales.configurePersistenceAll (h : AllScales U s) (mode : DarkMode)
    (paramValue : String) (contexts : List AccountContext) :
    AllScales U (configurePersistenceAll env mode paramValue contexts s).1 := by
  induction contexts generalizing s with
  | nil => exact h
  | cons context rest ih =>
    have hswitched : AllScales U (s.doSwitchTemporaryColorMode env context (mode = .alwaysDark)) :=
      h.of_appearance (appearance_doSwitchTemporaryColorMode ..)
    have hpersisted : AllScales U (s.persistColor env context mode paramValue) :=
      (hswitched.setDarkModeOf henv context mode).setColorParam not_isScaleParam_darkMode _
    unfold Service.configurePersistenceAll
    rw [configurePersistence_eq]
    by_cases hwrite : env.setParameter (darkModeParamAssignUser context) paramValue = true
    · rw [if_pos hwrite]
      exact ih (hpersisted.of_appearance (appearance_notifyDarkModeUpdate ..))
    · rw [if_neg hwrite]
      exact hpersisted

theorem AllScales.setDarkMode (h : AllScales U s) (mode : ℤ) :
    AllScales U (s.setDarkMode env mode).1 := by
  rw [setDarkMode_eq]
  split_ifs
  · exact ((h.updateConfiguration ..).setColorParam
      not_isScaleParam_persistDarkmodeKey _).configurePersistenceAll henv ..
  · exact h

theorem AllScales.updateDarkModeCallback (h : AllScales U s) (isDarkMode : Bool) (userId : ℤ) :
    AllScales U (s.updateDarkModeCallback env isDarkMode userId) := by
  rw [updateDarkModeCallback_eq]
  split_ifs
  · have hsent : AllScales U (s.callbackSent env isDarkMode userId) :=
      (h.updateConfiguration ..).setColorParam not_isScaleParam_persistDarkmodeKey _
    exact List.foldlRecOn _ _ hsent fun s hs context _ =>
      (hs.setDarkModeOf henv context _).setColorParam not_isScaleParam_darkMode _
  · exact h

theorem AllScales.adoptLoadedColor (h : AllScales U s) (context : AccountContext) (code : ErrCode)
    (isDarkMode : Bool) : AllScales U (s.adoptLoadedColor env context code isDarkMode).1 := by
  unfold Service.adoptLoadedColor
  split_ifs
  · exact h.touch henv context
  · exact h.setDarkModeOf henv context _
  · exact h

end Colors

section Fonts

theorem AllScales.configureFontPersistenceAll (h : AllScales U s) {property : FontProperty}
    {value : String} (hvalue : U value)
    (hassign : ∀ param, Scales U param → Scales U (property.assign value param))
    (contexts : List AccountContext) :
    AllScales U (configureFontPersistenceAll env property value contexts s).1 := by
  induction contexts generalizing s with
  | nil => exact h
  | cons context rest ih =>
    have hstored : AllScales U (s.configureFontPersistence env property context value).1 :=
      (h.put (hassign _ (h.paramOf henv context))).setParameterWrap fun _ _ => hvalue
    unfold Service.configureFontPersistenceAll
    dsimp only
    split_ifs
    · exact hstored
    · exact ih hstored

/-- A request brings in no text but the one it sends. -/
theorem AllScales.call (h : AllScales U s) (r : Request) (hr : ∀ text ∈ sentText env r, U text) :
    AllScales U (r.call env s).1 := by
  cases hadmitted : r.admitted env s with
  | false =>
    rw [(Request.call_of_refused hadmitted).1]
    exact h
  | true =>
    cases r with
    | setDarkMode mode => exact h.setDarkMode henv mode
    | setFontScale fontScale =>
      have hvalue : U fontScale := hr fontScale
        (if_pos ((admitsFont_eq ..).symm.trans hadmitted))
      rw [Request.call_setFontScale hadmitted]
      exact (h.sentFont _ _ hvalue).configureFontPersistenceAll henv hvalue
        (fun _ hparam => ⟨hvalue, hparam.2⟩) _
    | setFontWeightScale fontWeightScale =>
      have hvalue : U fontWeightScale := hr fontWeightScale
        (if_pos ((admitsFont_eq ..).symm.trans hadmitted))
      rw [Request.call_setFontWeightScale hadmitted]
      exact (h.sentFont _ _ hvalue).configureFontPersistenceAll henv hvalue
        (fun _ hparam => ⟨hparam.1, hvalue⟩) _

end Fonts

section Stores

/-- The value that an old parameter of a scale is migrated as. -/
theorem AllScales.refine (h : AllScales U s) {item : AppearanceItem} (hitem : item ≠ .darkMode)
    {old : String} (hold : s.getParameterWrap item.globalParam item.oldDefault = some old) :
    U (item.refine env s old) := by
  cases item with
  | darkMode => exact absurd rfl hitem
  | fontScale => exact h.getParameterWrap (isScaleParam_global hitem) (fun _ => henv.baseScale) hold
  | fontWeightScale =>
    exact getDefaultFontWeightScaleValue_of henv
      (h.getParameterWrap (isScaleParam_global hitem) (fun _ => henv.baseScale) hold) s

theorem AllScales.migrateItem (h : AllScales U s) (item : AppearanceItem)
    (contexts : List AccountContext) : AllScales U (s.migrateItem env item contexts) := by
  unfold Service.migrateItem migrateFamily
  split
  · exact h
  · next old hold =>
    refine List.foldlRecOn _ _ h fun s' hs' context _ => ?_
    dsimp only [migrateParam]
    split_ifs
    · exact hs'
    · refine hs'.setParameterWrap fun hkey _ => h.refine henv (fun hitem => ?_) hold
      subst hitem
      exact not_isScaleParam_darkMode hkey

theorem AllScales.doCompatibleProcess (h : AllScales U s) :
    AllScales U (s.doCompatibleProcess env) := by
  have hmigrated (contexts : List AccountContext) := ((h.migrateItem henv .darkMode
    contexts).migrateItem henv .fontScale contexts).migrateItem henv .fontWeightScale contexts
  rw [doCompatibleProcess_eq]
  exact ((hmigrated _).setColorParam not_isScaleParam_first "0").congr (keepsEntries_of_eq rfl rfl)

theorem AllScales.initContext (h : AllScales U s) (context : AccountContext) :
    AllScales U (s.initContext env context) := by
  have hcolor (default : String) : AllScales U (s.loadContextParam env context
      (darkModeParamAssignUser context)
      (darkModeParamAssignUser (.createBaseContext context.userId)) default).1 := by
    rcases s.loadContextParam_cases env context (darkModeParamAssignUser context)
      (darkModeParamAssignUser (.createBaseContext context.userId)) default with
      hload | ⟨-, -, hload⟩
    · rw [hload]
      exact h
    · rw [hload]
      exact h.setColorParam not_isScaleParam_darkMode _
  have hscale {s : Service} (h : AllScales U s) (item : AppearanceItem) (hitem : item ≠ .darkMode)
      {default : String} (hdefault : U default) :
      AllScales U (s.loadItem env context item default).1 ∧
        U (s.loadItem env context item default).2 :=
    h.loadContextParam context (isScaleParam_assignUser hitem) (isScaleParam_assignUser hitem)
      hdefault
  have hsize := hscale (hcolor light) .fontScale (by decide) henv.baseScale
  have hweight {s : Service} (h : AllScales U s) := hscale h .fontWeightScale (by decide)
    (getDefaultFontWeightScaleValue_of henv henv.baseScale s)
  exact (hweight hsize.1).1.put ⟨hsize.2, (hweight hsize.1).2⟩

theorem AllScales.doInitProcess (h : AllScales U s) : AllScales U (s.doInitProcess env) := by
  have hall : AllScales U ((AccountContext.getContextsByUserIds env
      (getUserIds env .initialization)).foldl (fun s context => s.initContext env context) s) :=
    List.foldlRecOn _ _ h fun s hs context _ => hs.initContext henv context
  exact hall.congr (keepsEntries_of_eq rfl rfl)

theorem AllScales.updateCurrentUserConfiguration (h : AllScales U s) (context : AccountContext)
    (isForceUpdate : Bool) :
    AllScales U (s.updateCurrentUserConfiguration env context isForceUpdate) := by
  have hparam := h.paramOf henv context
  have htouched := h.touch henv context
  have hpersisted (s' : Service) (color : String)
      (husers : s'.usersParam = s.usersParam.touch context (s.newParam env))
      (hparameters : s'.parameters = s.parameters) :
      AllScales U (((s'.setParameterWrap env persistDarkmodeKey color).setParameterWrap env
        fontScaleForUser0 (s.paramOf env context).fontScale).setParameterWrap env
        fontWeightScaleForUser0 (s.paramOf env context).fontWeightScale) :=
    (((htouched.congr (keepsEntries_of_eq husers hparameters)).setColorParam
      not_isScaleParam_persistDarkmodeKey color).setParameterWrap
        fun _ _ => hparam.1).setParameterWrap fun _ _ => hparam.2
  unfold Service.updateCurrentUserConfiguration
  dsimp only
  split_ifs
  · exact htouched
  all_goals exact hpersisted _ _ rfl rfl

theorem AllScales.applyAppearanceContextToUser (h : AllScales U s)
    (sourceContext targetContext : AccountContext) :
    AllScales U (s.applyAppearanceContextToUser env sourceContext targetContext) := by
  unfold Service.applyAppearanceContextToUser
  split
  · exact h
  · next sourceParam hsource =>
    have hparam := h.memory sourceContext sourceParam hsource
    exact ((((h.put hparam).setColorParam not_isScaleParam_darkMode _).setParameterWrap
      fun _ _ => hparam.1).setParameterWrap fun _ _ => hparam.2).updateCurrentUserConfiguration
        henv ..

end Stores

end Operations

/-- Whatever a run consists of brings in no other text. -/
theorem appearanceInvariant (U : String → Prop) :
    AppearanceInvariant (Defaults U) (fun env r => ∀ text ∈ sentText env r, U text)
      (AllScales U) where
  congr h hkept := h.congr hkept
  recolors _ _ _ henv h := h.updateDarkModeCallback henv ..
  requests _ r henv hr h := h.call henv r hr
  migrates _ henv h := h.doCompatibleProcess henv
  initialises _ henv h := h.doInitProcess henv
  adopts _ _ _ _ henv h := h.adoptLoadedColor henv ..
  configures _ _ _ henv h := h.updateCurrentUserConfiguration henv ..
  applies _ _ _ henv h := h.applyAppearanceContextToUser henv ..
  reboots _ h := ⟨nofun, h.stored⟩

/-- What the getters return, whoever calls. -/
def HandsOut (U : String → Prop) (s : Service) : Prop :=
  ∀ env, U (s.getFontScale env) ∧ U (s.getFontWeightScale env)

theorem AllScales.handsOut {U : String → Prop} {s : Service} (h : AllScales U s)
    (hbase : U baseScale) : HandsOut U s := by
  intro env
  unfold getFontScale getFontWeightScale
  cases hentry : s.usersParam (getCallingAccountContext env) with
  | none => exact ⟨hbase, hbase⟩
  | some param => exact h.memory _ param hentry

/-- The product check is that of the source, and a permitted caller sends usable texts only. -/
def StepUsable (strtod : Strtod) (_ : Service) (e : Env × Event) : Prop :=
  e.1.validFontWeightScale = isValidFontWeightScaleString strtod ∧
    ∀ r, e.2.request = some r → ∀ text ∈ sentText e.1 r, UsableScale strtod text

/-- Where the stored texts are usable, and those that permitted callers send, every text that is
handed out is, in every state that is reached. -/
theorem run_handsOut_usable {strtod : Strtod} (hbase : UsableScale strtod baseScale)
    (parameters : Table String String) (tables : ℤ → Table String String)
    (hstored : ∀ key value, IsScaleParam key → parameters key = some value → value ≠ "" →
      UsableScale strtod value)
    {es : Run} (hes : Along Service.step (StepUsable strtod) (start parameters tables) es) :
    HandsOut (UsableScale strtod) (exec Service.step (start parameters tables) es) := by
  have hstart : AllScales (UsableScale strtod) (start parameters tables) := ⟨nofun, hstored⟩
  refine AllScales.handsOut ((appearanceInvariant (UsableScale strtod)).exec hstart ?_) hbase
  refine along_mono (fun _ e hstep => ⟨⟨hbase, fun value hvalid => ?_⟩, hstep.2⟩) hes
  rw [hstep.1] at hvalid
  exact usableScale_of_isValid hvalid

/-- Digits with a fraction, which is how scales are written. -/
def decimalStrtod : Strtod := fun text =>
  let whole := text.toList.takeWhile Char.isDigit
  let rest := text.toList.drop whole.length
  let point := if rest.head? = some '.' then 1 else 0
  let fraction := (rest.drop 1).takeWhile fun c => decide (point = 1) && c.isDigit
  let digits := (whole ++ fraction).foldl (fun n c => 10 * n + (c.toNat - '0'.toNat)) 0
  { value := some (digits / 10 ^ fraction.length)
    consumed := if whole ++ fraction = [] then 0 else whole.length + point + fraction.length
    rangeError := false }

def checkedNoon : Env :=
  { noon with validFontWeightScale := isValidFontWeightScaleString decimalStrtod }

def fontParameters (key : String) : Option String :=
  if key = fontScaleForUser0 then some "2" else none

def fontRun (fontScale : String) : Run :=
  [(checkedNoon, .onAddSystemAbility), (checkedNoon, .setFontScale fontScale)]

theorem run_handsOut_usable_half :
    HandsOut (UsableScale decimalStrtod)
      (exec Service.step (start fontParameters fun _ => Table.empty) (fontRun "1.5")) := by
  have hone : UsableScale decimalStrtod baseScale := ⟨1, by decide +kernel⟩
  have htwo : UsableScale decimalStrtod "2" := ⟨2, by decide +kernel⟩
  have hhalf : UsableScale decimalStrtod "1.5" := ⟨3 / 2, by decide +kernel⟩
  refine run_handsOut_usable hone fontParameters (fun _ => Table.empty) ?_ ?_
  · intro key value _ hvalue _
    unfold fontParameters at hvalue
    split_ifs at hvalue
    exact Option.some.inj hvalue ▸ htwo
  · refine ⟨⟨rfl, nofun⟩, ⟨rfl, ?_⟩, trivial⟩
    rintro r ⟨⟩ text htext
    have hsent : sentText checkedNoon (.setFontScale "1.5") = some "1.5" := by decide
    rw [Option.mem_def, hsent] at htext
    exact Option.some.inj htext ▸ hhalf

/-- A permitted caller may set any text. -/
theorem fontRun_text :
    (exec Service.step (start fontParameters fun _ => Table.empty)
        (fontRun "abc")).getFontScale checkedNoon = "abc" ∧
      stod decimalStrtod "abc" = none ∧
      ¬HandsOut (UsableScale decimalStrtod)
        (exec Service.step (start fontParameters fun _ => Table.empty) (fontRun "abc")) := by
  have hread : (exec Service.step (start fontParameters fun _ => Table.empty)
      (fontRun "abc")).getFontScale checkedNoon = "abc" := by decide +kernel
  have hthrows : stod decimalStrtod "abc" = none := by decide
  refine ⟨hread, hthrows, fun hall => ?_⟩
  obtain ⟨scale, hscale, -⟩ := (hall checkedNoon).1
  rw [hread, hthrows] at hscale
  cases hscale

end UsableScales
end UiAppearance
