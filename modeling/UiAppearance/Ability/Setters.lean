import UiAppearance.Ability.ParameterNames
import UiAppearance.Ability.Simulation

/-!
# The three setters

A request that is admitted is made persistent for each of its targets in turn:
the entry in memory is written, then the parameter, and the first parameter
that cannot be written ends the call.
-/

namespace UiAppearance

inductive Request where
  | setDarkMode (mode : ℤ)
  | setFontScale (fontScale : String)
  | setFontWeightScale (fontWeightScale : String)

/-- The contexts a loop of writes comes to: up to and including the first that fails. -/
def reachedContexts (writes : AccountContext → Bool) : List AccountContext → List AccountContext
  | [] => []
  | context :: rest => context :: if writes context then reachedContexts writes rest else []

theorem reachedContexts_of_all {writes : AccountContext → Bool} {contexts : List AccountContext}
    (h : ∀ context ∈ contexts, writes context = true) :
    reachedContexts writes contexts = contexts := by
  induction contexts with
  | nil => rfl
  | cons context rest ih =>
    unfold reachedContexts
    rw [if_pos (h context List.mem_cons_self),
      ih fun c hc => h c (List.mem_cons_of_mem context hc)]

namespace Request

open Service

def call (env : Env) (s : Service) : Request → Service × FuncResult
  | setDarkMode mode => s.setDarkMode env mode
  | setFontScale fontScale => s.setFontScale env fontScale
  | setFontWeightScale fontWeightScale => s.setFontWeightScale env fontWeightScale

/-- What a request makes of an entry. -/
def assign : Request → UiAppearanceParam → UiAppearanceParam
  | setDarkMode mode, param => { param with darkMode := .ofInt mode }
  | setFontScale fontScale, param => fontScaleProperty.assign fontScale param
  | setFontWeightScale fontWeightScale, param =>
    fontWeightScaleProperty.assign fontWeightScale param

/-- Whether the parameter of a context can be written. -/
def writes (env : Env) : Request → AccountContext → Bool
  | setDarkMode mode, context => env.setParameter (darkModeParamAssignUser context)
      (colorName (DarkMode.ofInt mode = .alwaysDark))
  | setFontScale fontScale, context =>
    env.setParameter (fontScaleParamAssignUser context) fontScale
  | setFontWeightScale fontWeightScale, context =>
    env.setParameter (fontWeightScaleParamAssignUser context) fontWeightScale

def effectiveUserIds (env : Env) : Request → List ℤ
  | setDarkMode _ => getMultipleUsers env
  | _ => if env.enableSubspace then getMultipleUsers env else []

/-- Every effective user where there are several, else the caller. -/
def targets (env : Env) (r : Request) : List AccountContext :=
  if 1 < (r.effectiveUserIds env).length then
    (r.effectiveUserIds env).map (AccountContext.getForegroundContext env)
  else [getCallingAccountContext env]

def admitsFont (env : Env) (s : Service) (r : Request) (property : FontProperty)
    (value : String) : Bool :=
  env.accessGranted && decide (value ≠ "") &&
    (s.updateConfiguration env (property.config value) (getCallingAccountContext env).userId
      (r.effectiveUserIds env)).2

/-- Whether the call gets as far as its targets. -/
def admitted (env : Env) (s : Service) (r : Request) : Bool :=
  match r with
  | setDarkMode mode => s.admitsSetDarkMode env mode
  | setFontScale fontScale => r.admitsFont env s fontScaleProperty fontScale
  | setFontWeightScale fontWeightScale =>
    r.admitsFont env s fontWeightScaleProperty fontWeightScale

def reached (env : Env) (s : Service) (r : Request) : List AccountContext :=
  if r.admitted env s then reachedContexts (r.writes env) (r.targets env) else []

@[simp] theorem assign_assign (r : Request) (param : UiAppearanceParam) :
    r.assign (r.assign param) = r.assign param := by
  cases r <;> rfl

end Request

namespace Service

variable (env : Env) (s : Service)

@[simp] theorem usersParam_setParameterWrap (paramName value : String) :
    (s.setParameterWrap env paramName value).usersParam = s.usersParam := by
  unfold setParameterWrap
  split_ifs <;> rfl

@[simp] theorem usersParam_updateConfiguration (config : Configuration) (userId : ℤ)
    (effectiveUserIds : List ℤ) :
    (s.updateConfiguration env config userId effectiveUserIds).1.usersParam = s.usersParam := by
  unfold updateConfiguration
  dsimp only
  split_ifs <;> rfl

theorem usersParam_persistColor (context : AccountContext) (mode : DarkMode)
    (paramValue : String) :
    (s.persistColor env context mode paramValue).usersParam =
      s.usersParam.put context { s.paramOf env context with darkMode := mode } := by
  have happearance := appearance_doSwitchTemporaryColorMode env s context (mode = .alwaysDark)
  unfold persistColor
  rw [usersParam_setParameterWrap]
  unfold setDarkModeOf
  rw [usersParam_of_appearance happearance, paramOf_of_appearance happearance]

theorem newParam_setParameterWrap {paramName : String} (h : paramName ≠ standardFontWeight)
    (value : String) : (s.setParameterWrap env paramName value).newParam env = s.newParam env :=
  newParam_congr (parameters_setParameterWrap_of_ne env s h.symm value) env

theorem newParam_persistColor (context : AccountContext) (mode : DarkMode)
    (paramValue : String) :
    (s.persistColor env context mode paramValue).newParam env = s.newParam env := by
  have happearance := appearance_doSwitchTemporaryColorMode env s context (mode = .alwaysDark)
  have hname := AppearanceItem.darkMode.paramAssignUser_ne_standard context
  exact (newParam_setParameterWrap env _ hname paramValue).trans
    (newParam_of_appearance happearance env)

theorem configurePersistence_eq (context : AccountContext) (mode : DarkMode)
    (paramValue : String) :
    s.configurePersistence env context mode paramValue =
      if env.setParameter (darkModeParamAssignUser context) paramValue then
        ((s.persistColor env context mode paramValue).notifyDarkModeUpdate env context
          (mode = .alwaysDark), .succeeded)
      else (s.persistColor env context mode paramValue, .sysErr) := by
  unfold configurePersistence
  cases env.setParameter (darkModeParamAssignUser context) paramValue <;> rfl

theorem assigned_configurePersistenceAll (mode : DarkMode) (paramValue : String)
    (contexts : List AccountContext) :
    Table.Assigned (fun param => { param with darkMode := mode }) (s.newParam env)
      (reachedContexts (fun context => env.setParameter (darkModeParamAssignUser context)
        paramValue) contexts) s.usersParam
      (configurePersistenceAll env mode paramValue contexts s).1.usersParam := by
  induction contexts generalizing s with
  | nil => exact .nil
  | cons context rest ih =>
    have hput := usersParam_persistColor env s context mode paramValue
    have hnew := newParam_persistColor env s context mode paramValue
    refine .cons (fun _ => rfl) hput ?_
    unfold configurePersistenceAll
    rw [configurePersistence_eq]
    by_cases hwrite : env.setParameter (darkModeParamAssignUser context) paramValue = true
    · have happearance := appearance_notifyDarkModeUpdate env
        (s.persistColor env context mode paramValue) context (mode = .alwaysDark)
      rw [if_pos hwrite, if_pos hwrite, ← usersParam_of_appearance happearance, ← hnew,
        ← newParam_of_appearance happearance]
      exact ih _
    · rw [if_neg hwrite, if_neg hwrite]
      exact .nil

theorem configurePersistenceAll_succeeded_iff (mode : DarkMode) (paramValue : String)
    (contexts : List AccountContext) :
    (configurePersistenceAll env mode paramValue contexts s).2 = .succeeded ↔
      ∀ context ∈ contexts, env.setParameter (darkModeParamAssignUser context) paramValue =
        true := by
  induction contexts generalizing s with
  | nil => exact iff_of_true rfl (List.forall_mem_nil _)
  | cons context rest ih =>
    unfold configurePersistenceAll
    rw [configurePersistence_eq, List.forall_mem_cons]
    by_cases hwrite : env.setParameter (darkModeParamAssignUser context) paramValue = true
    · rw [if_pos hwrite]
      exact (ih _).trans (and_iff_right hwrite).symm
    · rw [if_neg hwrite]
      have hfailed : FuncResult.sysErr ≠ .succeeded := by decide
      exact iff_of_false hfailed fun hall => hwrite hall.1

section Fonts

variable (property : FontProperty) (value : String)

theorem usersParam_configureFontPersistence (context : AccountContext) :
    (s.configureFontPersistence env property context value).1.usersParam =
      s.usersParam.put context (property.assign value (s.paramOf env context)) := by
  unfold configureFontPersistence
  rw [usersParam_setParameterWrap]

theorem configureFontPersistence_succeeded_iff (context : AccountContext) :
    (s.configureFontPersistence env property context value).2 = .succeeded ↔
      env.setParameter (property.paramAssignUser context) value = true := by
  unfold configureFontPersistence
  cases env.setParameter (property.paramAssignUser context) value <;> simp

theorem newParam_configureFontPersistence (context : AccountContext)
    (hname : property.paramAssignUser context ≠ standardFontWeight) :
    (s.configureFontPersistence env property context value).1.newParam env = s.newParam env := by
  unfold configureFontPersistence
  rw [newParam_setParameterWrap _ _ hname]
  rfl

theorem assigned_configureFontPersistenceAll
    (hassign : ∀ param, property.assign value (property.assign value param) =
      property.assign value param)
    (hname : ∀ context, property.paramAssignUser context ≠ standardFontWeight)
    (contexts : List AccountContext) :
    Table.Assigned (property.assign value) (s.newParam env)
      (reachedContexts (fun context => env.setParameter (property.paramAssignUser context) value)
        contexts) s.usersParam
      (configureFontPersistenceAll env property value contexts s).1.usersParam := by
  induction contexts generalizing s with
  | nil => exact .nil
  | cons context rest ih =>
    have hput := usersParam_configureFontPersistence env s property value context
    have hnew := newParam_configureFontPersistence env s property value context (hname context)
    have hresult := configureFontPersistence_succeeded_iff env s property value context
    refine .cons hassign hput ?_
    unfold configureFontPersistenceAll
    dsimp only
    by_cases hwrite : env.setParameter (property.paramAssignUser context) value = true
    · rw [if_pos hwrite, if_neg (not_not_intro (hresult.mpr hwrite)), ← hnew]
      exact ih _
    · rw [if_neg hwrite, if_pos (mt hresult.mp hwrite)]
      exact .nil

theorem configureFontPersistenceAll_succeeded_iff (contexts : List AccountContext) :
    (configureFontPersistenceAll env property value contexts s).2 = .succeeded ↔
      ∀ context ∈ contexts, env.setParameter (property.paramAssignUser context) value = true := by
  induction contexts generalizing s with
  | nil => exact iff_of_true rfl (List.forall_mem_nil _)
  | cons context rest ih =>
    have hresult := configureFontPersistence_succeeded_iff env s property value context
    unfold configureFontPersistenceAll
    dsimp only
    rw [List.forall_mem_cons]
    by_cases hwrite : env.setParameter (property.paramAssignUser context) value = true
    · rw [if_neg (not_not_intro (hresult.mpr hwrite))]
      exact (ih _).trans (and_iff_right hwrite).symm
    · rw [if_pos (mt hresult.mp hwrite)]
      have hfailed : FuncResult.sysErr ≠ .succeeded := by decide
      exact iff_of_false hfailed fun hall => hwrite hall.1

end Fonts

end Service

namespace Request

open Service

variable {env : Env} {s : Service}

theorem setDarkMode_of_admitted {mode : ℤ} (h : s.admitsSetDarkMode env mode = true) :
    s.setDarkMode env mode =
      configurePersistenceAll env (DarkMode.ofInt mode)
        (colorName (DarkMode.ofInt mode = .alwaysDark))
        (affectedContexts env (getCallingAccountContext env))
        (s.configured env (DarkMode.ofInt mode)) := by
  simp only [admitsSetDarkMode, Bool.and_eq_true, decide_eq_true_eq] at h
  obtain ⟨⟨⟨hgranted, hcurrent⟩, hknown⟩, hsent⟩ := h
  unfold Service.setDarkMode onSetDarkMode configured
  simp [hgranted, hcurrent, hknown, hsent]

theorem setDarkMode_of_refused {mode : ℤ} (h : s.admitsSetDarkMode env mode = false) :
    (s.setDarkMode env mode).2 ≠ .succeeded := by
  unfold Service.setDarkMode onSetDarkMode
  dsimp only
  split_ifs with hgranted hcurrent hunknown hsent
  · nofun
  · nofun
  · nofun
  · nofun
  · simp only [Bool.not_eq_true', Bool.not_eq_false] at hgranted hsent
    simp [admitsSetDarkMode, hgranted, hcurrent, hunknown, hsent] at h

/-- What an admitted font request makes persistent. -/
def sentFont (env : Env) (s : Service) (r : Request) (property : FontProperty) (value : String) :
    Service :=
  (s.updateConfiguration env (property.config value) (getCallingAccountContext env).userId
    (r.effectiveUserIds env)).1.setParameterWrap env property.globalParam value

theorem setFont_of_admitted {r : Request} {property : FontProperty} {value : String}
    (hr : r.effectiveUserIds env = if env.enableSubspace then getMultipleUsers env else [])
    (h : r.admitsFont env s property value = true) :
    s.setFont env property value = configureFontPersistenceAll env property value (r.targets env)
      (r.sentFont env s property value) := by
  simp only [admitsFont, Bool.and_eq_true, decide_eq_true_eq] at h
  obtain ⟨⟨hgranted, hvalue⟩, hsent⟩ := h
  unfold sentFont targets
  rw [hr] at hsent ⊢
  unfold setFont onSetFont
  simp [hgranted, hvalue, hsent]

theorem setFont_of_refused {r : Request} {property : FontProperty} {value : String}
    (hr : r.effectiveUserIds env = if env.enableSubspace then getMultipleUsers env else [])
    (h : r.admitsFont env s property value = false) :
    (s.setFont env property value).1 = s ∧ (s.setFont env property value).2 ≠ .succeeded := by
  unfold setFont onSetFont
  dsimp only
  rw [← hr]
  split_ifs with hgranted hvalue hsent
  · exact ⟨rfl, nofun⟩
  · exact ⟨rfl, nofun⟩
  · exact ⟨updateConfiguration_of_refused env s (by simpa using hsent), nofun⟩
  · simp only [Bool.not_eq_true', Bool.not_eq_false] at hgranted hsent
    simp [admitsFont, hgranted, hvalue, hsent] at h
  · simp only [Bool.not_eq_true', Bool.not_eq_false] at hgranted hsent
    simp [admitsFont, hgranted, hvalue, hsent] at h

theorem call_of_refused {r : Request} (h : r.admitted env s = false) :
    (r.call env s).1 = s ∧ (r.call env s).2 ≠ .succeeded := by
  cases r with
  | setDarkMode mode =>
    have hsame : (s.setDarkMode env mode).1 = s := by
      rw [setDarkMode_eq, if_neg (by rw [← Bool.not_eq_true] at h; exact h)]
    exact ⟨hsame, setDarkMode_of_refused h⟩
  | setFontScale fontScale => exact setFont_of_refused rfl h
  | setFontWeightScale fontWeightScale => exact setFont_of_refused rfl h

theorem call_setDarkMode {mode : ℤ} (h : (setDarkMode mode).admitted env s = true) :
    (setDarkMode mode).call env s =
      configurePersistenceAll env (DarkMode.ofInt mode)
        (colorName (DarkMode.ofInt mode = .alwaysDark)) ((setDarkMode mode).targets env)
        (s.configured env (DarkMode.ofInt mode)) :=
  setDarkMode_of_admitted h

theorem call_setFontScale {fontScale : String}
    (h : (setFontScale fontScale).admitted env s = true) :
    (setFontScale fontScale).call env s =
      configureFontPersistenceAll env fontScaleProperty fontScale
        ((setFontScale fontScale).targets env)
        ((setFontScale fontScale).sentFont env s fontScaleProperty fontScale) :=
  setFont_of_admitted rfl h

theorem call_setFontWeightScale {fontWeightScale : String}
    (h : (setFontWeightScale fontWeightScale).admitted env s = true) :
    (setFontWeightScale fontWeightScale).call env s =
      configureFontPersistenceAll env fontWeightScaleProperty fontWeightScale
        ((setFontWeightScale fontWeightScale).targets env)
        ((setFontWeightScale fontWeightScale).sentFont env s fontWeightScaleProperty
          fontWeightScale) :=
  setFont_of_admitted rfl h

@[simp] theorem usersParam_sentFont (r : Request) (property : FontProperty) (value : String) :
    (r.sentFont env s property value).usersParam = s.usersParam := by
  simp [sentFont]

@[simp] theorem newParam_updateConfiguration (config : Configuration) (userId : ℤ)
    (effectiveUserIds : List ℤ) :
    (s.updateConfiguration env config userId effectiveUserIds).1.newParam env =
      s.newParam env := by
  unfold updateConfiguration
  dsimp only
  split_ifs <;> rfl

theorem newParam_configured (mode : DarkMode) :
    (s.configured env mode).newParam env = s.newParam env :=
  (newParam_setParameterWrap env _ AppearanceItem.darkMode.globalParam_ne_standard _).trans
    (newParam_updateConfiguration ..)

theorem newParam_sentFont (r : Request) (property : FontProperty) (value : String)
    (hname : property.globalParam ≠ standardFontWeight) :
    (r.sentFont env s property value).newParam env = s.newParam env := by
  unfold sentFont
  rw [newParam_setParameterWrap _ _ hname, newParam_updateConfiguration]

/-- The call writes the entries of the contexts it reaches, and no others. -/
theorem assigned_call (env : Env) (s : Service) (r : Request) :
    Table.Assigned r.assign (s.newParam env) (r.reached env s) s.usersParam
      (r.call env s).1.usersParam := by
  unfold reached
  cases h : r.admitted env s with
  | false =>
    rw [(call_of_refused h).1]
    exact .nil
  | true =>
    rw [if_pos rfl]
    cases r with
    | setDarkMode mode =>
      have hsent : (s.configured env (DarkMode.ofInt mode)).usersParam = s.usersParam := by
        simp [configured]
      rw [call_setDarkMode h, ← hsent, ← newParam_configured (DarkMode.ofInt mode)]
      exact assigned_configurePersistenceAll ..
    | setFontScale fontScale =>
      rw [call_setFontScale h, ← usersParam_sentFont (setFontScale fontScale) fontScaleProperty,
        ← newParam_sentFont (setFontScale fontScale) fontScaleProperty fontScale
          AppearanceItem.fontScale.globalParam_ne_standard]
      exact assigned_configureFontPersistenceAll env _ fontScaleProperty fontScale
        (fun _ => rfl) AppearanceItem.fontScale.paramAssignUser_ne_standard _
    | setFontWeightScale fontWeightScale =>
      rw [call_setFontWeightScale h,
        ← usersParam_sentFont (setFontWeightScale fontWeightScale) fontWeightScaleProperty,
        ← newParam_sentFont (setFontWeightScale fontWeightScale) fontWeightScaleProperty
          fontWeightScale AppearanceItem.fontWeightScale.globalParam_ne_standard]
      exact assigned_configureFontPersistenceAll env _ fontWeightScaleProperty fontWeightScale
        (fun _ => rfl) AppearanceItem.fontWeightScale.paramAssignUser_ne_standard _

theorem succeeded_iff (env : Env) (s : Service) (r : Request) :
    (r.call env s).2 = .succeeded ↔
      r.admitted env s = true ∧ ∀ context ∈ r.targets env, r.writes env context = true := by
  cases h : r.admitted env s with
  | false => exact iff_of_false (call_of_refused h).2 fun hall => nomatch hall.1
  | true =>
    refine Iff.trans ?_ (and_iff_right rfl).symm
    cases r with
    | setDarkMode mode =>
      rw [call_setDarkMode h]
      exact configurePersistenceAll_succeeded_iff ..
    | setFontScale fontScale =>
      rw [call_setFontScale h]
      exact configureFontPersistenceAll_succeeded_iff ..
    | setFontWeightScale fontWeightScale =>
      rw [call_setFontWeightScale h]
      exact configureFontPersistenceAll_succeeded_iff ..

end Request
end UiAppearance
