import UiAppearance.Ability.Events
import UiAppearance.DarkMode.Frames

/-!
# The appearance of every context

What the ability is responsible for: the appearance of each context in memory,
the parameters it is kept in, the flags of the initialisation, and the
configurations sent. Following the settings without calling back, observing a
context, and starting or ending an override leave all of it alone; an override
has parameters of its own.
-/

namespace UiAppearance

def temporaryParamPrefix : String := "persist.uiAppearance.dark_mode_temp_state_"

def isTemporaryParam (paramName : String) : Bool :=
  temporaryParamPrefix.toList.isPrefixOf paramName.toList

/-- The configurations an observer of the application manager sees, newest first. -/
def Effect.configuration : Effect → Option (Configuration × List ℤ)
  | .updateConfiguration config userIds => some (config, userIds)
  | _ => none

structure Appearance where
  usersParam : Table AccountContext UiAppearanceParam
  parameters : Table String String
  isNeedDoCompatibleProcess : Bool
  isInitializationFinished : Bool
  onceFlag : AccountContext → Bool
  configurations : List (Configuration × List ℤ)

namespace Service

def appearance (s : Service) : Appearance where
  usersParam := s.usersParam
  parameters key := if isTemporaryParam key then none else s.parameters key
  isNeedDoCompatibleProcess := s.isNeedDoCompatibleProcess
  isInitializationFinished := s.isInitializationFinished
  onceFlag := s.onceFlag
  configurations := s.trace.filterMap Effect.configuration

section Fields

variable {s s' : Service}

theorem usersParam_of_appearance (h : s'.appearance = s.appearance) :
    s'.usersParam = s.usersParam := congrArg Appearance.usersParam h

theorem parameters_of_appearance (h : s'.appearance = s.appearance) {key : String}
    (hkey : isTemporaryParam key = false) : s'.parameters key = s.parameters key := by
  have hparameters := congrFun (congrArg Appearance.parameters h) key
  simpa [appearance, hkey] using hparameters

theorem getParameterWrap_ne {paramName default value : String}
    (h : s.getParameterWrap paramName default = some value) : value ≠ "" := by
  unfold getParameterWrap at h
  dsimp only at h
  split_ifs at h with hempty
  obtain rfl := Option.some.inj h
  exact hempty

theorem getParameterWrap_congr {paramName : String}
    (h : s'.parameters paramName = s.parameters paramName) (default : String) :
    s'.getParameterWrap paramName default = s.getParameterWrap paramName default := by
  unfold getParameterWrap
  rw [h]

theorem newParam_congr (h : s'.parameters standardFontWeight = s.parameters standardFontWeight)
    (env : Env) : s'.newParam env = s.newParam env := by
  unfold newParam getDefaultFontWeightScaleValue getParameterWrap
  rw [h]

theorem newParam_of_appearance (h : s'.appearance = s.appearance) (env : Env) :
    s'.newParam env = s.newParam env :=
  newParam_congr (parameters_of_appearance h (by decide)) env

theorem paramOf_of_appearance (h : s'.appearance = s.appearance) (env : Env)
    (context : AccountContext) : s'.paramOf env context = s.paramOf env context := by
  unfold paramOf
  rw [usersParam_of_appearance h, newParam_of_appearance h]

end Fields

variable (env : Env) (s : Service) (context : AccountContext)

section Keys

theorem isTemporaryParam_build (name : String) (h : isTemporaryParam name = true) :
    isTemporaryParam (AccountContext.buildUserParamKey name context) = true := by
  unfold isTemporaryParam AccountContext.buildUserParamKey at *
  rw [List.isPrefixOf_iff_prefix] at *
  rw [String.toList_append]
  exact h.trans (List.prefix_append _ _)

/-- A name that parts from the prefix somewhere is no parameter of an override. -/
theorem not_isTemporaryParam_build (name : String) (h : isTemporaryParam name = false)
    (h' : name.toList.isPrefixOf temporaryParamPrefix.toList = false) :
    isTemporaryParam (AccountContext.buildUserParamKey name context) = false := by
  unfold isTemporaryParam AccountContext.buildUserParamKey at *
  rw [← Bool.not_eq_true, List.isPrefixOf_iff_prefix] at *
  rw [String.toList_append]
  intro hprefix
  rcases List.prefix_or_prefix_of_prefix hprefix (List.prefix_append name.toList _) with hp | hp
  · exact h hp
  · exact h' hp

@[simp] theorem not_isTemporaryParam_darkMode :
    isTemporaryParam (darkModeParamAssignUser context) = false :=
  not_isTemporaryParam_build context _ (by decide) (by decide)

@[simp] theorem not_isTemporaryParam_fontScale :
    isTemporaryParam (fontScaleParamAssignUser context) = false :=
  not_isTemporaryParam_build context _ (by decide) (by decide)

@[simp] theorem not_isTemporaryParam_fontWeightScale :
    isTemporaryParam (fontWeightScaleParamAssignUser context) = false :=
  not_isTemporaryParam_build context _ (by decide) (by decide)

end Keys

section Frame

theorem appearance_eq {s s' : Service} (husers : s'.usersParam = s.usersParam)
    (hparameters : ∀ key, isTemporaryParam key = false → s'.parameters key = s.parameters key)
    (hneed : s'.isNeedDoCompatibleProcess = s.isNeedDoCompatibleProcess)
    (hfinished : s'.isInitializationFinished = s.isInitializationFinished)
    (honce : s'.onceFlag = s.onceFlag)
    (htrace : s'.trace.filterMap Effect.configuration = s.trace.filterMap Effect.configuration) :
    s'.appearance = s.appearance := by
  have hfiltered : (fun key => if isTemporaryParam key then none else s'.parameters key) =
      fun key => if isTemporaryParam key then none else s.parameters key := by
    funext key
    cases hkey : isTemporaryParam key with
    | true => rfl
    | false => exact hparameters key hkey
  simp only [appearance, husers, hfiltered, hneed, hfinished, honce, htrace]

theorem configurations_setParameterWrap (paramName value : String) :
    (s.setParameterWrap env paramName value).appearance.configurations =
      s.appearance.configurations := by
  unfold setParameterWrap
  split_ifs <;> rfl

theorem parameters_setParameterWrap_of_ne {paramName key : String} (h : key ≠ paramName)
    (value : String) :
    (s.setParameterWrap env paramName value).parameters key = s.parameters key := by
  unfold setParameterWrap
  split_ifs
  · exact Table.put_of_ne h
  · rfl

theorem parameters_setParameterWrap_self (paramName value : String) :
    (s.setParameterWrap env paramName value).parameters paramName =
      if env.setParameter paramName value then some value else s.parameters paramName := by
  unfold setParameterWrap
  split_ifs
  · exact Table.put_self
  · rfl

theorem appearance_setTemporaryParam {paramName : String} (h : isTemporaryParam paramName = true)
    (value : String) : (s.setParameterWrap env paramName value).appearance = s.appearance := by
  unfold setParameterWrap
  split_ifs
  · refine appearance_eq rfl (fun key hkey => Table.put_of_ne ?_) rfl rfl rfl rfl
    rintro rfl
    rw [h] at hkey
    cases hkey
  · rfl

@[simp] theorem appearance_saveTempColorModeInfo :
    (s.saveTempColorModeInfo env context).appearance = s.appearance := by
  have hflag (s : Service) (value : String) := appearance_setTemporaryParam env s
    (isTemporaryParam_build context TemporaryColorMode.colorModeParamString rfl) value
  have hstart (s : Service) (value : String) := appearance_setTemporaryParam env s
    (isTemporaryParam_build context TemporaryColorMode.startTimeParamString rfl) value
  have hend (s : Service) (value : String) := appearance_setTemporaryParam env s
    (isTemporaryParam_build context TemporaryColorMode.endTimeParamString rfl) value
  unfold saveTempColorModeInfo
  dsimp only
  split_ifs
  · exact ((hend ..).trans (hstart ..)).trans (hflag ..)
  · exact ((hend ..).trans (hstart ..)).trans (hflag ..)
  · exact hflag ..
  · exact hflag ..

@[simp] theorem appearance_setColorModeNormal :
    (s.setColorModeNormal env context).appearance = s.appearance :=
  appearance_saveTempColorModeInfo env (s.setTempInfo context {}) context

@[simp] theorem appearance_setColorModeTemporary :
    (s.setColorModeTemporary env context).appearance = s.appearance := by
  unfold setColorModeTemporary
  dsimp only
  split
  · rfl
  · exact appearance_saveTempColorModeInfo ..

@[simp] theorem appearance_doSwitchTemporaryColorMode (isDarkMode : Bool) :
    (s.doSwitchTemporaryColorMode env context isDarkMode).appearance = s.appearance := by
  unfold doSwitchTemporaryColorMode
  dsimp only
  split_ifs
  · split
    · rfl
    · split_ifs
      · exact appearance_setColorModeNormal ..
      · exact appearance_setColorModeTemporary ..
  · rfl

@[simp] theorem appearance_notifyDarkModeUpdate (isDarkMode : Bool) :
    (s.notifyDarkModeUpdate env context isDarkMode).appearance = s.appearance := by
  unfold notifyDarkModeUpdate
  dsimp only
  split_ifs <;> rfl

/-- A reaction that does not call back concerns timers only. -/
@[simp] theorem appearance_onStateChangeLocked
    (isDarkMode resetTempColorModeFlag bootLoadFlag : Bool) :
    (s.onStateChangeLocked env context false isDarkMode resetTempColorModeFlag
      bootLoadFlag).service.appearance = s.appearance := by
  have hcustom (s : Service) (state : DarkModeState) :
      (s.onStateChangeToCustomAutoMode env context state false isDarkMode resetTempColorModeFlag
        bootLoadFlag).service.appearance = s.appearance := by
    unfold onStateChangeToCustomAutoMode
    dsimp only
    split_ifs
    · contradiction
    · rfl
    · rfl
  unfold onStateChangeLocked
  dsimp only
  split
  · rfl
  · rfl
  · exact hcustom ..
  · exact hcustom ..
  · rfl

@[simp] theorem appearance_calculateAndApplySunriseSunsetTimes :
    (s.calculateAndApplySunriseSunsetTimes env context).appearance = s.appearance := by
  obtain ⟨r, hr⟩ := s.calculateAndApplySunriseSunsetTimes_eq env context
  rw [hr]
  rfl

@[simp] theorem appearance_initSunriseSunsetMode :
    (s.initSunriseSunsetMode env context).appearance = s.appearance := by
  unfold initSunriseSunsetMode
  dsimp only
  split_ifs
  · exact appearance_calculateAndApplySunriseSunsetTimes ..
  · exact appearance_calculateAndApplySunriseSunsetTimes ..

@[simp] theorem appearance_loadSetting (item : SettingItem) (default : ℤ) :
    (s.loadSetting env item context default).1.appearance = s.appearance := by
  obtain ⟨r, hr⟩ := s.loadSetting_eq env context item default
  rw [hr]
  rfl

@[simp] theorem appearance_loadState :
    (s.loadState env context).1.appearance = s.appearance := by
  simp [loadState]

@[simp] theorem appearance_expireTemporary :
    (s.expireTemporary env context).appearance = s.appearance := by
  unfold expireTemporary
  split_ifs
  · exact appearance_setColorModeNormal ..
  · rfl

@[simp] theorem appearance_loadUserSettingData (isDarkMode bootLoadFlag : Bool) :
    (s.loadUserSettingData env context false isDarkMode bootLoadFlag).service.appearance =
      s.appearance := by
  have hreacted : (onStateChangeLocked env ((((s.loadState env context).1.setState context
      (s.loadState env context).2).initData context).expireTemporary env
      context).resetScreenOffOperateInfo context false isDarkMode false
      bootLoadFlag).service.appearance = s.appearance := by
    rw [appearance_onStateChangeLocked]
    change (expireTemporary _ _ _).appearance = _
    rw [appearance_expireTemporary]
    exact appearance_loadState ..
  unfold loadUserSettingData
  dsimp only
  split_ifs
  · rw [appearance_initSunriseSunsetMode]
    exact hreacted
  · exact hreacted

@[simp] theorem appearance_onSwitchContext :
    (s.onSwitchContext env context).1.appearance = s.appearance := by
  obtain ⟨_, _, _, _, hswitched⟩ := s.onSwitchContext_eq env context
  rw [hswitched]
  rfl

end Frame

end Service
end UiAppearance
