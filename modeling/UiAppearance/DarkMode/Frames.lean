import UiAppearance.DarkMode.Loading

/-!
# What each operation leaves alone

`beyondSchedule` blanks the fields that following a schedule may touch: colours
in memory, override records, the pending operation, timers, parameters and the
trace. A frame condition is an equation between two such projections. What is
left changes only through settings, loads and switches.
-/

namespace UiAppearance
namespace Service

def beyondSchedule (s : Service) : Service :=
  { s with
    multiUserTempColorModeMap := Table.empty
    screenSwitchOperatorMgr := {}
    alarmTimerManager := {}
    usersParam := Table.empty
    parameters := Table.empty
    trace := [] }

section Fields

variable {s s' : Service}

theorem darkModeStates_of_frame (h : s'.beyondSchedule = s.beyondSchedule) :
    s'.darkModeStates = s.darkModeStates := by
  change s'.beyondSchedule.darkModeStates = _
  rw [h]
  rfl

theorem stateOf_of_frame (h : s'.beyondSchedule = s.beyondSchedule) (context : AccountContext) :
    s'.stateOf context = s.stateOf context := by
  unfold stateOf
  rw [darkModeStates_of_frame h]

theorem settingDataManager_of_frame (h : s'.beyondSchedule = s.beyondSchedule) :
    s'.settingDataManager = s.settingDataManager := by
  change s'.beyondSchedule.settingDataManager = _
  rw [h]
  rfl

theorem hasUpdateCallback_of_frame (h : s'.beyondSchedule = s.beyondSchedule) :
    s'.hasUpdateCallback = s.hasUpdateCallback := by
  change s'.beyondSchedule.hasUpdateCallback = _
  rw [h]
  rfl

variable (s) (context : AccountContext)

@[simp] theorem stateOf_setState_self (state : DarkModeState) :
    (s.setState context state).stateOf context = state := Table.valueAt_put_self

theorem stateOf_setState_of_ne {context' : AccountContext} (h : context' ≠ context)
    (state : DarkModeState) : (s.setState context state).stateOf context' = s.stateOf context' :=
  Table.valueAt_put_of_ne h

@[simp] theorem stateOf_touchState (context' : AccountContext) :
    (s.touchState context).stateOf context' = s.stateOf context' := Table.valueAt_touch

@[simp] theorem settingDataManager_setState (state : DarkModeState) :
    (s.setState context state).settingDataManager = s.settingDataManager := rfl

@[simp] theorem settingDataManager_touchState :
    (s.touchState context).settingDataManager = s.settingDataManager := rfl

end Fields

section Schedule

variable (env : Env) (s : Service) (context : AccountContext)

@[simp] theorem beyondSchedule_setParameterWrap (paramName value : String) :
    (s.setParameterWrap env paramName value).beyondSchedule = s.beyondSchedule := by
  unfold setParameterWrap
  split_ifs <;> rfl

@[simp] theorem beyondSchedule_emit (effect : Effect) :
    (s.emit effect).beyondSchedule = s.beyondSchedule := rfl

@[simp] theorem beyondSchedule_setDarkModeOf (mode : DarkMode) :
    (s.setDarkModeOf env context mode).beyondSchedule = s.beyondSchedule := rfl

@[simp] theorem beyondSchedule_updateConfiguration (config : Configuration) (userId : ℤ)
    (effectiveUserIds : List ℤ) :
    (s.updateConfiguration env config userId effectiveUserIds).1.beyondSchedule =
      s.beyondSchedule := by
  unfold updateConfiguration
  dsimp only
  split_ifs <;> rfl

@[simp] theorem beyondSchedule_configurePersistenceOfCallback (isDarkMode : Bool)
    (paramValue : String) :
    (s.configurePersistenceOfCallback env isDarkMode context paramValue).beyondSchedule =
      s.beyondSchedule := by
  simp [configurePersistenceOfCallback]

/-- What every iteration preserves, a loop preserves. -/
theorem frame_foldl {α β : Type*} (frame : Service → β) {f : Service → α → Service}
    (hf : ∀ s a, frame (f s a) = frame s) (l : List α) : frame (l.foldl f s) = frame s := by
  induction l generalizing s with
  | nil => rfl
  | cons a l ih => rw [List.foldl_cons, ih, hf]

@[simp] theorem beyondSchedule_updateDarkModeCallback (isDarkMode : Bool) (userId : ℤ) :
    (s.updateDarkModeCallback env isDarkMode userId).beyondSchedule = s.beyondSchedule := by
  unfold updateDarkModeCallback
  dsimp only
  split_ifs
  · simp
  · rw [frame_foldl _ beyondSchedule]
    · simp
    · intro s' effectiveUserId
      simp
  · simp

@[simp] theorem beyondSchedule_setTempInfo (info : TempColorModeInfo) :
    (s.setTempInfo context info).beyondSchedule = s.beyondSchedule := rfl

@[simp] theorem beyondSchedule_resetScreenOffOperateInfo :
    s.resetScreenOffOperateInfo.beyondSchedule = s.beyondSchedule := rfl

@[simp] theorem beyondSchedule_setScreenOffOperateInfo (switchToDark : Bool) :
    (s.setScreenOffOperateInfo switchToDark context).beyondSchedule = s.beyondSchedule := rfl

@[simp] theorem beyondSchedule_saveTempColorModeInfo :
    (s.saveTempColorModeInfo env context).beyondSchedule = s.beyondSchedule := by
  unfold saveTempColorModeInfo
  dsimp only
  split_ifs <;> simp only [beyondSchedule_setParameterWrap] <;> rfl

@[simp] theorem beyondSchedule_setColorModeNormal :
    (s.setColorModeNormal env context).beyondSchedule = s.beyondSchedule := by
  simp [setColorModeNormal]

@[simp] theorem beyondSchedule_setColorModeTemporary :
    (s.setColorModeTemporary env context).beyondSchedule = s.beyondSchedule := by
  unfold setColorModeTemporary
  dsimp only
  split <;> simp

@[simp] theorem beyondSchedule_onChangeDarkMode (mode : DarkModeMode) :
    (s.onChangeDarkMode env mode context).beyondSchedule = s.beyondSchedule := by
  unfold onChangeDarkMode
  dsimp only
  split_ifs <;> simp

@[simp] theorem beyondSchedule_updateDarkModeSchedule (mode : DarkModeMode)
    (resetTempColorModeFlag bootLoadFlag : Bool) :
    (s.updateDarkModeSchedule env mode context resetTempColorModeFlag bootLoadFlag).beyondSchedule
      = s.beyondSchedule := by
  unfold updateDarkModeSchedule
  dsimp only
  split_ifs <;> simp

@[simp] theorem beyondSchedule_createOrUpdateTimers (startTime endTime : ℤ) :
    (s.createOrUpdateTimers env startTime endTime context).1.beyondSchedule = s.beyondSchedule :=
  rfl

@[simp] theorem beyondSchedule_clearTimerByContext :
    (s.clearTimerByContext env context).beyondSchedule = s.beyondSchedule := rfl

@[simp] theorem beyondSchedule_clearRecalculationTimer :
    (s.clearRecalculationTimer env context).beyondSchedule = s.beyondSchedule := rfl

@[simp] theorem beyondSchedule_onStateChangeToAllDayMode (darkMode : DarkModeMode)
    (needUpdateCallback resetTempColorModeFlag bootLoadFlag : Bool) :
    (s.onStateChangeToAllDayMode env context darkMode needUpdateCallback resetTempColorModeFlag
      bootLoadFlag).service.beyondSchedule = s.beyondSchedule := by
  unfold onStateChangeToAllDayMode
  dsimp only
  split_ifs <;> simp

@[simp] theorem beyondSchedule_onStateChangeToCustomAutoMode (state : DarkModeState)
    (needUpdateCallback isDarkMode resetTempColorModeFlag bootLoadFlag : Bool) :
    (s.onStateChangeToCustomAutoMode env context state needUpdateCallback isDarkMode
      resetTempColorModeFlag bootLoadFlag).service.beyondSchedule = s.beyondSchedule := by
  unfold onStateChangeToCustomAutoMode
  dsimp only
  split_ifs <;> simp

/-- Reacting to a state leaves at most a default entry for it behind. -/
@[simp] theorem beyondSchedule_onStateChangeLocked
    (needUpdateCallback isDarkMode resetTempColorModeFlag bootLoadFlag : Bool) :
    (s.onStateChangeLocked env context needUpdateCallback isDarkMode resetTempColorModeFlag
      bootLoadFlag).service.beyondSchedule = (s.touchState context).beyondSchedule := by
  unfold onStateChangeLocked
  dsimp only
  split <;> simp

variable (needUpdateCallback isDarkMode resetTempColorModeFlag bootLoadFlag : Bool)

@[simp] theorem stateOf_onStateChangeLocked (context' : AccountContext) :
    (s.onStateChangeLocked env context needUpdateCallback isDarkMode resetTempColorModeFlag
      bootLoadFlag).service.stateOf context' = s.stateOf context' := by
  rw [stateOf_of_frame (beyondSchedule_onStateChangeLocked ..), stateOf_touchState]

@[simp] theorem settingDataManager_onStateChangeLocked :
    (s.onStateChangeLocked env context needUpdateCallback isDarkMode resetTempColorModeFlag
      bootLoadFlag).service.settingDataManager = s.settingDataManager := by
  rw [settingDataManager_of_frame (beyondSchedule_onStateChangeLocked ..),
    settingDataManager_touchState]

end Schedule

section Settings

variable (env : Env) (s : Service) (context : AccountContext)

/-- Reading a setting may write it for a sub-profile, and touches nothing but the settings. -/
theorem loadSetting_eq (item : SettingItem) (default : ℤ) :
    ∃ r, (s.loadSetting env item context default).1 = s.withSettings r := by
  have hsame : ∃ r, s = s.withSettings r := ⟨(s.settingDataManager, .ok), rfl⟩
  unfold loadSetting
  dsimp only
  split
  · exact hsame
  · split_ifs
    · exact hsame
    · split
      · exact hsame
      · exact ⟨_, rfl⟩

/-- Another observed context is a matter of the settings, their observers and the timers. -/
theorem onSwitchContext_eq : ∃ settingDataManager observed userId alarmTimerManager,
    (s.onSwitchContext env context).1 =
      { s with
        settingDataManager := settingDataManager
        settingDataObserversContext := observed
        settingDataObserversUserId := userId
        alarmTimerManager := alarmTimerManager } := by
  unfold onSwitchContext releaseObservedContext
  dsimp only
  split_ifs <;> exact ⟨_, _, _, _, rfl⟩

/-- Recalculated times are written to the settings and wait for their notifications. -/
theorem calculateAndApplySunriseSunsetTimes_eq :
    ∃ r, s.calculateAndApplySunriseSunsetTimes env context = s.withSettings r := by
  have hsame : ∃ r, s = s.withSettings r := ⟨(s.settingDataManager, .ok), rfl⟩
  unfold calculateAndApplySunriseSunsetTimes
  split
  · exact hsame
  · unfold applySunriseSunsetTimes
    split
    · exact hsame
    · split_ifs
      · exact hsame
      · exact hsame
      · exact ⟨_, rfl⟩

end Settings
end Service
end UiAppearance
