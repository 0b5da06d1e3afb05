import UiAppearance.Ability.Migration
import UiAppearance.DarkMode.StoredState

/-!
# What a switch does to the stores of one context

A switch loads without calling back. Such a load replaces the state and the
override of its context, ends the override in the parameters if it has expired,
forgets the pending operation, and leaves everything else that is kept by
context as it was.
-/

namespace UiAppearance
namespace Service

variable (env : Env) (s : Service) (context : AccountContext)

/-- Without the states, the settings, their observers and the timers. -/
def beyondLoading (s : Service) : Service :=
  { s with
    darkModeStates := Table.empty
    settingDataObserversContext := .createBaseContext invalidUserId
    settingDataObserversUserId := invalidUserId
    alarmTimerManager := {}
    settingDataManager := {} }

section Loading

@[simp] theorem beyondLoading_initSunriseSunsetMode :
    (s.initSunriseSunsetMode env context).beyondLoading = s.beyondLoading := by
  obtain ⟨r, hr⟩ := s.calculateAndApplySunriseSunsetTimes_eq env context
  unfold initSunriseSunsetMode
  rw [hr]
  dsimp only
  split_ifs <;> rfl

@[simp] theorem beyondLoading_loadSetting (item : SettingItem) (default : ℤ) :
    (s.loadSetting env item context default).1.beyondLoading = s.beyondLoading := by
  obtain ⟨r, hr⟩ := s.loadSetting_eq env context item default
  rw [hr]
  rfl

@[simp] theorem beyondLoading_loadState :
    (s.loadState env context).1.beyondLoading = s.beyondLoading := by
  simp [loadState]

theorem beyondLoading_onSwitchContext :
    (s.onSwitchContext env context).1.beyondLoading = s.beyondLoading := by
  obtain ⟨_, _, _, _, hswitched⟩ := s.onSwitchContext_eq env context
  rw [hswitched]
  rfl

/-- A reaction that does not call back sets timers and no more. -/
theorem beyondLoading_onStateChangeLocked (isDarkMode resetTempColorModeFlag bootLoadFlag : Bool) :
    (s.onStateChangeLocked env context false isDarkMode resetTempColorModeFlag
      bootLoadFlag).service.beyondLoading = s.beyondLoading := by
  have hschedule (state : DarkModeState) :
      ((s.touchState context).onStateChangeToCustomAutoMode env context state false isDarkMode
        resetTempColorModeFlag bootLoadFlag).service.beyondLoading = s.beyondLoading := by
    unfold onStateChangeToCustomAutoMode
    simp only [Bool.false_eq_true, if_false]
    split_ifs
    · rfl
    · rfl
  unfold onStateChangeLocked
  dsimp only
  split
  · rfl
  · rfl
  · exact hschedule _
  · exact hschedule _
  · rfl

end Loading

section Override

/-- The override of a context as a load leaves it: read, and ended if it is not effective. -/
def loadedOverride : Service :=
  let info := s.persistedInfo context
  if info.isTemporary && !info.effective env.clock then
    (s.setTempInfo context {}).setParameterWrap env
      (TemporaryColorMode.temporaryColorModeAssignUser context) TemporaryColorMode.normalString
  else s.setTempInfo context info

theorem expireTemporary_initData :
    (s.initData context).expireTemporary env context = s.loadedOverride env context := by
  have hinfo : (s.initData context).core.overrideOf context = s.persistedInfo context := by
    rw [core_initData]
    exact Function.update_self ..
  have hnormal : (s.initData context).setColorModeNormal env context =
      (s.setTempInfo context {}).setParameterWrap env
        (TemporaryColorMode.temporaryColorModeAssignUser context)
        TemporaryColorMode.normalString := by
    have hset : (s.initData context).setTempInfo context {} = s.setTempInfo context {} := by
      unfold initData setTempInfo
      rw [Table.put_put_self]
    unfold setColorModeNormal
    rw [hset]
    have htouch : (s.multiUserTempColorModeMap.put context {}).touch context {} =
        s.multiUserTempColorModeMap.put context {} := Table.touch_of_some Table.put_self
    unfold saveTempColorModeInfo tempInfoOf setTempInfo
    dsimp only
    rw [htouch, Table.valueAt_put_self]
    rfl
  unfold expireTemporary loadedOverride
  rw [isColorModeTemporary_eq, checkTemporaryStateEffective_eq, hinfo, hnormal]
  rfl

theorem multiUserTempColorModeMap_setParameterWrap (paramName value : String) :
    (s.setParameterWrap env paramName value).multiUserTempColorModeMap =
      s.multiUserTempColorModeMap := by
  unfold setParameterWrap
  split_ifs <;> rfl

theorem multiUserTempColorModeMap_loadedOverride :
    (s.loadedOverride env context).multiUserTempColorModeMap =
      s.multiUserTempColorModeMap.put context
        (Core.loadedRecord env.clock (s.persistedInfo context)) := by
  unfold loadedOverride Core.loadedRecord
  dsimp only
  split_ifs
  · exact multiUserTempColorModeMap_setParameterWrap ..
  · rfl

/-- The only parameter a load writes is the flag of its context. -/
theorem parameters_loadedOverride_of_ne {key : String}
    (h : key ≠ TemporaryColorMode.temporaryColorModeAssignUser context) :
    (s.loadedOverride env context).parameters key = s.parameters key := by
  unfold loadedOverride
  dsimp only
  split_ifs
  · exact parameters_setParameterWrap_of_ne env _ h _
  · rfl

theorem parameters_loadedOverride_flag :
    (s.loadedOverride env context).parameters
        (TemporaryColorMode.temporaryColorModeAssignUser context) =
      if ((s.persistedInfo context).isTemporary && !(s.persistedInfo context).effective env.clock &&
          env.setParameter (TemporaryColorMode.temporaryColorModeAssignUser context)
            TemporaryColorMode.normalString) = true then some TemporaryColorMode.normalString
      else s.parameters (TemporaryColorMode.temporaryColorModeAssignUser context) := by
  unfold loadedOverride
  dsimp only
  by_cases hexpired : ((s.persistedInfo context).isTemporary &&
      !(s.persistedInfo context).effective env.clock) = true
  · rw [if_pos hexpired, hexpired, Bool.true_and]
    exact parameters_setParameterWrap_self ..
  · rw [Bool.not_eq_true] at hexpired
    rw [hexpired, if_neg Bool.false_ne_true]
    rfl

/-- What a load does to the override does not depend on the settings. -/
theorem loadedOverride_congr {s s' : Service} (h : s'.beyondLoading = s.beyondLoading) :
    (s'.loadedOverride env context).resetScreenOffOperateInfo.beyondLoading =
      (s.loadedOverride env context).resetScreenOffOperateInfo.beyondLoading := by
  have hblank (s : Service) :
      (s.loadedOverride env context).resetScreenOffOperateInfo.beyondLoading =
        (s.beyondLoading.loadedOverride env context).resetScreenOffOperateInfo.beyondLoading := by
    have hinfo : s.beyondLoading.persistedInfo context = s.persistedInfo context := rfl
    unfold loadedOverride setParameterWrap
    dsimp only
    rw [hinfo]
    split_ifs <;> rfl
  rw [hblank s', h, ← hblank s]

/-- Beyond the settings and the timers, a load is about the override and the pending operation. -/
theorem beyondLoading_loadUserSettingData (isDarkMode bootLoadFlag : Bool) :
    (s.loadUserSettingData env context false isDarkMode bootLoadFlag).service.beyondLoading =
      (s.loadedOverride env context).resetScreenOffOperateInfo.beyondLoading := by
  have hreacted := beyondLoading_onStateChangeLocked env
    ((((s.loadState env context).1.setState context (s.loadState env context).2).initData
      context).expireTemporary env context).resetScreenOffOperateInfo context isDarkMode false
    bootLoadFlag
  rw [expireTemporary_initData] at hreacted
  have hloaded : ((s.loadState env context).1.setState context
      (s.loadState env context).2).beyondLoading = s.beyondLoading :=
    beyondLoading_loadState env s context
  unfold loadUserSettingData
  dsimp only
  rw [expireTemporary_initData]
  split_ifs
  · rw [beyondLoading_initSunriseSunsetMode, hreacted, loadedOverride_congr env context hloaded]
  · rw [hreacted, loadedOverride_congr env context hloaded]

end Override

section Switch

/-- The load of a switch. -/
def switchLoaded : Service :=
  ((s.onSwitchContext env context).1.loadUserSettingData env context false false false).service

theorem beyondLoading_switchLoaded : (s.switchLoaded env context).beyondLoading =
    (s.loadedOverride env context).resetScreenOffOperateInfo.beyondLoading := by
  unfold switchLoaded
  rw [beyondLoading_loadUserSettingData,
    loadedOverride_congr env context (beyondLoading_onSwitchContext env s context)]

theorem parameters_switchLoaded :
    (s.switchLoaded env context).parameters = (s.loadedOverride env context).parameters := by
  change (s.switchLoaded env context).beyondLoading.parameters = _
  rw [beyondLoading_switchLoaded]
  rfl

theorem darkModeStates_onSwitchContext :
    (s.onSwitchContext env context).1.darkModeStates = s.darkModeStates := by
  obtain ⟨_, _, _, _, hswitched⟩ := s.onSwitchContext_eq env context
  rw [hswitched]

theorem beyondAbility_switched : (s.accountContextSwitchFunc env context).beyondAbility =
    (s.switchLoaded env context).beyondAbility :=
  beyondAbility_accountContextSwitchFunc env s context

theorem darkModeStates_accountContextSwitchFunc :
    (s.accountContextSwitchFunc env context).darkModeStates =
      s.darkModeStates.put context (s.switchState env context) := by
  change (s.accountContextSwitchFunc env context).beyondAbility.darkModeStates = _
  rw [beyondAbility_switched]
  change (s.switchLoaded env context).darkModeStates = _
  unfold switchLoaded
  rw [darkModeStates_loadUserSettingData, darkModeStates_onSwitchContext]
  rfl

theorem multiUserTempColorModeMap_accountContextSwitchFunc :
    (s.accountContextSwitchFunc env context).multiUserTempColorModeMap =
      s.multiUserTempColorModeMap.put context
        (Core.loadedRecord env.clock (s.persistedInfo context)) := by
  change (s.accountContextSwitchFunc env context).beyondAbility.multiUserTempColorModeMap = _
  rw [beyondAbility_switched]
  change (s.switchLoaded env context).beyondLoading.multiUserTempColorModeMap = _
  rw [beyondLoading_switchLoaded]
  exact multiUserTempColorModeMap_loadedOverride env s context

theorem screenSwitchOperatorMgr_accountContextSwitchFunc :
    (s.accountContextSwitchFunc env context).screenSwitchOperatorMgr =
      s.screenSwitchOperatorMgr.resetScreenOffOperateInfo := by
  have hscreen := congrArg Core.screen (core_accountContextSwitchFunc env s context)
  simpa [Core.load, Core.react, Core.setState, Core.setOverride, Core.reset, core] using hscreen

end Switch

section Appearance

variable {env s context}

/-- Once the initialisation is over, at most the migration stands between load and colour. -/
theorem switchPrepared_eq (hfinished : s.isInitializationFinished = true) :
    s.switchPrepared env context =
      if (s.switchLoaded env context).isNeedDoCompatibleProcess then
        (s.switchLoaded env context).doCompatibleProcess env
      else s.switchLoaded env context := by
  have hloaded : (s.switchLoaded env context).isInitializationFinished = true :=
    (congrArg Appearance.isInitializationFinished (appearance_switchLoaded env s context)).trans
      hfinished
  unfold switchPrepared
  change (if Service.isInitializationFinished (ite _ _ _) then _ else _) = ite _ _ _
  refine if_pos ?_
  split_ifs
  · rw [isInitializationFinished_doCompatibleProcess]
    exact hloaded
  · exact hloaded

theorem usersParam_switchPrepared (hfinished : s.isInitializationFinished = true) :
    (s.switchPrepared env context).usersParam = s.usersParam := by
  have hloaded := usersParam_of_appearance (appearance_switchLoaded env s context)
  rw [switchPrepared_eq hfinished]
  split_ifs
  · rw [usersParam_doCompatibleProcess]
    exact hloaded
  · exact hloaded

theorem paramOf_switchPrepared (hfinished : s.isInitializationFinished = true) :
    (s.switchPrepared env context).paramOf env context = s.paramOf env context := by
  have hnew : (s.switchPrepared env context).newParam env = s.newParam env := by
    have hloaded := newParam_of_appearance (appearance_switchLoaded env s context) env
    rw [switchPrepared_eq hfinished]
    split_ifs
    · rw [newParam_doCompatibleProcess]
      exact hloaded
    · exact hloaded
  unfold paramOf
  rw [usersParam_switchPrepared hfinished, hnew]

end Appearance

section Stored

/-- The settings manager has asked for the database. -/
def openSettings : Service := s.withSettings (s.settingDataManager.initializeManager env)

/-- The settings are opened, if they were not; observers come and go, and no row changes. -/
theorem rows_onSwitchContext : (s.onSwitchContext env context).1.settingDataManager.rows =
    (s.openSettings env).settingDataManager.rows := by
  have hregister (s : Service) (context : AccountContext) :
      (s.registerSettingDataObservers env context).1.settingDataManager.rows =
        s.settingDataManager.rows :=
    List.foldlRecOn (motive := fun r : SettingDataManager DarkModeObserver × ℕ =>
      r.1.rows = s.settingDataManager.rows) _ _ rfl
      fun r hr item _ => (SettingDataManager.rows_registerObserver _).trans hr
  have hunregister (s : Service) (context : AccountContext) :
      (s.unregisterSettingDataObservers env context).settingDataManager.rows =
        s.settingDataManager.rows :=
    List.foldlRecOn (motive := fun m : SettingDataManager DarkModeObserver =>
      m.rows = s.settingDataManager.rows) _ _ rfl
      fun m hm item _ => SettingDataManager.rows_unregisterObserver.trans hm
  have hrelease (s : Service) : (s.releaseObservedContext env).settingDataManager.rows =
      s.settingDataManager.rows := by
    unfold releaseObservedContext
    dsimp only
    split_ifs
    · rfl
    · exact hunregister _ _
  unfold onSwitchContext
  dsimp only
  split_ifs
  · rfl
  · rfl
  · exact (hregister _ context).trans (hrelease _)

theorem switchState_eq :
    s.switchState env context = (s.openSettings env).storedState env context := by
  unfold switchState
  rw [loadState_snd, storedState_of_rows (rows_onSwitchContext env s context)]

end Stored

end Service
end UiAppearance
