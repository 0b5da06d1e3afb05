import UiAppearance.Ability.Frames
import UiAppearance.Ability.Setters

/-!
# A switch to a context

What `AccountContextSwitchFunc` makes of the entry of the context it switches
to. The settings it loads ask for a colour, or for none: when they cannot be
acted upon, or an override is in force.
-/

namespace UiAppearance
namespace Service

variable (env : Env) (s : Service) (context : AccountContext)

section Reaction

variable (needUpdateCallback isDarkMode resetTempColorModeFlag bootLoadFlag : Bool)

/-- The code and the colour that a reaction reports. -/
theorem onStateChangeLocked_reports :
    ((s.onStateChangeLocked env context needUpdateCallback isDarkMode resetTempColorModeFlag
        bootLoadFlag).code = .ok ↔ (s.stateOf context).actionable env = true) ∧
      ((s.stateOf context).actionable env = true →
        (s.onStateChangeLocked env context needUpdateCallback isDarkMode resetTempColorModeFlag
          bootLoadFlag).isDarkMode = (s.stateOf context).wantsDark env.clock) := by
  have hschedule (s' : Service) {state : DarkModeState}
      (hmode : state.settingMode.isSchedule = true) :
      ((s'.onStateChangeToCustomAutoMode env context state needUpdateCallback isDarkMode
          resetTempColorModeFlag bootLoadFlag).code = .ok ↔ state.actionable env = true) ∧
        (state.actionable env = true →
          (s'.onStateChangeToCustomAutoMode env context state needUpdateCallback isDarkMode
            resetTempColorModeFlag bootLoadFlag).isDarkMode = state.wantsDark env.clock) := by
    have hok := createOrUpdateTimers_ok_iff env s' context hmode
    rw [DarkModeState.wantsDark_of_isSchedule env.clock hmode, ← hok]
    unfold onStateChangeToCustomAutoMode
    dsimp only
    split_ifs with hcode
    · exact ⟨iff_of_true rfl hcode, fun _ => rfl⟩
    · exact ⟨iff_of_true rfl hcode, fun _ => rfl⟩
    · exact ⟨Iff.rfl, fun h => absurd h hcode⟩
  unfold onStateChangeLocked
  dsimp only
  cases hm : (s.stateOf context).settingMode with
  | invalid => simp [DarkModeState.actionable, hm]
  | alwaysLight =>
    rw [DarkModeState.actionable_of_allDay env false hm,
      DarkModeState.wantsDark_of_allDay env.clock false hm]
    exact ⟨iff_of_true rfl rfl, fun _ => rfl⟩
  | alwaysDark =>
    rw [DarkModeState.actionable_of_allDay env true hm,
      DarkModeState.wantsDark_of_allDay env.clock true hm]
    exact ⟨iff_of_true rfl rfl, fun _ => rfl⟩
  | customAuto => exact hschedule _ (by rw [hm]; rfl)
  | sunriseSunset => exact hschedule _ (by rw [hm]; rfl)

end Reaction

/-- The settings of a context as a switch to it reads them. -/
def switchState : DarkModeState := ((s.onSwitchContext env context).1.loadState env context).2

/-- The colour that a switch to a context takes over from its settings. -/
def settledColor : Option Bool :=
  if (s.switchState env context).actionable env &&
      !(Core.loadedRecord env.clock (s.persistedInfo context)).isTemporary then
    some ((s.switchState env context).wantsDark env.clock)
  else none

/-- The state of a switch before it looks at the colour. -/
def switchPrepared : Service :=
  let s := ((s.onSwitchContext env context).1.loadUserSettingData env context false false
    false).service
  let s := if s.isNeedDoCompatibleProcess then s.doCompatibleProcess env else s
  if s.isInitializationFinished then s else s.doInitProcess env

/-- The entry of a context after a switch to it. -/
def switchedParam : UiAppearanceParam :=
  match s.settledColor env context with
  | some isDarkMode =>
    { (s.switchPrepared env context).paramOf env context with darkMode := .ofColor isDarkMode }
  | none => (s.switchPrepared env context).paramOf env context

/-- The state in which a switch sends the configuration. -/
def switchAdopted : Service :=
  if (s.settledColor env context).isSome then
    { s.switchPrepared env context with
      usersParam := (s.switchPrepared env context).usersParam.put context
        (s.switchedParam env context) }
  else s.switchPrepared env context

/-- Sub-profiles are forced, and so is a context that takes over a new colour. -/
def switchForced : Bool :=
  (match s.settledColor env context with
    | some isDarkMode =>
      decide (((s.switchPrepared env context).paramOf env context).darkMode ≠ .ofColor isDarkMode)
    | none => false) || context.isSubProfileContext

variable {env s context}

/-- What the load of a switch reports, and what it makes of the override. -/
theorem load_settles (env : Env) {s' : Service}
    (h : s'.persistedInfo context = s.persistedInfo context) :
    let load := s'.loadUserSettingData env context false false false
    let state := (s'.loadState env context).2
    (load.code = .ok ↔ state.actionable env = true) ∧
      (state.actionable env = true → load.isDarkMode = state.wantsDark env.clock) ∧
      load.service.core.overrideOf context =
        Core.loadedRecord env.clock (s.persistedInfo context) := by
  intro load state
  have hstate : (s'.loadedService env context).stateOf context = state := stateOf_loadedService ..
  have hreports := onStateChangeLocked_reports env (s'.loadedService env context) context false
    false false false
  rw [hstate] at hreports
  have hload : load.code = ((s'.loadedService env context).onStateChangeLocked env context false
      false false false).code ∧ load.isDarkMode = ((s'.loadedService env
        context).onStateChangeLocked env context false false false false).isDarkMode := by
    unfold load loadUserSettingData loadedService
    dsimp only
    split_ifs
    · exact ⟨rfl, rfl⟩
    · exact ⟨rfl, rfl⟩
  refine ⟨?_, ?_, ?_⟩
  · rw [hload.1]
    exact hreports.1
  · rw [hload.2]
    exact hreports.2
  · rw [core_loadUserSettingData, h]
    simp [Core.load, Core.react, Core.setOverride, Core.reset]

theorem multiUserTempColorModeMap_of_beyondStores {s' : Service}
    (h : s'.beyondStores = s.beyondStores) :
    s'.multiUserTempColorModeMap = s.multiUserTempColorModeMap := by
  change s'.beyondStores.multiUserTempColorModeMap = _
  rw [h]
  rfl

variable (env s context)

theorem beyondStores_switchPrepared :
    (s.switchPrepared env context).beyondStores = ((s.onSwitchContext env
      context).1.loadUserSettingData env context false false false).service.beyondStores := by
  unfold switchPrepared
  dsimp only
  split_ifs <;> simp only [beyondStores_doInitProcess, beyondStores_doCompatibleProcess]

theorem appearance_switchLoaded : ((s.onSwitchContext env context).1.loadUserSettingData env context
    false false false).service.appearance = s.appearance := by
  rw [appearance_loadUserSettingData, appearance_onSwitchContext]

theorem onceFlag_switchPrepared : (s.switchPrepared env context).onceFlag = s.onceFlag :=
  (onceFlag_of_beyondStores (beyondStores_switchPrepared env s context)).trans
    (congrArg Appearance.onceFlag (appearance_switchLoaded env s context))

theorem configurations_switchPrepared :
    (s.switchPrepared env context).appearance.configurations = s.appearance.configurations := by
  have hloaded := congrArg Appearance.configurations (appearance_switchLoaded env s context)
  rw [← hloaded]
  exact congrArg (List.filterMap Effect.configuration)
    (trace_of_beyondStores (beyondStores_switchPrepared env s context))

theorem parameters_onSwitchContext :
    (s.onSwitchContext env context).1.parameters = s.parameters := by
  obtain ⟨_, _, _, _, hswitched⟩ := s.onSwitchContext_eq env context
  rw [hswitched]

theorem settledColor_eq :
    let load := (s.onSwitchContext env context).1.loadUserSettingData env context false false false
    s.settledColor env context =
      if load.code = .ok && (s.switchPrepared env context).isColorModeNormal context then
        some load.isDarkMode else none := by
  intro load
  have hpersisted := persistedInfo_congr s context (parameters_onSwitchContext env s context)
  obtain ⟨hcode, hcolor, hrecord⟩ := load_settles env hpersisted
  have hmap := multiUserTempColorModeMap_of_beyondStores
    (beyondStores_switchPrepared env s context)
  have hnormal : (s.switchPrepared env context).isColorModeNormal context =
      !(Core.loadedRecord env.clock (s.persistedInfo context)).isTemporary := by
    rw [← hrecord, ← isColorModeNormal_eq]
    unfold isColorModeNormal
    rw [hmap]
  have hstate : ((s.onSwitchContext env context).1.loadState env context).2 =
      s.switchState env context := rfl
  rw [hstate] at hcode hcolor
  unfold settledColor
  rw [hnormal]
  cases hactionable : (s.switchState env context).actionable env with
  | false =>
    have hfailed : load.code ≠ .ok := by
      rw [Ne, hcode, hactionable]
      exact Bool.false_ne_true
    rw [decide_eq_false hfailed]
    rfl
  | true => rw [decide_eq_true (hcode.mpr hactionable), hcolor hactionable]

/-- A colour that is the current one is only read, any other one is written. -/
theorem adoptLoadedColor_of_settled {s' : Service} {code : ErrCode} {isDarkMode : Bool}
    (h : (decide (code = .ok) && s'.isColorModeNormal context) = true) :
    s'.adoptLoadedColor env context code isDarkMode =
      (s'.setDarkModeOf env context (.ofColor isDarkMode),
        decide ((s'.paramOf env context).darkMode ≠ .ofColor isDarkMode)) := by
  unfold adoptLoadedColor
  rw [if_pos h]
  split_ifs with hsame
  · unfold setDarkModeOf
    rw [Table.touch_eq_put, ← hsame, decide_eq_false (not_not_intro rfl)]
    rfl
  · rw [decide_eq_true hsame]

theorem accountContextSwitchFunc_eq :
    s.accountContextSwitchFunc env context =
      (s.switchAdopted env context).updateCurrentUserConfiguration env context
        (s.switchForced env context) := by
  have hsettled := settledColor_eq env s context
  have hunfold (load : StateChange) (hload : load = (s.onSwitchContext env
      context).1.loadUserSettingData env context false false false) :
      s.accountContextSwitchFunc env context =
        ((s.switchPrepared env context).adoptLoadedColor env context load.code
          load.isDarkMode).1.updateCurrentUserConfiguration env context
          (((s.switchPrepared env context).adoptLoadedColor env context load.code
            load.isDarkMode).2 || context.isSubProfileContext) := by
    rw [hload]
    rfl
  rw [hunfold _ rfl]
  unfold switchAdopted switchForced switchedParam
  dsimp only at hsettled
  rw [hsettled]
  by_cases htest : (decide (((s.onSwitchContext env context).1.loadUserSettingData env context false
      false false).code = .ok) && (s.switchPrepared env context).isColorModeNormal context) = true
  · rw [adoptLoadedColor_of_settled env context htest, if_pos htest]
    rfl
  · unfold adoptLoadedColor
    rw [if_neg htest, if_neg htest]
    rfl

section Configuration

variable (isForceUpdate : Bool)

@[simp] theorem usersParam_updateCurrentUserConfiguration :
    (s.updateCurrentUserConfiguration env context isForceUpdate).usersParam =
      s.usersParam.put context (s.paramOf env context) := by
  unfold paramOf
  rw [← Table.touch_eq_put]
  unfold updateCurrentUserConfiguration
  dsimp only
  split_ifs <;> simp only [usersParam_setParameterWrap] <;> rfl

/-- Only the parameters of the service as a whole are written. -/
theorem parameters_updateCurrentUserConfiguration {key : String}
    (hkey : ∀ item : AppearanceItem, key ≠ item.globalParam) :
    (s.updateCurrentUserConfiguration env context isForceUpdate).parameters key =
      s.parameters key := by
  have hset (s : Service) (item : AppearanceItem) (value : String) :
      (s.setParameterWrap env item.globalParam value).parameters key = s.parameters key :=
    parameters_setParameterWrap_of_ne env s (hkey item) value
  unfold updateCurrentUserConfiguration
  dsimp only
  split_ifs
  · rfl
  all_goals
    refine (hset _ .fontWeightScale _).trans ?_
    refine (hset _ .fontScale _).trans ((hset _ .darkMode _).trans ?_)
    rfl

/-- What the start-up still has to do stays due. -/
theorem due_updateCurrentUserConfiguration :
    ((s.updateCurrentUserConfiguration env context isForceUpdate).isNeedDoCompatibleProcess,
      (s.updateCurrentUserConfiguration env context isForceUpdate).isInitializationFinished) =
        (s.isNeedDoCompatibleProcess, s.isInitializationFinished) := by
  have hset (s : Service) (paramName value : String) :
      ((s.setParameterWrap env paramName value).isNeedDoCompatibleProcess,
        (s.setParameterWrap env paramName value).isInitializationFinished) =
          (s.isNeedDoCompatibleProcess, s.isInitializationFinished) := by
    unfold setParameterWrap
    split_ifs <;> rfl
  unfold updateCurrentUserConfiguration
  dsimp only
  split_ifs
  · rfl
  all_goals
    refine (hset ..).trans ((hset ..).trans ((hset ..).trans ?_))
    rfl

@[simp] theorem isNeedDoCompatibleProcess_updateCurrentUserConfiguration :
    (s.updateCurrentUserConfiguration env context isForceUpdate).isNeedDoCompatibleProcess =
      s.isNeedDoCompatibleProcess :=
  (Prod.mk.inj (due_updateCurrentUserConfiguration env s context isForceUpdate)).1

@[simp] theorem isInitializationFinished_updateCurrentUserConfiguration :
    (s.updateCurrentUserConfiguration env context isForceUpdate).isInitializationFinished =
      s.isInitializationFinished :=
  (Prod.mk.inj (due_updateCurrentUserConfiguration env s context isForceUpdate)).2

end Configuration

theorem parameters_switchAdopted :
    (s.switchAdopted env context).parameters = (s.switchPrepared env context).parameters := by
  unfold switchAdopted
  split_ifs <;> rfl

/-- Nobody has been told of the switch yet. -/
theorem told_switchAdopted :
    (s.switchAdopted env context).appearance.configurations = s.appearance.configurations ∧
      (s.switchAdopted env context).onceFlag = s.onceFlag := by
  rw [← configurations_switchPrepared env s context, ← onceFlag_switchPrepared env s context]
  unfold switchAdopted
  split_ifs <;> exact ⟨rfl, rfl⟩

theorem paramOf_switchAdopted :
    (s.switchAdopted env context).paramOf env context = s.switchedParam env context := by
  unfold switchAdopted switchedParam
  cases s.settledColor env context with
  | none => rfl
  | some isDarkMode => exact Table.valueAt_put_self

/-- The switch writes one entry. -/
theorem usersParam_accountContextSwitchFunc :
    (s.accountContextSwitchFunc env context).usersParam =
      (s.switchPrepared env context).usersParam.put context (s.switchedParam env context) := by
  rw [accountContextSwitchFunc_eq, usersParam_updateCurrentUserConfiguration,
    paramOf_switchAdopted]
  unfold switchAdopted
  split_ifs
  · exact Table.put_put_self
  · rfl

theorem parameters_accountContextSwitchFunc {key : String}
    (hkey : ∀ item : AppearanceItem, key ≠ item.globalParam) :
    (s.accountContextSwitchFunc env context).parameters key =
      (s.switchPrepared env context).parameters key := by
  rw [accountContextSwitchFunc_eq, parameters_updateCurrentUserConfiguration _ _ _ _ hkey,
    parameters_switchAdopted]

variable {s}

/-- Once the service is initialised, a switch starts from the appearance as it is. -/
theorem appearance_switchPrepared (hneed : s.isNeedDoCompatibleProcess = false)
    (hfinished : s.isInitializationFinished = true) :
    (s.switchPrepared env context).appearance = s.appearance := by
  have hloaded := appearance_switchLoaded env s context
  have hneed' := (congrArg Appearance.isNeedDoCompatibleProcess hloaded).trans hneed
  have hfinished' := (congrArg Appearance.isInitializationFinished hloaded).trans hfinished
  unfold switchPrepared
  dsimp only [appearance] at hneed' hfinished' ⊢
  rw [hneed', if_neg Bool.false_ne_true, if_pos hfinished']
  exact hloaded

end Service
end UiAppearance
