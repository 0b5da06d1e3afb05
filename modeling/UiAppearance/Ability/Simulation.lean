import UiAppearance.Ability.Events
import UiAppearance.DarkMode.Simulation

/-!
# Every event is one abstract move

`Move` lists what an event can do to the abstract state, and `moveOf` reads off
which move a given event makes in a given state. The service simulates the
abstract machine step by step, hence along whole runs, so that an invariant of
moves is an invariant of the service.
-/

namespace UiAppearance

inductive Move where
  | idle
  | observe (env : Env) (item : SettingItem) (context : AccountContext) (state : DarkModeState)
  | update (clock : Clock) (isDarkMode : Bool) (context : AccountContext)
  | load (env : Env) (context : AccountContext) (state : DarkModeState)
      (info : TempColorModeInfo) (needUpdateCallback bootLoadFlag : Bool)
  | choose (clock : Clock) (isDarkMode : Bool) (contexts : List AccountContext)
  | screenOn
  | screenOff
  | install
  | restart

namespace Core

def next (k : Core) : Move → Core
  | .idle => k
  | .observe env item context state => k.observe env item context state
  | .update clock isDarkMode context => k.update clock isDarkMode context false false
  | .load env context state info needUpdateCallback bootLoadFlag =>
    k.load env context state info needUpdateCallback bootLoadFlag
  | .choose clock isDarkMode contexts =>
    contexts.foldl (fun k context => k.choose clock context isDarkMode) k
  | .screenOn => k.screenOn
  | .screenOff => k.screenOff
  | .install => { k with hasUpdateCallback := true }
  | .restart => { stateOf := fun _ => {}, overrideOf := fun _ => {}, screen := {},
                  decisions := k.decisions, hasUpdateCallback := false }

end Core

namespace Service

variable (env : Env) (s : Service) (context : AccountContext)

section Choice

theorem getSettingTime_touchState (hmode : (s.stateOf context).settingMode.isSchedule = true) :
    (s.touchState context).getSettingTime context = some (s.stateOf context).scheduleTime := by
  have hentry : (s.touchState context).darkModeStates context = some (s.stateOf context) :=
    Table.touch_self
  unfold getSettingTime
  rw [hentry]
  cases hm : (s.stateOf context).settingMode <;>
    simp_all [DarkModeState.scheduleTime, DarkModeMode.isSchedule]

theorem isSchedule_touchState :
    ((s.touchState context).isDarkModeCustomAuto context ||
        (s.touchState context).isDarkModeSunsetSunrise context) =
      (s.stateOf context).settingMode.isSchedule := by
  have hentry : (s.touchState context).darkModeStates context = some (s.stateOf context) :=
    Table.touch_self
  unfold isDarkModeCustomAuto isDarkModeSunsetSunrise DarkModeMode.isSchedule
  rw [hentry, stateOf_touchState]

theorem core_setColorModeTemporary {times : ℤ × ℤ} (h : s.getSettingTime context = some times) :
    (s.setColorModeTemporary env context).core =
      s.core.setOverride context (Core.overrideRecord env.clock times
        (s.core.overrideOf context).keepTemporaryStateEndTime) := by
  unfold setColorModeTemporary
  simp only [h, core_saveTempColorModeInfo, core_setTempInfo]
  rfl

/-- A manual choice on the service is a manual choice on the abstract state. -/
@[simp] theorem core_doSwitchTemporaryColorMode (isDarkMode : Bool) :
    (s.doSwitchTemporaryColorMode env context isDarkMode).core =
      s.core.choose env.clock context isDarkMode := by
  have hstate : s.core.stateOf context = s.stateOf context := rfl
  unfold doSwitchTemporaryColorMode Core.choose
  dsimp only
  rw [isSchedule_touchState, hstate]
  cases hmode : (s.stateOf context).settingMode.isSchedule with
  | false => simp
  | true =>
    have htimes : (s.touchState context).resetScreenOffOperateInfo.getSettingTime context =
        some (s.stateOf context).scheduleTime := getSettingTime_touchState s context hmode
    simp only [htimes, if_true, Bool.not_true, Bool.false_eq_true, if_false]
    by_cases hwithin : AlarmTimerManager.isWithinTimeInterval env.clock
        (toUInt64 (s.stateOf context).scheduleTime.1)
        (toUInt64 (s.stateOf context).scheduleTime.2) = isDarkMode
    · have hagrees : DarkModeState.within env.clock (s.stateOf context).scheduleTime =
          isDarkMode := hwithin
      rw [if_pos hwithin, if_pos hagrees, core_setColorModeNormal, core_resetScreenOffOperateInfo,
        core_touchState]
    · have hdiffers : ¬DarkModeState.within env.clock (s.stateOf context).scheduleTime =
          isDarkMode := hwithin
      rw [if_neg hwithin, if_neg hdiffers, core_emit _ rfl,
        core_setColorModeTemporary env _ context htimes, core_resetScreenOffOperateInfo,
        core_touchState]
      rfl

@[simp] theorem core_notifyDarkModeUpdate (isDarkMode : Bool) :
    (s.notifyDarkModeUpdate env context isDarkMode).core = s.core := by
  unfold notifyDarkModeUpdate
  dsimp only
  split_ifs <;> simp

@[simp] theorem core_persistColor (mode : DarkMode) (paramValue : String) :
    (s.persistColor env context mode paramValue).core =
      s.core.choose env.clock context (mode = .alwaysDark) := by
  simp [persistColor]

/-- The text a manual choice would store. -/
def choiceText (isDarkMode : Bool) : String := toString (DarkModeMode.ofColor isDarkMode).toInt

/-- The notification of a choice writes one row or nothing. -/
theorem notifyDarkModeUpdate_eq (isDarkMode : Bool) :
    s.notifyDarkModeUpdate env context isDarkMode =
      if (s.stateOf context).settingMode = .ofColor (!isDarkMode) ∨
          (s.stateOf context).settingMode = .invalid then
        (s.touchState context).withSettings (s.settingDataManager.setStringValue env
          (AccountContext.buildSettingKey SettingItem.mode.key context) (choiceText isDarkMode)
          context.userId true)
      else s.touchState context := by
  cases isDarkMode <;> rfl

theorem stateOf_notifyDarkModeUpdate (isDarkMode : Bool) (context' : AccountContext) :
    (s.notifyDarkModeUpdate env context isDarkMode).stateOf context' = s.stateOf context' :=
  congrFun (congrArg Core.stateOf (core_notifyDarkModeUpdate env s context isDarkMode)) context'

theorem isInitialized_notifyDarkModeUpdate (isDarkMode : Bool) :
    (s.notifyDarkModeUpdate env context isDarkMode).settingDataManager.isInitialized =
      s.settingDataManager.isInitialized := by
  rw [notifyDarkModeUpdate_eq]
  split_ifs
  · change (SettingDataManager.setStringValue ..).1.isInitialized = _
    unfold SettingDataManager.setStringValue SettingDataManager.updateValue
    split_ifs <;> rfl
  · rfl

theorem settingDataManager_doSwitchTemporaryColorMode (isDarkMode : Bool) :
    (s.doSwitchTemporaryColorMode env context isDarkMode).settingDataManager =
      s.settingDataManager := by
  have htouch : (s.touchState context).settingDataManager = s.settingDataManager := rfl
  refine (settingDataManager_of_frame ?_).trans htouch
  unfold doSwitchTemporaryColorMode
  dsimp only
  split_ifs
  · split
    · simp
    · split_ifs <;> simp
  · rfl

theorem settingDataManager_persistColor (mode : DarkMode) (paramValue : String) :
    (s.persistColor env context mode paramValue).settingDataManager = s.settingDataManager := by
  unfold persistColor
  rw [settingDataManager_of_frame (beyondSchedule_setParameterWrap ..),
    settingDataManager_of_frame (beyondSchedule_setDarkModeOf ..),
    settingDataManager_doSwitchTemporaryColorMode]

theorem stateOf_persistColor (mode : DarkMode) (paramValue : String) (context' : AccountContext) :
    (s.persistColor env context mode paramValue).stateOf context' = s.stateOf context' := by
  have hcore := congrArg Core.stateOf (core_persistColor env s context mode paramValue)
  refine (congrFun hcore context').trans ?_
  unfold Core.choose
  dsimp only
  split_ifs <;> rfl

/-- The contexts a manual choice reaches: up to and including the first that fails. -/
def chosenContexts (paramValue : String) : List AccountContext → List AccountContext
  | [] => []
  | context :: rest =>
    context :: if env.setParameter (darkModeParamAssignUser context) paramValue then
      chosenContexts paramValue rest else []

theorem core_configurePersistenceAll (mode : DarkMode) (paramValue : String)
    (contexts : List AccountContext) :
    (configurePersistenceAll env mode paramValue contexts s).1.core =
      (chosenContexts env paramValue contexts).foldl
        (fun k context => k.choose env.clock context (mode = .alwaysDark)) s.core := by
  induction contexts generalizing s with
  | nil => rfl
  | cons context rest ih =>
    unfold configurePersistenceAll configurePersistence chosenContexts
    cases env.setParameter (darkModeParamAssignUser context) paramValue with
    | false => simp
    | true => simp [ih]

/-- Whether a call gets as far as making the choice persistent. -/
def admitsSetDarkMode (mode : ℤ) : Bool :=
  env.accessGranted && decide (DarkMode.ofInt mode ≠ s.currentDarkMode (getCallingAccountContext env))
    && decide (DarkMode.ofInt mode ≠ .unknown) &&
    (s.updateConfiguration env { colorMode := some (colorName (DarkMode.ofInt mode = .alwaysDark)) }
      (getCallingAccountContext env).userId (getMultipleUsers env)).2

def contextsOfSetDarkMode (mode : ℤ) : List AccountContext :=
  if s.admitsSetDarkMode env mode then
    chosenContexts env (colorName (DarkMode.ofInt mode = .alwaysDark))
      (affectedContexts env (getCallingAccountContext env))
  else []

/-- Among the affected contexts a user appears with one context only. -/
theorem affectedContexts_own {env : Env} {context context' : AccountContext}
    (h : context ∈ affectedContexts env (getCallingAccountContext env))
    (h' : context' ∈ affectedContexts env (getCallingAccountContext env))
    (huser : context'.userId = context.userId) : context' = context := by
  have hform (c : AccountContext)
      (hc : c ∈ affectedContexts env (getCallingAccountContext env)) :
      c = .getForegroundContext env c.userId := by
    unfold affectedContexts at hc
    dsimp only at hc
    split_ifs at hc
    · obtain ⟨userId, -, rfl⟩ := List.mem_map.mp hc
      rw [AccountContext.getForegroundContext_userId]
    · obtain rfl := List.mem_singleton.mp hc
      unfold getCallingAccountContext
      rw [AccountContext.getForegroundContext_userId]
  rw [hform context h, hform context' h', huser]

theorem mem_of_mem_chosenContexts {env : Env} {context : AccountContext} {paramValue : String}
    {contexts : List AccountContext} (h : context ∈ chosenContexts env paramValue contexts) :
    context ∈ contexts := by
  induction contexts with
  | nil => exact h
  | cons head rest ih =>
    unfold chosenContexts at h
    rcases List.mem_cons.mp h with rfl | htail
    · exact List.mem_cons_self
    · split_ifs at htail
      · exact List.mem_cons_of_mem head (ih htail)
      · cases htail

/-- A call reaches a user through one context at most. -/
theorem contextsOfSetDarkMode_own {env : Env} {s : Service} {mode : ℤ}
    {context context' : AccountContext} (h : context ∈ s.contextsOfSetDarkMode env mode)
    (h' : context' ∈ s.contextsOfSetDarkMode env mode)
    (huser : context'.userId = context.userId) : context' = context := by
  unfold contextsOfSetDarkMode at h h'
  split_ifs at h h'
  · exact affectedContexts_own (mem_of_mem_chosenContexts h) (mem_of_mem_chosenContexts h') huser
  · cases h

/-- What an admitted call makes persistent the choice in: the configuration is already sent. -/
def configured (mode : DarkMode) : Service :=
  (s.updateConfiguration env { colorMode := some (colorName (mode = .alwaysDark)) }
    (getCallingAccountContext env).userId (getMultipleUsers env)).1.setParameterWrap env
    persistDarkmodeKey (colorName (mode = .alwaysDark))

@[simp] theorem core_configured (mode : DarkMode) : (s.configured env mode).core = s.core := by
  simp [configured]

theorem updateConfiguration_of_refused {config : Configuration} {userId : ℤ}
    {effectiveUserIds : List ℤ}
    (h : (s.updateConfiguration env config userId effectiveUserIds).2 = false) :
    (s.updateConfiguration env config userId effectiveUserIds).1 = s := by
  unfold updateConfiguration at h ⊢
  dsimp only at h ⊢
  split_ifs at h ⊢ <;> rfl

/-- A call that is not admitted changes nothing; an admitted one is its loop over the contexts. -/
theorem setDarkMode_eq (mode : ℤ) :
    (s.setDarkMode env mode).1 =
      if s.admitsSetDarkMode env mode then
        (configurePersistenceAll env (DarkMode.ofInt mode)
          (colorName (DarkMode.ofInt mode = .alwaysDark))
          (affectedContexts env (getCallingAccountContext env))
          (s.configured env (DarkMode.ofInt mode))).1
      else s := by
  unfold setDarkMode onSetDarkMode admitsSetDarkMode
  dsimp only
  by_cases hgranted : env.accessGranted = true
  · by_cases hcurrent : DarkMode.ofInt mode = s.currentDarkMode (getCallingAccountContext env)
    · simp [hgranted, hcurrent]
    · by_cases hunknown : DarkMode.ofInt mode = .unknown
      · rw [hunknown] at hcurrent
        simp [hgranted, hcurrent, hunknown]
      · cases hsent : (s.updateConfiguration env
          { colorMode := some (colorName (DarkMode.ofInt mode = .alwaysDark)) }
          (getCallingAccountContext env).userId (getMultipleUsers env)).2 with
        | false =>
          have hsame := updateConfiguration_of_refused env s hsent
          simp [hgranted, hcurrent, hunknown, hsame]
        | true => simp [hgranted, hcurrent, hunknown, configured]
  · simp [hgranted]

theorem core_setDarkMode (mode : ℤ) :
    (s.setDarkMode env mode).1.core = (s.contextsOfSetDarkMode env mode).foldl
      (fun k context => k.choose env.clock context (DarkMode.ofInt mode = .alwaysDark)) s.core := by
  rw [setDarkMode_eq]
  unfold contextsOfSetDarkMode
  split_ifs
  · rw [core_configurePersistenceAll, core_configured]
  · rfl

end Choice

section Ability

@[simp] theorem core_configureFontPersistence (property : FontProperty) (value : String) :
    (s.configureFontPersistence env property context value).1.core = s.core := by
  unfold configureFontPersistence
  rw [core_setParameterWrap]
  rfl

theorem core_configureFontPersistenceAll (property : FontProperty) (value : String)
    (contexts : List AccountContext) :
    (configureFontPersistenceAll env property value contexts s).1.core = s.core := by
  induction contexts generalizing s with
  | nil => rfl
  | cons context rest ih =>
    unfold configureFontPersistenceAll
    dsimp only
    split_ifs <;> simp [ih]

@[simp] theorem core_setFont (property : FontProperty) (value : String) :
    (s.setFont env property value).1.core = s.core := by
  unfold setFont onSetFont
  dsimp only
  split_ifs <;> simp [core_configureFontPersistenceAll]

@[simp] theorem core_migrateParam (paramName value : String) :
    (s.migrateParam env paramName value).core = s.core := by
  unfold migrateParam
  split_ifs <;> simp

@[simp] theorem core_migrateFamily (oldParam default : String)
    (refine : Service → String → String) (paramAssignUser : AccountContext → String)
    (contexts : List AccountContext) :
    (s.migrateFamily env oldParam default refine paramAssignUser contexts).core = s.core := by
  unfold migrateFamily
  split
  · rfl
  · exact frame_foldl _ core (fun _ _ => core_migrateParam ..) _

@[simp] theorem core_doCompatibleProcess : (s.doCompatibleProcess env).core = s.core := by
  unfold doCompatibleProcess
  change (setParameterWrap env _ _ _).core = _
  simp

@[simp] theorem core_loadContextParam (contextKey baseKey defaultValue : String) :
    (s.loadContextParam env context contextKey baseKey defaultValue).1.core = s.core := by
  rcases s.loadContextParam_cases env context contextKey baseKey defaultValue with h | ⟨-, -, h⟩
  · rw [h]
  · rw [h, core_setParameterWrap]

@[simp] theorem core_initContext : (s.initContext env context).core = s.core := by
  unfold initContext
  change (loadContextParam env _ context _ _ _).1.core = _
  simp

@[simp] theorem core_doInitProcess : (s.doInitProcess env).core = s.core :=
  frame_foldl s core (fun _ _ => core_initContext ..) _

@[simp] theorem core_updateCurrentUserConfiguration (isForceUpdate : Bool) :
    (s.updateCurrentUserConfiguration env context isForceUpdate).core = s.core := by
  unfold updateCurrentUserConfiguration
  dsimp only
  split_ifs <;> (try simp only [core_setParameterWrap]) <;> rfl

@[simp] theorem core_adoptLoadedColor (code : ErrCode) (isDarkMode : Bool) :
    (s.adoptLoadedColor env context code isDarkMode).1.core = s.core := by
  unfold adoptLoadedColor
  split_ifs <;> rfl

@[simp] theorem core_applyAppearanceContextToUser (target : AccountContext) :
    (s.applyAppearanceContextToUser env context target).core = s.core := by
  unfold applyAppearanceContextToUser
  split
  · rfl
  · simp only [core_updateCurrentUserConfiguration, core_setParameterWrap]
    rfl

@[simp] theorem core_onSwitchContext : (s.onSwitchContext env context).1.core = s.core := by
  obtain ⟨_, _, _, _, hswitched⟩ := s.onSwitchContext_eq env context
  rw [hswitched]
  rfl

end Ability

section Events

/-- A switch is a load that does not call back; the rest of it concerns the ability. -/
@[simp] theorem core_accountContextSwitchFunc :
    (s.accountContextSwitchFunc env context).core =
      s.core.load env context ((s.onSwitchContext env context).1.loadState env context).2
        ((s.onSwitchContext env context).1.persistedInfo context) false false := by
  unfold accountContextSwitchFunc
  dsimp only
  rw [core_updateCurrentUserConfiguration, core_adoptLoadedColor]
  split_ifs <;> simp

def loadMove (needUpdateCallback bootLoadFlag : Bool) : Move :=
  .load env context (s.loadState env context).2 (s.persistedInfo context) needUpdateCallback
    bootLoadFlag

def observeMove (observer : DarkModeObserver) (key : String) : Move :=
  .observe env observer.item observer.context (s.observerState env observer key)

/-- The move of a timer callback: none when its check fails. -/
def timerMove : TimerCallback → Move
  | .recalculation _ => .idle
  | .schedule startTime endTime context =>
    if (s.stateOf context).settingMode.isSchedule &&
        decide ((s.stateOf context).scheduleTime = (startTime, endTime)) && !env.clock.failed then
      .update env.clock (checkCurrentTimeInDarkInterval startTime endTime env.clock.secondOfDay)
        context
    else .idle

def restartMove : Move :=
  if (s.stateOf s.observedContext).settingMode.isSchedule then
    .update env.clock ((s.stateOf s.observedContext).wantsDark env.clock) s.observedContext
  else .idle

/-- The context that a boot or a switch of sub-profiles loads, if it loads one. -/
def bootMove : Move :=
  if s.bootCompleteFlag then .idle
  else
    let context := AccountContext.getForegroundContext env (env.activeOsAccountIds.headD user100)
    (({ s with bootCompleteFlag := true }.onSwitchContext env context).1).loadMove env context
      true true

def subProfileMove (userId subProfileId : ℤ) : Move :=
  if env.enableSubspace && decide (userId = user100) then
    let context := subProfileContext env userId subProfileId
    (s.onSwitchContext env context).1.loadMove env context false false
  else .idle

/-- A delivered notification runs its observer with that notification taken out. -/
def deliverMove (n : ℕ) : Move :=
  match s.settingDataManager.inFlight[n]? with
  | none => .idle
  | some observer => (s.takeNotification n).observeMove env observer.updateFunc observer.key

def moveOf (e : Env × Event) : Move :=
  match e.2 with
  | .onAddSystemAbility => .install
  | .onRemoveSystemAbility => .idle
  | .bootCompleted => s.bootMove e.1
  | .userSwitched userId =>
    let context := AccountContext.getForegroundContext e.1 userId
    (s.onSwitchContext e.1 context).1.loadMove e.1 context false false
  | .subProfileSwitched userId subProfileId => s.subProfileMove e.1 userId subProfileId
  | .timeChanged => s.restartMove e.1
  | .screenOn => .screenOn
  | .screenOff => .screenOff
  | .settingChanged observer => s.observeMove e.1 observer (observedKey observer)
  | .delivered n => s.deliverMove e.1 n
  | .timerFired callback => s.timerMove e.1 callback
  | .setDarkMode mode =>
    .choose e.1.clock (DarkMode.ofInt mode = .alwaysDark) (s.contextsOfSetDarkMode e.1 mode)
  | .setFontScale _ => .idle
  | .setFontWeightScale _ => .idle
  | .setSettingData _ _ => .idle
  | .loadUserSettingData context needUpdateCallback bootLoadFlag =>
    s.loadMove e.1 context needUpdateCallback bootLoadFlag
  | .settingWritten _ _ _ => .idle
  | .rebooted => .restart

theorem core_onAddSystemAbility :
    (s.onAddSystemAbility env).core = { s.core with hasUpdateCallback := true } := by
  unfold onAddSystemAbility
  dsimp only
  split_ifs <;> (try simp only [core_updateCurrentUserConfiguration, core_doInitProcess,
    core_doCompatibleProcess]) <;> rfl

theorem core_bootCompletedCallback :
    (s.bootCompletedCallback env).core = s.core.next (s.bootMove env) := by
  unfold bootCompletedCallback bootMove
  split_ifs
  · rfl
  · simp only [core_loadUserSettingData, core_onSwitchContext, loadMove, Core.next]
    rfl

theorem core_handleSubProfileSwitched (userId subProfileId : ℤ) :
    (s.handleSubProfileSwitched env userId subProfileId).core =
      s.core.next (s.subProfileMove env userId subProfileId) := by
  unfold handleSubProfileSwitched subProfileMove
  dsimp only
  split_ifs with hbuild hcenter hinvalid <;> simp_all [Core.next, loadMove]
  rw [frame_foldl _ core]
  · simp
  · intro s' effectiveUserId
    split_ifs <;> simp

theorem core_timerFired (callback : TimerCallback) :
    (timerFired env s callback).core = s.core.next (s.timerMove env callback) := by
  cases callback with
  | recalculation context => exact core_recalculationCallback ..
  | schedule startTime endTime context =>
    simp only [timerFired, core_scheduleTimerCallback, timerMove]
    split_ifs <;> rfl

theorem core_deliver (n : ℕ) : (s.deliver env n).core = s.core.next (s.deliverMove env n) := by
  unfold deliver deliverMove
  cases s.settingDataManager.inFlight[n]? with
  | none => rfl
  | some observer => exact core_observerUpdateFunc ..

/-- The service simulates the abstract machine. -/
theorem core_step (e : Env × Event) : (s.step e).core = s.core.next (s.moveOf e) := by
  obtain ⟨env, event⟩ := e
  cases event with
  | onAddSystemAbility => exact core_onAddSystemAbility env s
  | onRemoveSystemAbility => rfl
  | bootCompleted => exact core_bootCompletedCallback env s
  | userSwitched userId => simp [step, userSwitchFunc, moveOf, loadMove, Core.next]
  | subProfileSwitched userId subProfileId => exact core_handleSubProfileSwitched env s _ _
  | timeChanged =>
    simp only [step, core_restartTimer, moveOf, restartMove]
    split_ifs <;> rfl
  | screenOn => rfl
  | screenOff => exact core_screenOffCallback env s
  | settingChanged observer => exact core_observerUpdateFunc ..
  | delivered n => exact core_deliver env s n
  | timerFired callback => exact core_timerFired env s callback
  | setDarkMode mode => exact core_setDarkMode env s mode
  | setFontScale fontScale => exact core_setFont ..
  | setFontWeightScale fontWeightScale => exact core_setFont ..
  | setSettingData key value => rfl
  | loadUserSettingData context needUpdateCallback bootLoadFlag =>
    exact core_loadUserSettingData ..
  | settingWritten userId key value => rfl
  | rebooted => rfl

end Events

section Runs

variable {I : Core → Prop} {ok : Core → Move → Prop}

/-- An invariant of moves is an invariant of the service. -/
theorem core_exec_invariant (hstep : ∀ k m, I k → ok k m → I (k.next m)) {s : Service} {es : Run}
    (hs : I s.core) (hok : Transition.Along step (fun s e => ok s.core (s.moveOf e)) s es) :
    I (Transition.exec step s es).core := by
  refine Transition.exec_invariant (I := fun s => I s.core) ?_ hs hok
  intro s e hI hmove
  rw [core_step]
  exact hstep _ _ hI hmove

/-- What an invariant of moves implies at a step holds at every step of the service. -/
theorem core_along {Q : Service → Env × Event → Prop}
    (hstep : ∀ k m, I k → ok k m → I (k.next m))
    (hQ : ∀ s e, I s.core → Q s e) {s : Service} {es : Run} (hs : I s.core)
    (hok : Transition.Along step (fun s e => ok s.core (s.moveOf e)) s es) :
    Transition.Along step Q s es := by
  refine Transition.along_of_invariant (I := fun s => I s.core) ?_ (fun s e hI _ => hQ s e hI) hs hok
  intro s e hI hmove
  rw [core_step]
  exact hstep _ _ hI hmove

end Runs
end Service
end UiAppearance
