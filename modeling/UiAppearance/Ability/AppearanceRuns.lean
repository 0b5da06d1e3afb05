import UiAppearance.Ability.Events
import UiAppearance.Ability.Setters
import UiAppearance.DarkMode.Timers

/-!
# What a run does to entries and parameters

Whatever follows the settings or the clock changes the appearance through the
callback that reports a colour, if at all. Besides that callback there are the
requests, and the operations of the ability itself. What all of these preserve,
and a reboot, holds in every state of a run.
-/

namespace UiAppearance

def Event.request : Event → Option Request
  | .setDarkMode mode => some (.setDarkMode mode)
  | .setFontScale fontScale => some (.setFontScale fontScale)
  | .setFontWeightScale fontWeightScale => some (.setFontWeightScale fontWeightScale)
  | _ => none

namespace Service

/-- Entries and parameters stay as they are, up to the parameters of overrides. -/
structure KeepsEntries (s s' : Service) : Prop where
  usersParam : s'.usersParam = s.usersParam
  parameters : ∀ key, isTemporaryParam key = false → s'.parameters key = s.parameters key

theorem keepsEntries_of_appearance {s s' : Service} (h : s'.appearance = s.appearance) :
    KeepsEntries s s' :=
  ⟨usersParam_of_appearance h, fun _ hkey => parameters_of_appearance h hkey⟩

theorem keepsEntries_of_eq {s s' : Service} (husers : s'.usersParam = s.usersParam)
    (hparameters : s'.parameters = s.parameters) : KeepsEntries s s' :=
  ⟨husers, fun _ _ => by rw [hparameters]⟩

/-- A property of entries and parameters that each operation preserves, under a condition on what
is answered and one on what is requested. -/
structure AppearanceInvariant (E : Env → Prop) (R : Env → Request → Prop)
    (P : Service → Prop) : Prop where
  congr : ∀ {s s' : Service}, P s → KeepsEntries s s' → P s'
  recolors : ∀ {env : Env} (s : Service) (isDarkMode : Bool) (userId : ℤ), E env → P s →
    P (s.updateDarkModeCallback env isDarkMode userId)
  requests : ∀ {env : Env} (s : Service) (r : Request), E env → R env r →
    P s → P (r.call env s).1
  migrates : ∀ {env : Env} (s : Service), E env → P s → P (s.doCompatibleProcess env)
  initialises : ∀ {env : Env} (s : Service), E env → P s → P (s.doInitProcess env)
  adopts : ∀ {env : Env} (s : Service) (context : AccountContext) (code : ErrCode)
    (isDarkMode : Bool), E env → P s → P (s.adoptLoadedColor env context code isDarkMode).1
  configures : ∀ {env : Env} (s : Service) (context : AccountContext) (isForceUpdate : Bool),
    E env → P s → P (s.updateCurrentUserConfiguration env context isForceUpdate)
  applies : ∀ {env : Env} (s : Service) (sourceContext targetContext : AccountContext), E env →
    P s → P (s.applyAppearanceContextToUser env sourceContext targetContext)
  reboots : ∀ s : Service, P s → P (start s.parameters s.settingDataManager.tables)

namespace AppearanceInvariant

variable {E : Env → Prop} {R : Env → Request → Prop} {P : Service → Prop}
  (h : AppearanceInvariant E R P) {env : Env} {s : Service} (henv : E env)

include h

theorem of_eq {s' : Service} (hs : P s) (husers : s'.usersParam = s.usersParam)
    (hparameters : s'.parameters = s.parameters) : P s' :=
  h.congr hs (keepsEntries_of_eq husers hparameters)

theorem of_appearance {s' : Service} (hs : P s) (heq : s'.appearance = s.appearance) : P s' :=
  h.congr hs (keepsEntries_of_appearance heq)

section Schedule

include henv

theorem onChangeDarkMode (hs : P s) (mode : DarkModeMode) (context : AccountContext) :
    P (s.onChangeDarkMode env mode context) := by
  unfold Service.onChangeDarkMode
  dsimp only
  have hupdated : P ((s.emit (.updateCallback (mode = .alwaysDark)
      context)).updateDarkModeCallback env (mode = .alwaysDark) context.userId) :=
    h.recolors _ _ _ henv (h.of_eq hs rfl rfl)
  split_ifs
  · exact hs
  · exact h.of_appearance hupdated (appearance_setColorModeNormal ..)
  · exact hupdated

theorem updateDarkModeSchedule (hs : P s) (mode : DarkModeMode) (context : AccountContext)
    (resetTempColorModeFlag bootLoadFlag : Bool) :
    P (s.updateDarkModeSchedule env mode context resetTempColorModeFlag bootLoadFlag) := by
  have hreset : P s.resetScreenOffOperateInfo := h.of_eq hs rfl rfl
  unfold Service.updateDarkModeSchedule
  dsimp only
  split_ifs
  · exact h.onChangeDarkMode henv hreset mode context
  · exact h.onChangeDarkMode henv hreset mode context
  · exact hreset
  · exact h.of_eq hreset rfl rfl
  · exact hreset

theorem onStateChangeToAllDayMode (hs : P s) (context : AccountContext) (darkMode : DarkModeMode)
    (needUpdateCallback resetTempColorModeFlag bootLoadFlag : Bool) :
    P (s.onStateChangeToAllDayMode env context darkMode needUpdateCallback resetTempColorModeFlag
      bootLoadFlag).service := by
  have hcleared : P ((s.clearRecalculationTimer env context).clearTimerByContext env context) :=
    h.of_eq hs rfl rfl
  unfold Service.onStateChangeToAllDayMode
  dsimp only
  split_ifs
  · exact h.updateDarkModeSchedule henv hcleared ..
  · exact hcleared

theorem onStateChangeToCustomAutoMode (hs : P s) (context : AccountContext) (state : DarkModeState)
    (needUpdateCallback isDarkMode resetTempColorModeFlag bootLoadFlag : Bool) :
    P (s.onStateChangeToCustomAutoMode env context state needUpdateCallback isDarkMode
      resetTempColorModeFlag bootLoadFlag).service := by
  have hset : P (s.createOrUpdateTimers env state.scheduleTime.1 state.scheduleTime.2 context).1 :=
    h.of_eq hs rfl rfl
  unfold Service.onStateChangeToCustomAutoMode
  dsimp only
  split_ifs
  · exact h.updateDarkModeSchedule henv hset ..
  · exact hset
  · exact h.of_eq hset rfl rfl

theorem onStateChangeLocked (hs : P s) (context : AccountContext)
    (needUpdateCallback isDarkMode resetTempColorModeFlag bootLoadFlag : Bool) :
    P (s.onStateChangeLocked env context needUpdateCallback isDarkMode resetTempColorModeFlag
      bootLoadFlag).service := by
  have htouched : P (s.touchState context) := h.of_eq hs rfl rfl
  unfold Service.onStateChangeLocked
  dsimp only
  split
  · exact h.onStateChangeToAllDayMode henv htouched ..
  · exact h.onStateChangeToAllDayMode henv htouched ..
  · exact h.onStateChangeToCustomAutoMode henv htouched ..
  · exact h.onStateChangeToCustomAutoMode henv htouched ..
  · exact htouched

theorem observerUpdateFunc (hs : P s) (observer : DarkModeObserver) (key : String) :
    P (s.observerUpdateFunc env observer key) := by
  have hreacts (state : DarkModeState) (resetTempColorModeFlag : Bool) :
      P ((s.setState observer.context state).onStateChangeLocked env observer.context true false
        resetTempColorModeFlag false).service := by
    have hstored : P (s.setState observer.context state) := h.of_eq hs rfl rfl
    exact h.onStateChangeLocked henv hstored ..
  unfold Service.observerUpdateFunc
  cases observer.item with
  | mode =>
    dsimp only
    unfold settingDataDarkModeModeUpdateFunc
    dsimp only
    split_ifs
    · exact h.of_appearance (hreacts ..) (appearance_initSunriseSunsetMode ..)
    · exact h.of_eq (hreacts ..) rfl rfl
  | startTime => exact hreacts ..
  | endTime => exact hreacts ..
  | sunset => exact hreacts ..
  | sunrise => exact hreacts ..

theorem loadUserSettingData (hs : P s) (context : AccountContext)
    (needUpdateCallback isDarkMode bootLoadFlag : Bool) :
    P (s.loadUserSettingData env context needUpdateCallback isDarkMode bootLoadFlag).service := by
  have hloaded : P (s.loadedService env context) := by
    refine h.of_appearance hs ?_
    change (expireTemporary _ _ _).appearance = _
    rw [appearance_expireTemporary]
    exact appearance_loadState ..
  have hreacted := h.onStateChangeLocked henv hloaded context needUpdateCallback isDarkMode false
    bootLoadFlag
  unfold Service.loadUserSettingData
  dsimp only
  split_ifs
  · exact h.of_appearance hreacted (appearance_initSunriseSunsetMode ..)
  · exact hreacted

theorem timerFired (hs : P s) (callback : TimerCallback) : P (timerFired env s callback) := by
  cases callback with
  | schedule startTime endTime context =>
    change P (s.scheduleTimerCallback env startTime endTime context)
    have htouched : P (s.touchState context) := h.of_eq hs rfl rfl
    unfold scheduleTimerCallback
    split
    · exact htouched
    · exact h.updateDarkModeSchedule henv htouched ..
  | recalculation context =>
    change P (s.recalculationCallback env context)
    unfold recalculationCallback
    split_ifs
    · exact h.of_appearance hs (appearance_calculateAndApplySunriseSunsetTimes ..)
    · exact hs

theorem restartTimer (hs : P s) : P (s.restartTimer env) := by
  have hupdate (s' : Service) (hs' : P s') (startTime endTime : ℤ) (context : AccountContext) :
      P (s'.restartTimerUpdate env startTime endTime context) :=
    h.of_eq (h.updateDarkModeSchedule henv hs' ..) rfl rfl
  have htouched : P (s.touchState s.observedContext) := h.of_eq hs rfl rfl
  unfold Service.restartTimer
  dsimp only
  split
  · exact htouched
  · have hcalculated : P (((s.touchState s.observedContext).calculateAndApplySunriseSunsetTimes env
        s.observedContext).touchState s.observedContext) :=
      h.of_eq (h.of_appearance htouched (appearance_calculateAndApplySunriseSunsetTimes ..))
        rfl rfl
    split
    · exact hcalculated
    · exact hupdate _ hcalculated ..
  · exact hupdate _ htouched ..

theorem screenOffCallback (hs : P s) : P (s.screenOffCallback env) := by
  have hoff : P s.setScreenOff := h.of_eq hs rfl rfl
  unfold Service.screenOffCallback
  dsimp only
  by_cases hpending : s.setScreenOff.screenSwitchOperatorMgr.haveScreenOffOperate = true
  · rw [if_pos hpending]
    exact h.of_eq (h.onChangeDarkMode henv hoff ..) rfl rfl
  · rw [if_neg hpending]
    exact hoff

theorem deliver (hs : P s) (n : ℕ) : P (s.deliver env n) := by
  unfold Service.deliver
  cases s.settingDataManager.inFlight[n]? with
  | none => exact hs
  | some observer =>
    exact h.observerUpdateFunc (s := s.takeNotification n) henv (h.of_eq hs rfl rfl) _ _

end Schedule

section Ability

theorem onSwitchContext (hs : P s) (context : AccountContext) :
    P (s.onSwitchContext env context).1 :=
  h.of_appearance hs (appearance_onSwitchContext ..)

include henv

theorem bootCompletedCallback (hs : P s) : P (s.bootCompletedCallback env) := by
  unfold Service.bootCompletedCallback
  split_ifs
  · exact hs
  · have hbooted : P { s with bootCompleteFlag := true } := h.of_eq hs rfl rfl
    exact h.loadUserSettingData henv (h.onSwitchContext hbooted _) ..

theorem accountContextSwitchFunc (hs : P s) (context : AccountContext) :
    P (s.accountContextSwitchFunc env context) := by
  have hswitched : P (s.onSwitchContext env context).1 := h.onSwitchContext hs context
  have hloaded := h.loadUserSettingData henv hswitched context false false false
  have hmigrated (s' : Service) (hs' : P s') :
      P (if s'.isNeedDoCompatibleProcess then s'.doCompatibleProcess env else s') := by
    split_ifs
    · exact h.migrates s' henv hs'
    · exact hs'
  have hinitialised (s' : Service) (hs' : P s') :
      P (if s'.isInitializationFinished then s' else s'.doInitProcess env) := by
    split_ifs
    · exact hs'
    · exact h.initialises s' henv hs'
  exact h.configures _ _ _ henv
    (h.adopts _ _ _ _ henv (hinitialised _ (hmigrated _ hloaded)))

theorem handleSubProfileSwitched (hs : P s) (userId subProfileId : ℤ) :
    P (s.handleSubProfileSwitched env userId subProfileId) := by
  unfold Service.handleSubProfileSwitched
  split_ifs
  · exact hs
  · exact hs
  · exact h.applies s _ _ henv hs
  · refine List.foldlRecOn _ _ (h.accountContextSwitchFunc henv hs _) fun s' hs' userId' _ => ?_
    split_ifs
    · exact hs'
    · exact h.applies s' _ _ henv hs'

theorem onAddSystemAbility (hs : P s) : P (s.onAddSystemAbility env) := by
  have hmigrated (s' : Service) (hs' : P s') :
      P (if s'.isNeedDoCompatibleProcess && !(getUserIds env .beforeMigration).isEmpty then
        s'.doCompatibleProcess env else s') := by
    split_ifs
    · exact h.migrates s' henv hs'
    · exact hs'
  have hinitialised (s' : Service) (hs' : P s') :
      P (if !s'.isInitializationFinished && !(getUserIds env .beforeInitialization).isEmpty then
        (s'.doInitProcess env).updateCurrentUserConfiguration env
          (.getForegroundContext env (env.foregroundOsAccountLocalId.getD user100)) false
        else s') := by
    split_ifs
    · exact h.configures _ _ _ henv (h.initialises s' henv hs')
    · exact hs'
  exact hinitialised _ (hmigrated _ (h.of_eq hs rfl rfl))

end Ability

/-- Every event is one of these, or leaves the appearance alone. -/
theorem step (hs : P s) (e : Env × Event) (henv : E e.1)
    (hrequest : ∀ r, e.2.request = some r → R e.1 r) : P (s.step e) := by
  obtain ⟨env, event⟩ := e
  cases event with
  | onAddSystemAbility => exact h.onAddSystemAbility henv hs
  | onRemoveSystemAbility => exact h.of_eq hs rfl rfl
  | bootCompleted => exact h.bootCompletedCallback henv hs
  | userSwitched userId => exact h.accountContextSwitchFunc henv hs _
  | subProfileSwitched userId subProfileId => exact h.handleSubProfileSwitched henv hs _ _
  | timeChanged => exact h.restartTimer henv hs
  | screenOn => exact h.of_eq hs rfl rfl
  | screenOff => exact h.screenOffCallback henv hs
  | settingChanged observer => exact h.observerUpdateFunc henv hs observer _
  | delivered n => exact h.deliver henv hs n
  | timerFired callback => exact h.timerFired henv hs callback
  | setDarkMode mode => exact h.requests s (.setDarkMode mode) henv (hrequest _ rfl) hs
  | setFontScale fontScale =>
    exact h.requests s (.setFontScale fontScale) henv (hrequest _ rfl) hs
  | setFontWeightScale fontWeightScale =>
    exact h.requests s (.setFontWeightScale fontWeightScale) henv (hrequest _ rfl) hs
  | setSettingData key value => exact h.of_eq hs rfl rfl
  | loadUserSettingData context needUpdateCallback bootLoadFlag =>
    exact h.loadUserSettingData henv hs context needUpdateCallback false bootLoadFlag
  | settingWritten userId key value => exact h.of_eq hs rfl rfl
  | rebooted => exact h.of_eq (h.reboots s hs) rfl rfl

/-- It holds in every state that a run of such events reaches. -/
theorem exec (hs : P s) {es : Run}
    (hes : Transition.Along Service.step
      (fun _ e => E e.1 ∧ ∀ r, e.2.request = some r → R e.1 r) s es) :
    P (Transition.exec Service.step s es) :=
  Transition.exec_invariant (I := P) (fun _ e hs' hC => h.step hs' e hC.1 hC.2) hs hes

end AppearanceInvariant
end Service
end UiAppearance
