import UiAppearance.Ability.Callbacks
import UiAppearance.Ability.Simulation

/-!
# What a run does to states and timers

The settings in memory and the alarm timers change in four ways only: an
observer runs, a context is loaded, the timers of a context are cleared, or all
of them are restarted. What these preserve, and what holds of a fresh process,
holds in every state of every run.
-/

namespace UiAppearance
namespace Service

/-- Every state stays as it is, up to default entries that a subscript leaves behind. -/
structure KeepsStates (s s' : Service) : Prop where
  stateOf : s'.stateOf = s.stateOf
  isSome : ∀ context, (s.darkModeStates context).isSome = true →
    (s'.darkModeStates context).isSome = true

section Keeping

variable {s s' s'' : Service}

theorem keepsStates_of_eq (h : s'.darkModeStates = s.darkModeStates) : KeepsStates s s' := by
  constructor
  · unfold Service.stateOf
    rw [h]
  · rw [h]
    exact fun _ => id

theorem KeepsStates.trans (h : KeepsStates s s') (h' : KeepsStates s' s'') : KeepsStates s s'' :=
  ⟨h'.stateOf.trans h.stateOf, fun context hsome => h'.isSome context (h.isSome context hsome)⟩

theorem keepsStates_of_frame (h : s'.beyondSchedule = s.beyondSchedule) : KeepsStates s s' :=
  keepsStates_of_eq (darkModeStates_of_frame h)

end Keeping

section Operations

variable (env : Env) (s : Service) (context : AccountContext)

theorem keepsStates_touchState : KeepsStates s (s.touchState context) := by
  refine ⟨funext fun context' => stateOf_touchState .., fun context' hsome => ?_⟩
  change (s.darkModeStates.touch context {} context').isSome = true
  by_cases hsame : context' = context
  · subst hsame
    rw [Table.touch_self]
    rfl
  · rwa [Table.touch_of_ne hsame]

theorem keepsStates_calculateAndApplySunriseSunsetTimes :
    KeepsStates s (s.calculateAndApplySunriseSunsetTimes env context) :=
  keepsStates_of_eq (darkModeStates_calculateAndApplySunriseSunsetTimes ..)

theorem keepsStates_timerFired (callback : TimerCallback) :
    KeepsStates s (timerFired env s callback) := by
  cases callback with
  | schedule startTime endTime context =>
    change KeepsStates s (s.scheduleTimerCallback env startTime endTime context)
    have htouched := keepsStates_touchState s context
    unfold scheduleTimerCallback
    split
    · exact htouched
    · exact htouched.trans (keepsStates_of_frame (beyondSchedule_updateDarkModeSchedule ..))
  | recalculation context =>
    change KeepsStates s (s.recalculationCallback env context)
    unfold recalculationCallback
    split_ifs
    · exact keepsStates_calculateAndApplySunriseSunsetTimes ..
    · exact keepsStates_of_eq rfl

theorem keepsStates_restartTimer : KeepsStates s (s.restartTimer env) := by
  have hupdate (s' : Service) (startTime endTime : ℤ) (context : AccountContext) :
      KeepsStates s' (s'.restartTimerUpdate env startTime endTime context) :=
    keepsStates_of_frame (s := s') (beyondSchedule_updateDarkModeSchedule ..)
  have htouched := keepsStates_touchState s s.observedContext
  unfold restartTimer
  dsimp only
  split
  · exact htouched
  · have hcalculated := (htouched.trans (keepsStates_calculateAndApplySunriseSunsetTimes env _
      s.observedContext)).trans (keepsStates_touchState _ s.observedContext)
    split
    · exact hcalculated
    · exact hcalculated.trans (hupdate ..)
  · exact htouched.trans (hupdate ..)

theorem keepsStates_screenOffCallback : KeepsStates s (s.screenOffCallback env) := by
  have hchange (mode : DarkModeMode) (context : AccountContext) :
      KeepsStates s (s.setScreenOff.onChangeDarkMode env mode context) :=
    keepsStates_of_frame (beyondSchedule_onChangeDarkMode ..)
  unfold screenOffCallback
  dsimp only
  by_cases hpending : s.setScreenOff.screenSwitchOperatorMgr.haveScreenOffOperate = true
  · rw [if_pos hpending]
    exact (hchange ..).trans (keepsStates_of_eq rfl)
  · rw [if_neg hpending]
    exact keepsStates_of_eq rfl

theorem keepsStates_doSwitchTemporaryColorMode (isDarkMode : Bool) :
    KeepsStates s (s.doSwitchTemporaryColorMode env context isDarkMode) := by
  have htouched := keepsStates_touchState s context
  unfold doSwitchTemporaryColorMode
  dsimp only
  split_ifs
  · have hreset : KeepsStates s (s.touchState context).resetScreenOffOperateInfo :=
      htouched.trans (keepsStates_of_eq rfl)
    split
    · exact hreset
    · split_ifs
      · exact hreset.trans (keepsStates_of_frame (beyondSchedule_setColorModeNormal ..))
      · exact hreset.trans ((keepsStates_of_frame (beyondSchedule_setColorModeTemporary ..)).trans
          (keepsStates_of_eq rfl))
  · exact htouched

theorem keepsStates_notifyDarkModeUpdate (isDarkMode : Bool) :
    KeepsStates s (s.notifyDarkModeUpdate env context isDarkMode) := by
  have htouched := keepsStates_touchState s context
  unfold notifyDarkModeUpdate
  dsimp only
  split_ifs <;> exact htouched.trans (keepsStates_of_eq rfl)

theorem keepsStates_configurePersistence (mode : DarkMode) (paramValue : String) :
    KeepsStates s (s.configurePersistence env context mode paramValue).1 := by
  have hpersist : KeepsStates s (s.persistColor env context mode paramValue) := by
    refine (keepsStates_doSwitchTemporaryColorMode env s context (mode = .alwaysDark)).trans ?_
    exact keepsStates_of_frame (beyondSchedule_setParameterWrap ..)
  unfold configurePersistence
  dsimp only
  split_ifs
  · exact hpersist
  · exact hpersist.trans (keepsStates_notifyDarkModeUpdate ..)

theorem keepsStates_configurePersistenceAll (mode : DarkMode) (paramValue : String)
    (contexts : List AccountContext) :
    KeepsStates s (configurePersistenceAll env mode paramValue contexts s).1 := by
  induction contexts generalizing s with
  | nil => exact keepsStates_of_eq rfl
  | cons context rest ih =>
    have hfirst := keepsStates_configurePersistence env s context mode paramValue
    unfold configurePersistenceAll
    dsimp only
    split_ifs
    · exact hfirst
    · exact hfirst.trans (ih _)

theorem keepsStates_setDarkMode (mode : ℤ) : KeepsStates s (s.setDarkMode env mode).1 := by
  unfold setDarkMode onSetDarkMode
  dsimp only
  split_ifs
  · exact keepsStates_of_eq rfl
  · exact keepsStates_of_eq rfl
  · exact keepsStates_of_eq rfl
  · exact keepsStates_of_frame (beyondSchedule_updateConfiguration ..)
  · refine KeepsStates.trans (keepsStates_of_frame ?_)
      (keepsStates_configurePersistenceAll env _ _ _ _)
    rw [beyondSchedule_setParameterWrap, beyondSchedule_updateConfiguration]

end Operations

/-- A property of the states and timers that each of the four ways preserves. -/
structure ScheduleInvariant (P : Service → Prop) : Prop where
  congr : ∀ {s s' : Service}, P s → KeepsStates s s' →
    s'.alarmTimerManager = s.alarmTimerManager → P s'
  observes : ∀ (env : Env) (s : Service) (observer : DarkModeObserver) (key : String), P s →
    P (s.observerUpdateFunc env observer key)
  loads : ∀ (env : Env) (s : Service) (context : AccountContext)
    (needUpdateCallback isDarkMode bootLoadFlag : Bool), P s →
    P (s.loadUserSettingData env context needUpdateCallback isDarkMode bootLoadFlag).service
  clears : ∀ (env : Env) (s : Service) (context : AccountContext), P s →
    P (s.clearTimerByContext env context)
  restarts : ∀ (env : Env) (s : Service), P s →
    P (s.setTimers (s.alarmTimerManager.restartAllTimer env).1)
  starts : ∀ parameters tables, P (start parameters tables)

namespace ScheduleInvariant

variable {P : Service → Prop} (h : ScheduleInvariant P) {env : Env} {s : Service}
  {context : AccountContext}

include h

theorem of_eq {s' : Service} (hs : P s) (hstates : s'.darkModeStates = s.darkModeStates)
    (htimers : s'.alarmTimerManager = s.alarmTimerManager) : P s' :=
  h.congr hs (keepsStates_of_eq hstates) htimers

theorem of_beyondAbility {s' : Service} (heq : s'.beyondAbility = s.beyondAbility) (hs : P s) :
    P s' := by
  refine h.of_eq hs ?_ (alarmTimerManager_of_beyondAbility heq)
  change s'.beyondAbility.darkModeStates = _
  rw [heq]
  rfl

theorem onSwitchContext (hs : P s) : P (s.onSwitchContext env context).1 := by
  have hrelease (s' : Service) (hs' : P s') : P (s'.releaseObservedContext env) := by
    unfold releaseObservedContext
    dsimp only
    split_ifs
    · exact h.of_eq hs' rfl rfl
    · exact h.of_eq (h.clears env s' s'.observedContext hs') rfl rfl
  have hwith : P (s.withSettings (s.settingDataManager.initializeManager env)) :=
    h.of_eq hs rfl rfl
  unfold Service.onSwitchContext
  dsimp only
  split_ifs
  · exact hwith
  · exact hwith
  · exact h.of_eq (hrelease _ hwith) rfl rfl

theorem accountContextSwitchFunc (hs : P s) : P (s.accountContextSwitchFunc env context) := by
  have hswitched : P (s.onSwitchContext env context).1 := h.onSwitchContext hs
  have hloaded := h.loads env _ context false false false hswitched
  exact h.of_beyondAbility (beyondAbility_accountContextSwitchFunc env s context) hloaded

theorem handleSubProfileSwitched (hs : P s) (userId subProfileId : ℤ) :
    P (s.handleSubProfileSwitched env userId subProfileId) := by
  unfold Service.handleSubProfileSwitched
  split_ifs
  · exact hs
  · exact hs
  · exact h.of_beyondAbility (by simp) hs
  · refine h.of_beyondAbility (frame_foldl _ Service.beyondAbility (fun s' userId' => ?_) _)
      (h.accountContextSwitchFunc hs)
    split_ifs
    · rfl
    · simp

theorem deliver (hs : P s) (n : ℕ) : P (s.deliver env n) := by
  unfold Service.deliver
  cases s.settingDataManager.inFlight[n]? with
  | none => exact hs
  | some observer => exact h.observes env (s.takeNotification n) _ _ (h.of_eq hs rfl rfl)

theorem bootCompletedCallback (hs : P s) : P (s.bootCompletedCallback env) := by
  unfold Service.bootCompletedCallback
  split_ifs
  · exact hs
  · exact h.loads env _ _ true false true
      (h.onSwitchContext (s := { s with bootCompleteFlag := true }) (h.of_eq hs rfl rfl))

theorem restartTimer (hs : P s) : P (s.restartTimer env) := by
  have hstates := keepsStates_restartTimer env s
  have htimers := alarmTimerManager_restartTimer env s
  split_ifs at htimers
  · refine h.congr (h.restarts env s hs) ⟨hstates.stateOf, hstates.isSome⟩ htimers
  · exact h.congr hs hstates htimers

theorem screenOffCallback (hs : P s) : P (s.screenOffCallback env) := by
  refine h.congr hs (keepsStates_screenOffCallback env s) ?_
  unfold Service.screenOffCallback
  dsimp only
  by_cases hpending : s.setScreenOff.screenSwitchOperatorMgr.haveScreenOffOperate = true
  · rw [if_pos hpending]
    exact alarmTimerManager_onChangeDarkMode ..
  · rw [if_neg hpending]
    rfl

/-- Every event does one of these things, or none. -/
theorem step (hs : P s) (e : Env × Event) : P (s.step e) := by
  obtain ⟨env, event⟩ := e
  cases event with
  | onAddSystemAbility =>
    exact h.of_beyondAbility (beyondAbility_onAddSystemAbility env s) (h.of_eq hs rfl rfl)
  | onRemoveSystemAbility => exact h.of_eq hs rfl rfl
  | bootCompleted => exact h.bootCompletedCallback hs
  | userSwitched userId => exact h.accountContextSwitchFunc hs
  | subProfileSwitched userId subProfileId => exact h.handleSubProfileSwitched hs ..
  | timeChanged => exact h.restartTimer hs
  | screenOn => exact h.of_eq hs rfl rfl
  | screenOff => exact h.screenOffCallback hs
  | settingChanged observer => exact h.observes env s observer _ hs
  | delivered n => exact h.deliver hs n
  | timerFired callback =>
    exact h.congr hs (keepsStates_timerFired env s callback)
      (alarmTimerManager_timerFired env s callback)
  | setDarkMode mode =>
    exact h.congr hs (keepsStates_setDarkMode env s mode) (alarmTimerManager_setDarkMode env s mode)
  | setFontScale fontScale =>
    exact h.of_beyondAbility (beyondAbility_setFont env s fontScaleProperty fontScale) hs
  | setFontWeightScale fontWeightScale =>
    exact h.of_beyondAbility (beyondAbility_setFont env s fontWeightScaleProperty fontWeightScale)
      hs
  | setSettingData key value => exact h.of_eq hs rfl rfl
  | loadUserSettingData context needUpdateCallback bootLoadFlag =>
    exact h.loads env s context needUpdateCallback false bootLoadFlag hs
  | settingWritten userId key value => exact h.of_eq hs rfl rfl
  | rebooted =>
    exact h.of_eq (h.starts s.parameters s.settingDataManager.tables) rfl rfl

/-- It holds in every state that a run reaches. -/
theorem exec (parameters : Table String String) (tables : ℤ → Table String String) (es : Run) :
    P (Transition.exec Service.step (start parameters tables) es) :=
  Transition.exec_invariant (I := P) (C := fun _ _ => True) (fun _ e hs _ => h.step hs e)
    (h.starts parameters tables) (Transition.along_of_forall fun _ _ => trivial)

end ScheduleInvariant

theorem isValidScheduleTime_of_accepted {state : DarkModeState} {startTime endTime : ℤ}
    (htimes : state.scheduleTime = (startTime, endTime)) (h : state.accepted = true) :
    AlarmTimerManager.isValidScheduleTime (toUInt64 startTime) (toUInt64 endTime) = true := by
  unfold DarkModeState.accepted at h
  rwa [htimes] at h

/-- A reaction hands over accepted bounds, and nothing else adds a callback. -/
theorem accepting_invariant : ScheduleInvariant Accepting where
  congr h _ htimers := by
    unfold Accepting
    rw [htimers]
    exact h
  observes env s observer key h := by
    intro startTime endTime context hcalls
    rcases calls_observerUpdateFunc hcalls with hbefore | ⟨-, -, htimes, haccepted⟩
    · exact h _ _ _ hbefore
    · exact isValidScheduleTime_of_accepted htimes haccepted
  loads env s context needUpdateCallback isDarkMode bootLoadFlag h := by
    intro startTime endTime context' hcalls
    rcases calls_loadUserSettingData hcalls with hbefore | ⟨-, -, htimes, haccepted⟩
    · exact h _ _ _ hbefore
    · exact isValidScheduleTime_of_accepted htimes haccepted
  clears env s context h := fun startTime endTime context' hcalls =>
    h _ _ _ (AlarmTimerManager.calls_clearTimerByUserId hcalls)
  restarts env s h := fun startTime endTime context hcalls =>
    h _ _ _ (AlarmTimerManager.calls_restartAllTimer hcalls)
  starts parameters tables := by
    rintro startTime endTime context ⟨id, timer, htimer, -⟩
    cases htimer

theorem Accepting.step {s : Service} (h : s.Accepting) (e : Env × Event) : (s.step e).Accepting :=
  accepting_invariant.step h e

end Service
end UiAppearance
