import UiAppearance.Ability.Appearance
import UiAppearance.Ability.ColorCallback
import UiAppearance.Ability.ParameterNames
import UiAppearance.Ability.Simulation

/-!
# The colour that an event applies

A timer callback, a setting notification or the screen going off applies one
colour at most. The colour goes to a user, and from there to whatever contexts
the callback of the ability reaches at that moment.
-/

namespace UiAppearance

namespace Core

variable (k : Core)

/-- The colour that an update applies at once, if it is neither queued nor dropped. -/
def applied (clock : Clock) (isDarkMode : Bool) (context : AccountContext)
    (resetTempColorModeFlag bootLoadFlag : Bool) : Option Bool :=
  if k.hasUpdateCallback && (resetTempColorModeFlag ||
      (k.follows clock context && (k.screen.isScreenOff || bootLoadFlag))) then some isDarkMode
  else none

/-- The colour that a reaction to the settings of a context applies at once. -/
def reacted (env : Env) (context : AccountContext) (resetTempColorModeFlag bootLoadFlag : Bool) :
    Option Bool :=
  if (k.stateOf context).actionable env then
    k.applied env.clock ((k.stateOf context).wantsDark env.clock) context resetTempColorModeFlag
      bootLoadFlag
  else none

/-- The pending colour, which the screen going off applies. -/
def pendingColor : Option Bool :=
  if k.hasUpdateCallback && k.screen.haveScreenOffOperate then
    some k.screen.getScreenOffOperateInfo.1
  else none

end Core

/-- The context that a timer was made for. -/
def TimerCallback.context : TimerCallback → AccountContext
  | schedule _ _ context => context
  | recalculation context => context

namespace Service

variable (env : Env) (s : Service)

/-- What is kept of the colour of a context: its entry, and its parameter. -/
def heldColor (context : AccountContext) : Option UiAppearanceParam × Option String :=
  (s.usersParam context, s.parameters (darkModeParamAssignUser context))

/-- The same once a colour was written there. -/
def recolored (isDarkMode : Bool) (context : AccountContext) :
    Option UiAppearanceParam × Option String :=
  (some { s.paramOf env context with darkMode := .ofColor isDarkMode },
    if env.setParameter (darkModeParamAssignUser context) (colorName isDarkMode) then
      some (colorName isDarkMode)
    else s.parameters (darkModeParamAssignUser context))

/-- What a context holds after a colour, if any, was applied for a user. -/
def heldAfter (userId : ℤ) (context : AccountContext) :
    Option Bool → Option UiAppearanceParam × Option String
  | some isDarkMode =>
    if context ∈ callbackReached env userId then s.recolored env isDarkMode context
    else s.heldColor context
  | none => s.heldColor context

section Fields

variable {s} {s' : Service}

theorem heldColor_of_appearance (h : s'.appearance = s.appearance) (context : AccountContext) :
    s'.heldColor context = s.heldColor context := by
  unfold heldColor
  rw [usersParam_of_appearance h,
    parameters_of_appearance h (not_isTemporaryParam_darkMode context)]

theorem heldAfter_of_appearance (h : s'.appearance = s.appearance) (userId : ℤ)
    (context : AccountContext) (color : Option Bool) :
    s'.heldAfter env userId context color = s.heldAfter env userId context color := by
  unfold heldAfter recolored
  rw [heldColor_of_appearance h, paramOf_of_appearance h,
    parameters_of_appearance h (not_isTemporaryParam_darkMode context)]

end Fields

section Callback

variable (isDarkMode : Bool) (context context' : AccountContext)

theorem heldColor_configurePersistenceOfCallback :
    (s.configurePersistenceOfCallback env isDarkMode context' (colorName isDarkMode)).heldColor
      context =
        if context = context' then s.recolored env isDarkMode context else s.heldColor context := by
  have hparameters : (s.configurePersistenceOfCallback env isDarkMode context'
      (colorName isDarkMode)).parameters =
        if env.setParameter (darkModeParamAssignUser context') (colorName isDarkMode) then
          s.parameters.put (darkModeParamAssignUser context') (colorName isDarkMode)
        else s.parameters := by
    unfold configurePersistenceOfCallback setParameterWrap
    split_ifs <;> rfl
  unfold heldColor
  rw [usersParam_configurePersistenceOfCallback, hparameters]
  split_ifs with hwrite hsame hsame
  · subst hsame
    rw [Table.put_self, Table.put_self]
    unfold recolored
    rw [if_pos hwrite]
  · have hkey : darkModeParamAssignUser context ≠ darkModeParamAssignUser context' :=
      fun heq => hsame ((AppearanceItem.darkMode.paramAssignUser_inj .darkMode ..).mp heq).2
    rw [Table.put_of_ne hsame, Table.put_of_ne hkey]
  · subst hsame
    rw [Table.put_self]
    unfold recolored
    rw [if_neg hwrite]
  · rw [Table.put_of_ne hsame]

/-- Writing a colour again, there or elsewhere, has nothing left to change. -/
theorem recolored_configurePersistenceOfCallback :
    (s.configurePersistenceOfCallback env isDarkMode context' (colorName isDarkMode)).recolored
      env isDarkMode context = s.recolored env isDarkMode context := by
  have hheld := heldColor_configurePersistenceOfCallback env s isDarkMode context context'
  have hnew := newParam_configurePersistenceOfCallback env s isDarkMode context'
    (colorName isDarkMode)
  have husers := congrArg Prod.fst hheld
  have hparameters := congrArg Prod.snd hheld
  dsimp only [heldColor] at husers hparameters
  unfold recolored paramOf Table.valueAt
  rw [hnew, husers, hparameters]
  by_cases hsame : context = context'
  · simp only [if_pos hsame, recolored, paramOf, Table.valueAt]
    split_ifs <;> rfl
  · rw [if_neg hsame]

theorem heldColor_configurePersistenceOfCallbacks (contexts : List AccountContext) :
    (contexts.foldl (fun s context => s.configurePersistenceOfCallback env isDarkMode context
      (colorName isDarkMode)) s).heldColor context =
        if context ∈ contexts then s.recolored env isDarkMode context else s.heldColor context := by
  induction contexts generalizing s with
  | nil => rfl
  | cons first rest ih =>
    rw [List.foldl_cons, ih, recolored_configurePersistenceOfCallback,
      heldColor_configurePersistenceOfCallback]
    by_cases hrest : context ∈ rest
    · rw [if_pos hrest, if_pos (List.mem_cons_of_mem first hrest)]
    · rw [if_neg hrest]
      simp [List.mem_cons, hrest]

/-- The body of the callback writes its colour to the contexts it reaches, and to no other one. -/
theorem heldColor_updateDarkModeCallback (userId : ℤ) :
    (s.updateDarkModeCallback env isDarkMode userId).heldColor context =
      s.heldAfter env userId context (some isDarkMode) := by
  have husers := usersParam_callbackSent env s isDarkMode userId
  have hnew := newParam_callbackSent env s isDarkMode userId
  have hparameter : (s.callbackSent env isDarkMode userId).parameters
      (darkModeParamAssignUser context) = s.parameters (darkModeParamAssignUser context) := by
    have hsent : (s.updateConfiguration env { colorMode := some (colorName isDarkMode) } userId
        (getMultipleUsers env)).1.parameters = s.parameters := by
      unfold updateConfiguration
      dsimp only
      split_ifs <;> rfl
    have hglobal : darkModeParamAssignUser context ≠ persistDarkmodeKey :=
      AppearanceItem.darkMode.paramAssignUser_ne_globalParam .darkMode context
    rw [← hsent]
    exact parameters_setParameterWrap_of_ne env _ hglobal _
  rw [updateDarkModeCallback_eq]
  unfold heldAfter callbackReached
  split_ifs with haccepted hreached hreached
  · rw [heldColor_configurePersistenceOfCallbacks, if_pos hreached]
    unfold recolored paramOf
    rw [husers, hnew, hparameter]
  · rw [heldColor_configurePersistenceOfCallbacks, if_neg hreached]
    unfold heldColor
    rw [husers, hparameter]
  · exact absurd hreached List.not_mem_nil
  · rfl

end Callback

section Reaction

variable (context : AccountContext) (context' : AccountContext)

theorem heldColor_onChangeDarkMode (mode : DarkModeMode) :
    (s.onChangeDarkMode env mode context').heldColor context =
      s.heldAfter env context'.userId context
        (if s.hasUpdateCallback then some (decide (mode = .alwaysDark)) else none) := by
  unfold onChangeDarkMode
  dsimp only
  cases s.hasUpdateCallback with
  | false => rfl
  | true =>
    have hcallback := heldColor_updateDarkModeCallback env
      (s.emit (.updateCallback (mode = .alwaysDark) context')) (mode = .alwaysDark) context
      context'.userId
    have hemit : (s.emit (.updateCallback (mode = .alwaysDark) context')).appearance =
        s.appearance := rfl
    rw [heldAfter_of_appearance env hemit] at hcallback
    simp only [Bool.not_true, Bool.false_eq_true, if_false, if_true]
    split_ifs
    · rw [heldColor_of_appearance (appearance_setColorModeNormal ..)]
      exact hcallback
    · exact hcallback

theorem heldColor_updateDarkModeSchedule (mode : DarkModeMode)
    (resetTempColorModeFlag bootLoadFlag : Bool) :
    (s.updateDarkModeSchedule env mode context' resetTempColorModeFlag bootLoadFlag).heldColor
      context =
        s.heldAfter env context'.userId context (s.core.applied env.clock (mode = .alwaysDark)
          context' resetTempColorModeFlag bootLoadFlag) := by
  have hreset : s.resetScreenOffOperateInfo.appearance = s.appearance := rfl
  have hchange := heldColor_onChangeDarkMode env s.resetScreenOffOperateInfo context context' mode
  rw [heldAfter_of_appearance env hreset] at hchange
  have hfollows : s.resetScreenOffOperateInfo.followsSchedule env context' =
      s.core.follows env.clock context' := followsSchedule_eq env s context'
  have hscreen : s.resetScreenOffOperateInfo.screenSwitchOperatorMgr.isScreenOff =
      s.core.screen.isScreenOff := rfl
  have hcallback : s.resetScreenOffOperateInfo.hasUpdateCallback = s.core.hasUpdateCallback := rfl
  rw [hcallback] at hchange
  unfold updateDarkModeSchedule Core.applied
  dsimp only
  rw [hfollows, hscreen]
  cases resetTempColorModeFlag with
  | true => simpa using hchange
  | false =>
    cases s.core.follows env.clock context' with
    | false => cases s.core.screen.isScreenOff || bootLoadFlag <;> simp [heldAfter] <;> rfl
    | true =>
      cases s.core.screen.isScreenOff || bootLoadFlag with
      | true => simpa using hchange
      | false =>
        simp only [Bool.false_eq_true, if_false, if_true, Bool.and_false, Bool.or_false]
        rfl

theorem heldColor_onStateChangeToAllDayMode
    (isDarkMode resetTempColorModeFlag bootLoadFlag : Bool) :
    (s.onStateChangeToAllDayMode env context' (.ofColor isDarkMode) true resetTempColorModeFlag
      bootLoadFlag).service.heldColor context =
        s.heldAfter env context'.userId context (s.core.applied env.clock isDarkMode context'
          resetTempColorModeFlag bootLoadFlag) := by
  have hscheduled := heldColor_updateDarkModeSchedule env ((s.clearRecalculationTimer env
    context').clearTimerByContext env context') context context' (.ofColor isDarkMode)
    resetTempColorModeFlag bootLoadFlag
  rw [ofColor_eq_alwaysDark] at hscheduled
  exact hscheduled

theorem heldColor_onStateChangeToCustomAutoMode (state : DarkModeState)
    (hmode : state.settingMode.isSchedule = true)
    (isDarkMode resetTempColorModeFlag bootLoadFlag : Bool) :
    (s.onStateChangeToCustomAutoMode env context' state true isDarkMode resetTempColorModeFlag
      bootLoadFlag).service.heldColor context =
        s.heldAfter env context'.userId context (if state.actionable env then
          s.core.applied env.clock (state.wantsDark env.clock) context' resetTempColorModeFlag
            bootLoadFlag
          else none) := by
  have hok := createOrUpdateTimers_ok_iff env s context' hmode
  have hwants := DarkModeState.wantsDark_of_isSchedule env.clock hmode
  have hscheduled := heldColor_updateDarkModeSchedule env (s.createOrUpdateTimers env
    state.scheduleTime.1 state.scheduleTime.2 context').1 context context'
    (.ofColor (state.wantsDark env.clock)) resetTempColorModeFlag bootLoadFlag
  rw [ofColor_eq_alwaysDark] at hscheduled
  unfold onStateChangeToCustomAutoMode
  dsimp only
  by_cases hactionable : state.actionable env = true
  · rw [if_pos (hok.mpr hactionable), if_pos hactionable]
    rw [hwants] at hscheduled ⊢
    exact hscheduled
  · rw [if_neg (hok.not.mpr hactionable), if_neg hactionable]
    rfl

/-- A reaction to the settings holds for the contexts reached what it applies. -/
theorem heldColor_onStateChangeLocked (isDarkMode resetTempColorModeFlag bootLoadFlag : Bool) :
    (s.onStateChangeLocked env context' true isDarkMode resetTempColorModeFlag
      bootLoadFlag).service.heldColor context =
        s.heldAfter env context'.userId context
          (s.core.reacted env context' resetTempColorModeFlag bootLoadFlag) := by
  have htouch : (s.touchState context').appearance = s.appearance := rfl
  have hallDay (isDarkMode : Bool) : ((s.touchState context').onStateChangeToAllDayMode env
      context' (.ofColor isDarkMode) true resetTempColorModeFlag bootLoadFlag).service.heldColor
        context = s.heldAfter env context'.userId context (s.core.applied env.clock isDarkMode
          context' resetTempColorModeFlag bootLoadFlag) := by
    rw [heldColor_onStateChangeToAllDayMode, core_touchState, heldAfter_of_appearance env htouch]
  have hschedule (hmode : (s.stateOf context').settingMode.isSchedule = true) :
      ((s.touchState context').onStateChangeToCustomAutoMode env context' (s.stateOf context') true
        isDarkMode resetTempColorModeFlag bootLoadFlag).service.heldColor context =
        s.heldAfter env context'.userId context (if (s.stateOf context').actionable env then
          s.core.applied env.clock ((s.stateOf context').wantsDark env.clock) context'
            resetTempColorModeFlag bootLoadFlag
          else none) := by
    rw [heldColor_onStateChangeToCustomAutoMode env (s.touchState context') context context' _
      hmode, core_touchState, heldAfter_of_appearance env htouch]
  have hstate : s.core.stateOf context' = s.stateOf context' := rfl
  unfold Core.reacted
  rw [hstate]
  unfold onStateChangeLocked
  dsimp only
  cases hmode : (s.stateOf context').settingMode with
  | invalid => simp [DarkModeState.actionable, hmode, heldAfter]; rfl
  | alwaysLight =>
    rw [DarkModeState.actionable_of_allDay env false hmode,
      DarkModeState.wantsDark_of_allDay env.clock false hmode]
    exact hallDay false
  | alwaysDark =>
    rw [DarkModeState.actionable_of_allDay env true hmode,
      DarkModeState.wantsDark_of_allDay env.clock true hmode]
    exact hallDay true
  | customAuto => exact hschedule (by rw [hmode]; rfl)
  | sunriseSunset => exact hschedule (by rw [hmode]; rfl)

end Reaction

section Events

variable (context : AccountContext)

/-- The colour that a setting notification applies. -/
def observedColor (observer : DarkModeObserver) (key : String) : Option Bool :=
  (s.core.setState observer.context (s.observerState env observer key)).reacted env
    observer.context observer.item.resets false

theorem heldColor_observerUpdateFunc (observer : DarkModeObserver) (key : String) :
    (s.observerUpdateFunc env observer key).heldColor context =
      s.heldAfter env observer.context.userId context (s.observedColor env observer key) := by
  have hreacted (state : DarkModeState) (resetTempColorModeFlag : Bool) :
      ((s.setState observer.context state).onStateChangeLocked env observer.context true false
        resetTempColorModeFlag false).service.heldColor context =
          s.heldAfter env observer.context.userId context
            ((s.core.setState observer.context state).reacted env observer.context
              resetTempColorModeFlag false) := by
    have hstored : (s.setState observer.context state).appearance = s.appearance := rfl
    rw [heldColor_onStateChangeLocked, core_setState, heldAfter_of_appearance env hstored]
  unfold observedColor observerUpdateFunc observerState
  cases observer.item with
  | mode =>
    have hlocked := hreacted { s.stateOf observer.context with
      settingMode := .ofInt (s.settingValue env key observer.context (-1)) } true
    dsimp only
    unfold settingDataDarkModeModeUpdateFunc settingDataDarkModeModeLocked
    dsimp only
    split_ifs
    · rw [heldColor_of_appearance (appearance_initSunriseSunsetMode ..)]
      exact hlocked
    · exact hlocked
  | startTime => exact hreacted _ true
  | endTime => exact hreacted _ true
  | sunset => exact hreacted _ false
  | sunrise => exact hreacted _ false

/-- The colour that a timer callback applies. -/
def firedColor : TimerCallback → Option Bool
  | .schedule startTime endTime context =>
    (s.checkTimerCallbackParams env startTime endTime context).bind fun colorMode =>
      s.core.applied env.clock (colorMode = .alwaysDark) context false false
  | .recalculation _ => none

theorem heldColor_timerFired (callback : TimerCallback) :
    (timerFired env s callback).heldColor context =
      s.heldAfter env callback.context.userId context (s.firedColor env callback) := by
  cases callback with
  | recalculation context' =>
    refine heldColor_of_appearance ?_ context
    change (s.recalculationCallback env context').appearance = _
    unfold recalculationCallback
    split_ifs
    · exact appearance_calculateAndApplySunriseSunsetTimes ..
    · rfl
  | schedule startTime endTime context' =>
    have htouch : (s.touchState context').appearance = s.appearance := rfl
    change (s.scheduleTimerCallback env startTime endTime context').heldColor context = _
    dsimp only [scheduleTimerCallback, firedColor]
    cases s.checkTimerCallbackParams env startTime endTime context' with
    | none => rfl
    | some colorMode =>
      dsimp only
      rw [heldColor_updateDarkModeSchedule, core_touchState, heldAfter_of_appearance env htouch]
      rfl

/-- The colour that a change of the time applies: that of the observed context, in a schedule
mode. -/
def restartedColor : Option Bool :=
  if (s.stateOf s.observedContext).settingMode.isSchedule then
    s.core.applied env.clock ((s.stateOf s.observedContext).wantsDark env.clock) s.observedContext
      false false
  else none

theorem heldColor_restartTimerUpdate (context' : AccountContext) (startTime endTime : ℤ) :
    (s.restartTimerUpdate env startTime endTime context').heldColor context =
      s.heldAfter env context'.userId context (s.core.applied env.clock
        (DarkModeState.within env.clock (startTime, endTime)) context' false false) := by
  have hscheduled := heldColor_updateDarkModeSchedule env s context context'
    (.ofColor (DarkModeState.within env.clock (startTime, endTime))) false false
  rw [ofColor_eq_alwaysDark] at hscheduled
  exact hscheduled

theorem heldColor_restartTimer :
    (s.restartTimer env).heldColor context =
      s.heldAfter env s.observedContext.userId context (s.restartedColor env) := by
  have htouch : (s.touchState s.observedContext).appearance = s.appearance := rfl
  have hcalculated : (((s.touchState s.observedContext).calculateAndApplySunriseSunsetTimes env
      s.observedContext).touchState s.observedContext).appearance = s.appearance :=
    appearance_calculateAndApplySunriseSunsetTimes ..
  unfold restartedColor restartTimer restartTimerRead restartTimerReread
  cases hm : (s.stateOf s.observedContext).settingMode with
  | customAuto =>
    have hupdate := heldColor_restartTimerUpdate env (s.touchState s.observedContext) context
      s.observedContext (s.stateOf s.observedContext).scheduleTime.1
      (s.stateOf s.observedContext).scheduleTime.2
    rw [heldAfter_of_appearance env htouch, core_touchState] at hupdate
    simp only [stateOf_touchState, hm, DarkModeMode.isSchedule, DarkModeState.wantsDark]
    exact hupdate
  | sunriseSunset =>
    have hupdate := heldColor_restartTimerUpdate env (((s.touchState
      s.observedContext).calculateAndApplySunriseSunsetTimes env s.observedContext).touchState
        s.observedContext) context s.observedContext
      (s.stateOf s.observedContext).scheduleTime.1 (s.stateOf s.observedContext).scheduleTime.2
    rw [heldAfter_of_appearance env hcalculated, core_touchState,
      core_calculateAndApplySunriseSunsetTimes, core_touchState] at hupdate
    have htimes : (s.stateOf s.observedContext).scheduleTime =
        ((s.stateOf s.observedContext).settingSunsetTime,
          (s.stateOf s.observedContext).settingSunriseTime) := if_pos hm
    rw [htimes] at hupdate
    simp only [stateOf_touchState, stateOf_calculateAndApplySunriseSunsetTimes, hm,
      DarkModeMode.isSchedule, DarkModeState.wantsDark, htimes]
    exact hupdate
  | _ =>
    simp only [stateOf_touchState, hm, DarkModeMode.isSchedule]
    exact heldColor_of_appearance htouch context

theorem heldColor_screenOffCallback :
    (s.screenOffCallback env).heldColor context =
      s.heldAfter env s.screenSwitchOperatorMgr.getScreenOffOperateInfo.2 context
        s.core.pendingColor := by
  have hcolor (switchToDark : Bool) : decide ((if switchToDark then DarkModeMode.alwaysDark
      else DarkModeMode.alwaysLight) = .alwaysDark) = switchToDark := by
    cases switchToDark <;> rfl
  have hoff : s.setScreenOff.appearance = s.appearance := rfl
  unfold screenOffCallback Core.pendingColor
  dsimp only
  by_cases hpending : s.setScreenOff.screenSwitchOperatorMgr.haveScreenOffOperate = true
  · have hcore : s.core.screen.haveScreenOffOperate = true := hpending
    rw [if_pos hpending, hcore, Bool.and_true]
    refine (heldColor_onChangeDarkMode ..).trans ?_
    rw [heldAfter_of_appearance env hoff, hcolor]
    rfl
  · have hcore : s.core.screen.haveScreenOffOperate = false := Bool.eq_false_iff.mpr hpending
    rw [if_neg hpending, hcore, Bool.and_false]
    rfl

end Events

end Service
end UiAppearance
