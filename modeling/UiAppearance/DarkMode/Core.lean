import UiAppearance.DarkMode.Frames
import UiAppearance.Foundations.DailyInterval

/-!
# What decides the colour

`Core` is an abstract model of the service: the settings in memory, the
override of each context, the screen with its pending operation, and the calls
made so far. Its operations say what the component is for, a schedule that is
followed unless an override is effective and that waits for the screen to go
off. Every operation of the service on the colour is one of them seen through
`Service.core`.
-/

namespace UiAppearance

namespace TempColorModeInfo

def isTemporary (info : TempColorModeInfo) : Bool := info.tempColorMode = .colorModeTemp

/-- A recorded override that the clock is strictly inside of. -/
def effective (clock : Clock) (info : TempColorModeInfo) : Bool :=
  info.isTemporary && !clock.failed &&
    decide (info.keepTemporaryStateStartTime < clock.timestamp) &&
    decide (clock.timestamp < info.keepTemporaryStateEndTime)

theorem effective_isTemporary {clock : Clock} {info : TempColorModeInfo}
    (h : info.effective clock = true) : info.isTemporary = true := by
  simp only [effective, Bool.and_eq_true] at h
  exact h.1.1.1

end TempColorModeInfo

namespace DarkModeState

/-- The pair of bounds is accepted by the timers. -/
def accepted (state : DarkModeState) : Bool :=
  AlarmTimerManager.isValidScheduleTime (toUInt64 state.scheduleTime.1)
    (toUInt64 state.scheduleTime.2)

/-- Whether a state can be acted upon: an all-day mode, or a schedule whose timers can be set. -/
def actionable (env : Env) (state : DarkModeState) : Bool :=
  match state.settingMode with
  | .alwaysLight => true
  | .alwaysDark => true
  | .invalid => false
  | _ => state.accepted && AlarmTimerManager.canCreate env .start &&
      AlarmTimerManager.canCreate env .finish

/-- Whether the clock is inside the pair of bounds. -/
def within (clock : Clock) (times : ℤ × ℤ) : Bool :=
  AlarmTimerManager.isWithinTimeInterval clock (toUInt64 times.1) (toUInt64 times.2)

/-- Bounds that are not negative mean the interval of the day that they spell. -/
theorem within_eq_covers {clock : Clock} {times : ℤ × ℤ} (hread : clock.failed = false)
    (hstart : 0 ≤ times.1 ∧ IsInt32 times.1) (hend : 0 ≤ times.2 ∧ IsInt32 times.2) :
    within clock times = DailyInterval.covers times clock.minuteOfDay := by
  unfold within AlarmTimerManager.isWithinTimeInterval DailyInterval.covers
    AlarmTimerManager.dayToMinute
  rw [toUInt64_of_nonneg hstart.1 hstart.2, toUInt64_of_nonneg hend.1 hend.2, hread,
    if_neg (by decide)]
  rw [Bool.eq_iff_iff]
  by_cases hday : times.2 ≤ 1440
  · have hday' : times.2.toNat ≤ 1440 := by omega
    simp only [hday, hday', if_true, Bool.and_eq_true, decide_eq_true_eq]
    omega
  · have hday' : ¬times.2.toNat ≤ 1440 := by omega
    simp only [hday, hday', if_false, Bool.not_eq_true', Bool.and_eq_false_iff,
      decide_eq_false_iff_not]
    omega

/-- The colour a state asks for at this moment. -/
def wantsDark (clock : Clock) (state : DarkModeState) : Bool :=
  match state.settingMode with
  | .alwaysLight => false
  | .alwaysDark => true
  | _ => within clock state.scheduleTime

section Modes

variable {state : DarkModeState}

theorem wantsDark_of_isSchedule (clock : Clock) (h : state.settingMode.isSchedule = true) :
    state.wantsDark clock = within clock state.scheduleTime := by
  unfold wantsDark
  cases hmode : state.settingMode with
  | alwaysLight =>
    rw [hmode] at h
    cases h
  | alwaysDark =>
    rw [hmode] at h
    cases h
  | _ => rfl

theorem actionable_of_allDay (env : Env) (isDarkMode : Bool)
    (h : state.settingMode = .ofColor isDarkMode) : state.actionable env = true := by
  unfold actionable
  rw [h]
  cases isDarkMode <;> rfl

theorem wantsDark_of_allDay (clock : Clock) (isDarkMode : Bool)
    (h : state.settingMode = .ofColor isDarkMode) : state.wantsDark clock = isDarkMode := by
  unfold wantsDark
  rw [h]
  cases isDarkMode <;> rfl

theorem armed_of_actionable {env : Env} (h : state.actionable env = true)
    (hmode : state.settingMode.isSchedule = true) : state.accepted = true ∧
      AlarmTimerManager.canCreate env .start = true ∧
      AlarmTimerManager.canCreate env .finish = true := by
  unfold actionable at h
  rw [← and_assoc, ← Bool.and_eq_true, ← Bool.and_eq_true]
  cases hm : state.settingMode <;> rw [hm] at h hmode
  case customAuto => exact h
  case sunriseSunset => exact h
  all_goals cases hmode

/-- Without a schedule whose timers can be set, only the two all-day modes can be acted upon. -/
theorem allDay_of_actionable {env : Env} (h : state.actionable env = true)
    (hunarmed : state.settingMode.isSchedule = true → state.accepted = false ∨
      AlarmTimerManager.canCreate env .start = false ∨
      AlarmTimerManager.canCreate env .finish = false) :
    state.settingMode = .ofColor (state.wantsDark env.clock) := by
  have hschedule (hmode : state.settingMode.isSchedule = true) : False := by
    obtain ⟨haccepted, hstart, hfinish⟩ := armed_of_actionable h hmode
    rcases hunarmed hmode with hrejected | hmissing | hmissing
    · exact Bool.false_ne_true (hrejected.symm.trans haccepted)
    · exact Bool.false_ne_true (hmissing.symm.trans hstart)
    · exact Bool.false_ne_true (hmissing.symm.trans hfinish)
  unfold wantsDark
  cases hm : state.settingMode with
  | invalid =>
    unfold actionable at h
    rw [hm] at h
    cases h
  | alwaysLight => rfl
  | alwaysDark => rfl
  | customAuto => exact (hschedule (by rw [hm]; rfl)).elim
  | sunriseSunset => exact (hschedule (by rw [hm]; rfl)).elim

end Modes

end DarkModeState

/-- Configurations sent to the application manager follow from a decision and are none. -/
def Effect.isDecision : Effect → Bool
  | .updateConfiguration .. => false
  | _ => true

structure Core where
  stateOf : AccountContext → DarkModeState
  overrideOf : AccountContext → TempColorModeInfo
  screen : ScreenSwitchOperatorManager
  decisions : List Effect
  hasUpdateCallback : Bool

namespace Core

variable (k : Core)

def reset : Core := { k with screen := k.screen.resetScreenOffOperateInfo }

def setState (context : AccountContext) (state : DarkModeState) : Core :=
  { k with stateOf := Function.update k.stateOf context state }

def setOverride (context : AccountContext) (info : TempColorModeInfo) : Core :=
  { k with overrideOf := Function.update k.overrideOf context info }

def emit (effect : Effect) : Core := { k with decisions := effect :: k.decisions }

/-- Any override of the context ends. -/
def normal (context : AccountContext) : Core :=
  if (k.overrideOf context).isTemporary then k.setOverride context {} else k

/-- Apply a colour now. -/
def change (isDarkMode : Bool) (context : AccountContext) : Core :=
  if k.hasUpdateCallback then (k.emit (.updateCallback isDarkMode context)).normal context else k

/-- Leave a colour for the moment the screen goes off. -/
def queue (isDarkMode : Bool) (context : AccountContext) : Core :=
  { k with screen := k.screen.setScreenOffOperateInfo isDarkMode context.userId }.emit
    (.setScreenOffOperateInfo isDarkMode context (k.stateOf context))

def follows (clock : Clock) (context : AccountContext) : Bool :=
  !(k.overrideOf context).effective clock

/-- A colour that a schedule or a setting asks for: applied, queued, or dropped. -/
def update (clock : Clock) (isDarkMode : Bool) (context : AccountContext)
    (resetTempColorModeFlag bootLoadFlag : Bool) : Core :=
  if resetTempColorModeFlag then k.reset.change isDarkMode context
  else if !k.follows clock context then k.reset
  else if k.screen.isScreenOff || bootLoadFlag then k.reset.change isDarkMode context
  else k.reset.queue isDarkMode context

/-- Bring the colour in line with the settings of a context. -/
def react (env : Env) (context : AccountContext)
    (needUpdateCallback resetTempColorModeFlag bootLoadFlag : Bool) : Core :=
  if needUpdateCallback && (k.stateOf context).actionable env then
    k.update env.clock ((k.stateOf context).wantsDark env.clock) context resetTempColorModeFlag
      bootLoadFlag
  else k

def screenOn : Core := { k with screen := k.screen.setScreenOn }

/-- The pending colour, if any, is applied to the account the cell names. -/
def screenOff : Core :=
  let k := { k with screen := k.screen.setScreenOff }
  if k.screen.haveScreenOffOperate then
    (k.change k.screen.getScreenOffOperateInfo.1
      (.createBaseContext k.screen.getScreenOffOperateInfo.2)).reset
  else k

/-- The record of an override made now against the given bounds. -/
def overrideRecord (clock : Clock) (times : ℤ × ℤ) (oldEnd : ℤ) : TempColorModeInfo :=
  let window := TemporaryColorMode.getTempColorModeTimeInfo clock times.1 times.2 oldEnd
  ⟨.colorModeTemp, window.1, window.2⟩

/-- A manual choice starts an override exactly when it goes against the schedule. -/
def choose (clock : Clock) (context : AccountContext) (isDarkMode : Bool) : Core :=
  let times := (k.stateOf context).scheduleTime
  if !(k.stateOf context).settingMode.isSchedule then k
  else if DarkModeState.within clock times = isDarkMode then k.reset.setOverride context {}
  else
    (k.reset.setOverride context (overrideRecord clock times
      (k.overrideOf context).keepTemporaryStateEndTime)).emit
      (.setColorModeTemporary isDarkMode context)

section Fields

variable (context : AccountContext) (isDarkMode : Bool)

@[simp] theorem stateOf_normal : (k.normal context).stateOf = k.stateOf := by
  unfold normal
  split_ifs <;> rfl

@[simp] theorem screen_normal : (k.normal context).screen = k.screen := by
  unfold normal
  split_ifs <;> rfl

@[simp] theorem decisions_normal : (k.normal context).decisions = k.decisions := by
  unfold normal
  split_ifs <;> rfl

@[simp] theorem stateOf_change : (k.change isDarkMode context).stateOf = k.stateOf := by
  unfold change
  split_ifs
  · rw [stateOf_normal]
    rfl
  · rfl

@[simp] theorem screen_change : (k.change isDarkMode context).screen = k.screen := by
  unfold change
  split_ifs
  · rw [screen_normal]
    rfl
  · rfl

@[simp] theorem hasUpdateCallback_normal :
    (k.normal context).hasUpdateCallback = k.hasUpdateCallback := by
  unfold normal
  split_ifs <;> rfl

@[simp] theorem hasUpdateCallback_change :
    (k.change isDarkMode context).hasUpdateCallback = k.hasUpdateCallback := by
  unfold change
  split_ifs
  · rw [hasUpdateCallback_normal]
    rfl
  · rfl

theorem decisions_change (h : k.hasUpdateCallback = true) :
    (k.change isDarkMode context).decisions =
      .updateCallback isDarkMode context :: k.decisions := by
  unfold change
  rw [if_pos h, decisions_normal]
  rfl

variable (clock : Clock) (resetTempColorModeFlag bootLoadFlag : Bool)

@[simp] theorem stateOf_update :
    (k.update clock isDarkMode context resetTempColorModeFlag bootLoadFlag).stateOf =
      k.stateOf := by
  unfold update
  split_ifs
  · exact stateOf_change k.reset context isDarkMode
  · rfl
  · exact stateOf_change k.reset context isDarkMode
  · rfl

@[simp] theorem hasUpdateCallback_update :
    (k.update clock isDarkMode context resetTempColorModeFlag bootLoadFlag).hasUpdateCallback =
      k.hasUpdateCallback := by
  unfold update
  split_ifs
  · exact hasUpdateCallback_change k.reset context isDarkMode
  · rfl
  · exact hasUpdateCallback_change k.reset context isDarkMode
  · rfl

variable (env : Env) (needUpdateCallback : Bool)

@[simp] theorem stateOf_react :
    (k.react env context needUpdateCallback resetTempColorModeFlag bootLoadFlag).stateOf =
      k.stateOf := by
  unfold react
  split_ifs
  · exact stateOf_update ..
  · rfl

@[simp] theorem hasUpdateCallback_react :
    (k.react env context needUpdateCallback resetTempColorModeFlag
      bootLoadFlag).hasUpdateCallback = k.hasUpdateCallback := by
  unfold react
  split_ifs
  · exact hasUpdateCallback_update ..
  · rfl

@[simp] theorem stateOf_choose :
    (k.choose clock context isDarkMode).stateOf = k.stateOf := by
  unfold choose
  dsimp only
  split_ifs <;> rfl

@[simp] theorem hasUpdateCallback_choose :
    (k.choose clock context isDarkMode).hasUpdateCallback = k.hasUpdateCallback := by
  unfold choose
  dsimp only
  split_ifs <;> rfl

end Fields

end Core

namespace Service

/-- The abstract state behind the service. -/
def core (s : Service) : Core where
  stateOf := s.stateOf
  overrideOf := s.tempInfoOf
  screen := s.screenSwitchOperatorMgr
  decisions := s.trace.filter Effect.isDecision
  hasUpdateCallback := s.hasUpdateCallback

variable (env : Env) (s : Service) (context : AccountContext)

/-- The same data in the places the abstract state looks at. -/
theorem core_eq {s s' : Service} (hstates : s'.stateOf = s.stateOf)
    (htemp : s'.tempInfoOf = s.tempInfoOf)
    (hscreen : s'.screenSwitchOperatorMgr = s.screenSwitchOperatorMgr)
    (htrace : s'.trace.filter Effect.isDecision = s.trace.filter Effect.isDecision)
    (hcallback : s'.hasUpdateCallback = s.hasUpdateCallback) : s'.core = s.core := by
  simp only [core, hstates, htemp, hscreen, htrace, hcallback]

section Neutral

@[simp] theorem core_touchState : (s.touchState context).core = s.core :=
  core_eq (funext fun _ => stateOf_touchState ..) rfl rfl rfl rfl

@[simp] theorem core_setTimers (timers : AlarmTimerManager TimerCallback) :
    (s.setTimers timers).core = s.core := rfl

@[simp] theorem core_withSettings (r : SettingDataManager DarkModeObserver × ErrCode) :
    (s.withSettings r).core = s.core := rfl

@[simp] theorem core_setParameterWrap (paramName value : String) :
    (s.setParameterWrap env paramName value).core = s.core := by
  unfold setParameterWrap
  split_ifs <;> rfl

@[simp] theorem core_setDarkModeOf (mode : DarkMode) :
    (s.setDarkModeOf env context mode).core = s.core := rfl

@[simp] theorem core_updateConfiguration (config : Configuration) (userId : ℤ)
    (effectiveUserIds : List ℤ) :
    (s.updateConfiguration env config userId effectiveUserIds).1.core = s.core := by
  unfold updateConfiguration
  dsimp only
  split_ifs <;> rfl

@[simp] theorem core_configurePersistenceOfCallback (isDarkMode : Bool) (paramValue : String) :
    (s.configurePersistenceOfCallback env isDarkMode context paramValue).core = s.core := by
  simp [configurePersistenceOfCallback]

/-- The body of the callback works on the data of the ability only. -/
@[simp] theorem core_updateDarkModeCallback (isDarkMode : Bool) (userId : ℤ) :
    (s.updateDarkModeCallback env isDarkMode userId).core = s.core := by
  unfold updateDarkModeCallback
  dsimp only
  split_ifs
  · simp
  · rw [frame_foldl _ core]
    · simp
    · intro s' effectiveUserId
      simp
  · simp

@[simp] theorem core_saveTempColorModeInfo :
    (s.saveTempColorModeInfo env context).core = s.core := by
  have htouch : ({ s with multiUserTempColorModeMap :=
      s.multiUserTempColorModeMap.touch context {} } : Service).core = s.core :=
    core_eq rfl (funext fun _ => Table.valueAt_touch) rfl rfl rfl
  unfold saveTempColorModeInfo
  dsimp only
  split_ifs <;> simp only [core_setParameterWrap, htouch]

end Neutral

section Operations

theorem core_emit {effect : Effect} (h : effect.isDecision = true) :
    (s.emit effect).core = s.core.emit effect := by
  unfold core Core.emit emit
  rw [List.filter_cons_of_pos h]
  rfl

@[simp] theorem core_resetScreenOffOperateInfo :
    s.resetScreenOffOperateInfo.core = s.core.reset := rfl

@[simp] theorem core_setState (state : DarkModeState) :
    (s.setState context state).core = s.core.setState context state := by
  have hstates : (s.setState context state).stateOf =
      Function.update s.stateOf context state := by
    funext context'
    by_cases h : context' = context
    · subst h
      simp
    · rw [stateOf_setState_of_ne _ _ h, Function.update_of_ne h]
  simp only [core, Core.setState, hstates]
  rfl

@[simp] theorem core_setTempInfo (info : TempColorModeInfo) :
    (s.setTempInfo context info).core = s.core.setOverride context info := by
  have htemp : (s.setTempInfo context info).tempInfoOf =
      Function.update s.tempInfoOf context info := by
    funext context'
    by_cases h : context' = context
    · subst h
      simp [tempInfoOf, setTempInfo]
    · rw [Function.update_of_ne h]
      exact Table.valueAt_put_of_ne h
  simp only [core, Core.setOverride, htemp]
  rfl

@[simp] theorem core_setColorModeNormal :
    (s.setColorModeNormal env context).core = s.core.setOverride context {} := by
  simp [setColorModeNormal]

theorem isColorModeTemporary_eq :
    s.isColorModeTemporary context = (s.core.overrideOf context).isTemporary := by
  change _ = (s.tempInfoOf context).isTemporary
  unfold isColorModeTemporary tempInfoOf
  cases h : s.multiUserTempColorModeMap context with
  | none => simp [Table.valueAt_of_none h, TempColorModeInfo.isTemporary]
  | some info => simp [Table.valueAt_of_some h, TempColorModeInfo.isTemporary]

theorem isColorModeNormal_eq :
    s.isColorModeNormal context = !(s.core.overrideOf context).isTemporary := by
  change _ = !(s.tempInfoOf context).isTemporary
  unfold isColorModeNormal tempInfoOf
  cases h : s.multiUserTempColorModeMap context with
  | none => simp [Table.valueAt_of_none h, TempColorModeInfo.isTemporary]
  | some info =>
    simp only [Table.valueAt_of_some h, TempColorModeInfo.isTemporary]
    cases info.tempColorMode <;> rfl

theorem checkTemporaryStateEffective_eq :
    s.checkTemporaryStateEffective env context = (s.core.overrideOf context).effective env.clock := by
  change _ = (s.tempInfoOf context).effective env.clock
  unfold checkTemporaryStateEffective tempInfoOf
  cases h : s.multiUserTempColorModeMap context with
  | none => simp [Table.valueAt_of_none h, TempColorModeInfo.effective, TempColorModeInfo.isTemporary]
  | some info => simp [Table.valueAt_of_some h, TempColorModeInfo.effective, TempColorModeInfo.isTemporary]

/-- The two tests before a schedule is followed amount to one: no override is effective. -/
theorem followsSchedule_eq :
    s.followsSchedule env context = s.core.follows env.clock context := by
  unfold followsSchedule Core.follows
  rw [isColorModeNormal_eq, checkTemporaryStateEffective_eq]
  cases heff : (s.core.overrideOf context).effective env.clock with
  | false => simp
  | true => simp [TempColorModeInfo.effective_isTemporary heff]

@[simp] theorem core_onChangeDarkMode (mode : DarkModeMode) :
    (s.onChangeDarkMode env mode context).core = s.core.change (mode = .alwaysDark) context := by
  have hcore : ((s.emit (.updateCallback (mode = .alwaysDark) context)).updateDarkModeCallback env
      (mode = .alwaysDark) context.userId).core =
      s.core.emit (.updateCallback (mode = .alwaysDark) context) := by
    rw [core_updateDarkModeCallback, core_emit _ rfl]
  have hcb : s.core.hasUpdateCallback = s.hasUpdateCallback := rfl
  unfold onChangeDarkMode Core.change Core.normal
  dsimp only
  rw [isColorModeTemporary_eq, hcore, hcb]
  cases s.hasUpdateCallback with
  | false => rfl
  | true =>
    simp only [Bool.not_true, Bool.false_eq_true, if_false, if_true]
    split_ifs
    · rw [core_setColorModeNormal, hcore]
    · exact hcore

@[simp] theorem core_setScreenOffOperateInfo (switchToDark : Bool) :
    (s.setScreenOffOperateInfo switchToDark context).core = s.core.queue switchToDark context := by
  unfold setScreenOffOperateInfo
  rw [core_emit _ rfl]
  rfl

@[simp] theorem core_updateDarkModeSchedule (mode : DarkModeMode)
    (resetTempColorModeFlag bootLoadFlag : Bool) :
    (s.updateDarkModeSchedule env mode context resetTempColorModeFlag bootLoadFlag).core =
      s.core.update env.clock (mode = .alwaysDark) context resetTempColorModeFlag
        bootLoadFlag := by
  have hfollows : s.resetScreenOffOperateInfo.followsSchedule env context =
      s.core.follows env.clock context := followsSchedule_eq env s context
  have hscreen : s.resetScreenOffOperateInfo.screenSwitchOperatorMgr.isScreenOff =
      s.core.screen.isScreenOff := rfl
  unfold updateDarkModeSchedule Core.update
  dsimp only
  rw [hfollows, hscreen]
  cases resetTempColorModeFlag <;> cases s.core.follows env.clock context <;>
    cases s.core.screen.isScreenOff || bootLoadFlag <;> simp

@[simp] theorem core_screenOffCallback : (s.screenOffCallback env).core = s.core.screenOff := by
  have hcolor (switchToDark : Bool) : decide ((if switchToDark then DarkModeMode.alwaysDark
      else DarkModeMode.alwaysLight) = .alwaysDark) = switchToDark := by
    cases switchToDark <;> rfl
  unfold screenOffCallback
  dsimp only
  by_cases hhave : s.setScreenOff.screenSwitchOperatorMgr.haveScreenOffOperate = true
  · rw [if_pos hhave, core_resetScreenOffOperateInfo, core_onChangeDarkMode, hcolor]
    exact (if_pos hhave).symm
  · rw [if_neg hhave]
    exact (if_neg hhave).symm

end Operations
end Service
end UiAppearance
