import UiAppearance.DarkMode.Simulation
import UiAppearance.Foundations.Transition

/-!
# Callbacks in steps

The callbacks of the screen, the timers, a restart and the mode observer hold no
lock from one of their steps to the next, so other threads may run in between.
The steps are listed here; without interruption they amount to the functions.
-/

namespace UiAppearance

/-- What `ScreenOffCallback` does next. -/
inductive ScreenOffPhase where
  | setScreenOff
  | haveScreenOffOperate
  | getScreenOffOperateInfo
  | onChangeDarkMode (switchToDark : Bool) (userId : ℤ)
  | resetScreenOffOperateInfo
  deriving DecidableEq

/-- What `UpdateDarkModeSchedule` does next when no override is to be ended and no boot is
going on. -/
inductive UpdatePhase where
  | resetScreenOffOperateInfo
  | isScreenOff
  | onChangeDarkMode
  | setScreenOffOperateInfo
  deriving DecidableEq

/-- What the callback of a schedule timer does next. -/
inductive TimerPhase where
  | checkTimerCallbackParams
  | updateDarkModeSchedule (colorMode : DarkModeMode)
  deriving DecidableEq

/-- What `RestartTimer` does next. -/
inductive RestartPhase where
  | read
  | calculateAndApplySunriseSunsetTimes
  | reread
  | isWithinTimeInterval (startTime endTime : ℤ)
  | updateDarkModeSchedule (colorMode : DarkModeMode)
  | restartAllTimer
  deriving DecidableEq

/-- What the observer of the mode does next. -/
inductive ModePhase where
  | getInt32ValueStrictly
  | locked (value : ℤ)
  | recalculation (value : ℤ)
  deriving DecidableEq

namespace Service

variable (env : Env) (s : Service)

def timerStep (startTime endTime : ℤ) (context : AccountContext) :
    TimerPhase → Service × Option TimerPhase
  | .checkTimerCallbackParams =>
    (s.touchState context, (s.checkTimerCallbackParams env startTime endTime context).map
      .updateDarkModeSchedule)
  | .updateDarkModeSchedule colorMode =>
    (s.updateDarkModeSchedule env colorMode context false false, none)

def restartStep (context : AccountContext) : RestartPhase → Service × Option RestartPhase
  | .read =>
    (s.touchState context,
      match s.restartTimerRead context with
      | none => none
      | some (.sunriseSunset, _) => some .calculateAndApplySunriseSunsetTimes
      | some (_, times) => some (.isWithinTimeInterval times.1 times.2))
  | .calculateAndApplySunriseSunsetTimes =>
    (s.calculateAndApplySunriseSunsetTimes env context, some .reread)
  | .reread =>
    (s.touchState context,
      (s.restartTimerReread context).map fun times => .isWithinTimeInterval times.1 times.2)
  | .isWithinTimeInterval startTime endTime =>
    (s, some (.updateDarkModeSchedule (.ofColor (AlarmTimerManager.isWithinTimeInterval env.clock
      (toUInt64 startTime) (toUInt64 endTime)))))
  | .updateDarkModeSchedule colorMode =>
    (s.updateDarkModeSchedule env colorMode context false false, some .restartAllTimer)
  | .restartAllTimer => (s.setTimers (s.alarmTimerManager.restartAllTimer env).1, none)

def modeStep (key : String) (context : AccountContext) : ModePhase → Service × Option ModePhase
  | .getInt32ValueStrictly =>
    (s, some (.locked (s.settingValue env key context DarkModeMode.invalid.toInt)))
  | .locked value => (s.settingDataDarkModeModeLocked env value context, some (.recalculation value))
  | .recalculation value =>
    (if DarkModeMode.ofInt value = .sunriseSunset then s.initSunriseSunsetMode env context
      else s.clearRecalculationTimer env context, none)

def screenOffStep : ScreenOffPhase → Service × Option ScreenOffPhase
  | .setScreenOff => (s.setScreenOff, some .haveScreenOffOperate)
  | .haveScreenOffOperate =>
    (s, if s.screenSwitchOperatorMgr.haveScreenOffOperate then some .getScreenOffOperateInfo
      else none)
  | .getScreenOffOperateInfo =>
    let info := s.screenSwitchOperatorMgr.getScreenOffOperateInfo
    (s, some (.onChangeDarkMode info.1 info.2))
  | .onChangeDarkMode switchToDark userId =>
    (s.onChangeDarkMode env (if switchToDark then .alwaysDark else .alwaysLight)
      (.createBaseContext userId), some .resetScreenOffOperateInfo)
  | .resetScreenOffOperateInfo => (s.resetScreenOffOperateInfo, none)

def updateStep (mode : DarkModeMode) (context : AccountContext) :
    UpdatePhase → Service × Option UpdatePhase
  | .resetScreenOffOperateInfo => (s.resetScreenOffOperateInfo, some .isScreenOff)
  | .isScreenOff =>
    (s, some (if s.screenSwitchOperatorMgr.isScreenOff then .onChangeDarkMode
      else .setScreenOffOperateInfo))
  | .onChangeDarkMode =>
    (if s.followsSchedule env context then s.onChangeDarkMode env mode context else s, none)
  | .setScreenOffOperateInfo =>
    (if s.followsSchedule env context then
        s.setScreenOffOperateInfo (mode = .alwaysDark) context
      else s, none)

end Service

namespace Core

variable (k : Core)

def screenOffStep : ScreenOffPhase → Core
  | .setScreenOff => { k with screen := k.screen.setScreenOff }
  | .haveScreenOffOperate => k
  | .getScreenOffOperateInfo => k
  | .onChangeDarkMode switchToDark userId => k.change switchToDark (.createBaseContext userId)
  | .resetScreenOffOperateInfo => k.reset

def updateStep (clock : Clock) (isDarkMode : Bool) (context : AccountContext) :
    UpdatePhase → Core
  | .resetScreenOffOperateInfo => k.reset
  | .isScreenOff => k
  | .onChangeDarkMode => if k.follows clock context then k.change isDarkMode context else k
  | .setScreenOffOperateInfo => if k.follows clock context then k.queue isDarkMode context else k

end Core

namespace Service

variable (env : Env) (s : Service)

@[simp] theorem core_screenOffStep (phase : ScreenOffPhase) :
    (s.screenOffStep env phase).1.core = s.core.screenOffStep phase := by
  cases phase with
  | onChangeDarkMode switchToDark userId =>
    cases switchToDark <;> simp [screenOffStep, Core.screenOffStep]
  | setScreenOff => rfl
  | haveScreenOffOperate => rfl
  | getScreenOffOperateInfo => rfl
  | resetScreenOffOperateInfo => rfl

@[simp] theorem core_updateStep (mode : DarkModeMode) (context : AccountContext)
    (phase : UpdatePhase) :
    (s.updateStep env mode context phase).1.core =
      s.core.updateStep env.clock (mode = .alwaysDark) context phase := by
  cases phase with
  | resetScreenOffOperateInfo => rfl
  | isScreenOff => rfl
  | onChangeDarkMode =>
    simp only [updateStep, Core.updateStep, followsSchedule_eq]
    split_ifs <;> simp
  | setScreenOffOperateInfo =>
    simp only [updateStep, Core.updateStep, followsSchedule_eq]
    split_ifs <;> simp

theorem core_timerStep (startTime endTime : ℤ) (context : AccountContext) (phase : TimerPhase) :
    (s.timerStep env startTime endTime context phase).1.core =
      match phase with
      | .checkTimerCallbackParams => s.core
      | .updateDarkModeSchedule colorMode =>
        s.core.update env.clock (colorMode = .alwaysDark) context false false := by
  cases phase <;> simp [timerStep]

theorem core_restartStep (context : AccountContext) (phase : RestartPhase) :
    (s.restartStep env context phase).1.core =
      match phase with
      | .updateDarkModeSchedule colorMode =>
        s.core.update env.clock (colorMode = .alwaysDark) context false false
      | _ => s.core := by
  cases phase <;> simp [restartStep]

/-- The locked step of the observer changes the mode and acts on it. -/
theorem core_modeStep (key : String) (context : AccountContext) (phase : ModePhase) :
    (s.modeStep env key context phase).1.core =
      match phase with
      | .locked value => s.core.observe env .mode context
          { s.stateOf context with settingMode := .ofInt value }
      | _ => s.core := by
  cases phase with
  | getInt32ValueStrictly => rfl
  | locked value => simp [modeStep, settingDataDarkModeModeLocked, Core.observe, SettingItem.resets]
  | recalculation value =>
    simp only [modeStep]
    split_ifs <;> simp

/-- The steps of one thread that nobody interrupts. -/
def alone {α : Type} (f : Service → α → Service × Option α) (r : Service × Option α) (_ : Unit) :
    Service × Option α :=
  match r.2 with
  | none => r
  | some phase => f r.1 phase

theorem screenOffCallback_alone :
    Transition.exec (alone (screenOffStep env)) (s, some .setScreenOff) (List.replicate 5 ()) =
      (s.screenOffCallback env, none) := by
  unfold screenOffCallback
  dsimp only
  by_cases hhave : s.setScreenOff.screenSwitchOperatorMgr.haveScreenOffOperate = true
  · rw [if_pos hhave]
    simp [Transition.exec, alone, screenOffStep, List.replicate, hhave]
  · rw [if_neg hhave]
    simp [Transition.exec, alone, screenOffStep, List.replicate, hhave]

theorem updateDarkModeSchedule_alone (mode : DarkModeMode) (context : AccountContext) :
    Transition.exec (alone fun s => updateStep env s mode context)
        (s, some .resetScreenOffOperateInfo) (List.replicate 3 ()) =
      (s.updateDarkModeSchedule env mode context false false, none) := by
  unfold updateDarkModeSchedule
  dsimp only
  by_cases hoff : s.resetScreenOffOperateInfo.screenSwitchOperatorMgr.isScreenOff = true
  · simp [Transition.exec, alone, updateStep, List.replicate, hoff]
  · simp [Transition.exec, alone, updateStep, List.replicate, hoff]

theorem scheduleTimerCallback_alone (startTime endTime : ℤ) (context : AccountContext) :
    Transition.exec (alone fun s => timerStep env s startTime endTime context)
        (s, some .checkTimerCallbackParams) (List.replicate 2 ()) =
      (s.scheduleTimerCallback env startTime endTime context, none) := by
  unfold scheduleTimerCallback
  cases hcheck : s.checkTimerCallbackParams env startTime endTime context with
  | none => simp [Transition.exec, alone, timerStep, List.replicate, hcheck]
  | some colorMode => simp [Transition.exec, alone, timerStep, List.replicate, hcheck]

/-- The steps that remain once the times are known. -/
theorem restartTimerUpdate_alone (startTime endTime : ℤ) (context : AccountContext) :
    Transition.exec (alone fun s => restartStep env s context)
        (s, some (.isWithinTimeInterval startTime endTime)) (List.replicate 3 ()) =
      (s.restartTimerUpdate env startTime endTime context, none) := rfl

theorem restartTimer_alone :
    Transition.exec (alone fun s' => restartStep env s' s.observedContext) (s, some .read)
        (List.replicate 6 ()) = (s.restartTimer env, none) := by
  unfold restartTimer
  generalize s.observedContext = context
  have hread : (s.touchState context).restartTimerRead context = s.restartTimerRead context := by
    simp [restartTimerRead]
  have hreread (s' : Service) :
      (s'.touchState context).restartTimerReread context = s'.restartTimerReread context := by
    simp [restartTimerReread]
  dsimp only
  rw [hread]
  change Transition.exec _ (restartStep env s context .read) (List.replicate 5 ()) = _
  cases hfound : s.restartTimerRead context with
  | none => simp [Transition.exec, alone, restartStep, List.replicate, hfound]
  | some r =>
    obtain ⟨mode, times⟩ := r
    by_cases hmode : mode = .sunriseSunset
    · subst hmode
      simp only [restartStep, hfound]
      change Transition.exec _ (restartStep env ((s.touchState context).calculateAndApplySunriseSunsetTimes
        env context) context .reread) (List.replicate 3 ()) = _
      rw [hreread]
      simp only [restartStep]
      cases ((s.touchState context).calculateAndApplySunriseSunsetTimes env
        context).restartTimerReread context with
      | none => rfl
      | some times => exact restartTimerUpdate_alone env _ times.1 times.2 context
    · simp only [restartStep, hfound]
      cases mode with
      | sunriseSunset => exact absurd rfl hmode
      | invalid => rfl
      | alwaysLight => rfl
      | alwaysDark => rfl
      | customAuto => rfl

theorem settingDataDarkModeModeUpdateFunc_alone (key : String) (context : AccountContext) :
    Transition.exec (alone fun s => modeStep env s key context)
        (s, some .getInt32ValueStrictly) (List.replicate 3 ()) =
      (s.settingDataDarkModeModeUpdateFunc env key context, none) := rfl

end Service
end UiAppearance
