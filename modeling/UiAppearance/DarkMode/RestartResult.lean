import UiAppearance.DarkMode.Timers
import UiAppearance.Schedule.RestartCalls

/-!
# What `RestartTimer` returns

The return type is `ErrCode`, and what is returned in the end is the `bool` of
`RestartAllTimer`.
-/

namespace UiAppearance

/-- The value of `ERR_OK`. -/
def errOk : ℤ := 0

/-- A `bool` where an `ErrCode` is asked for. -/
def errCodeOfBool (b : Bool) : ℤ := if b then 1 else 0

/-- The timers that `RestartTimer` starts, and the code it returns. -/
structure RestartResult where
  starts : AlarmTimerManager.Starts
  code : ℤ
  deriving DecidableEq

/-- The bounds that the timers of a state are set for. -/
def DarkModeState.timerBounds (state : DarkModeState) : ℕ × ℕ :=
  (toUInt64 state.scheduleTime.1, toUInt64 state.scheduleTime.2)

namespace Service

variable (env : Env) (s : Service)

def restartTimerUpdateResult (startTime endTime : ℤ) (context : AccountContext) :
    RestartResult :=
  let within := AlarmTimerManager.isWithinTimeInterval env.clock (toUInt64 startTime)
    (toUInt64 endTime)
  let s := s.updateDarkModeSchedule env (.ofColor within) context false false
  ⟨(s.alarmTimerManager.restartStarts env).1,
    errCodeOfBool (s.alarmTimerManager.restartAllTimer env).2⟩

/-- Returns where `restartTimer` does, and nothing is started on the early paths. -/
def restartTimerResult : RestartResult :=
  let currentContext := s.observedContext
  let s := s.touchState currentContext
  match s.restartTimerRead currentContext with
  | none => ⟨[], errOk⟩
  | some (.sunriseSunset, _) =>
    let s := (s.calculateAndApplySunriseSunsetTimes env currentContext).touchState currentContext
    match s.restartTimerReread currentContext with
    | none => ⟨[], errOk⟩
    | some times => s.restartTimerUpdateResult env times.1 times.2 currentContext
  | some (_, times) => s.restartTimerUpdateResult env times.1 times.2 currentContext

theorem restartTimerUpdateResult_eq (startTime endTime : ℤ) (context : AccountContext) :
    s.restartTimerUpdateResult env startTime endTime context =
      ⟨(s.alarmTimerManager.restartStarts env).1,
        errCodeOfBool (s.alarmTimerManager.restartAllTimer env).2⟩ := by
  unfold restartTimerUpdateResult
  dsimp only
  rw [alarmTimerManager_updateDarkModeSchedule]

/-- In a schedule mode every path ends with the restart. -/
theorem restartTimerResult_eq :
    s.restartTimerResult env =
      if (s.stateOf s.observedContext).settingMode.isSchedule then
        ⟨(s.alarmTimerManager.restartStarts env).1,
          errCodeOfBool (s.alarmTimerManager.restartAllTimer env).2⟩
      else ⟨[], errOk⟩ := by
  unfold restartTimerResult restartTimerRead restartTimerReread
  cases hm : (s.stateOf s.observedContext).settingMode with
  | invalid => simp only [stateOf_touchState, hm]; rfl
  | alwaysLight => simp only [stateOf_touchState, hm]; rfl
  | alwaysDark => simp only [stateOf_touchState, hm]; rfl
  | customAuto =>
    simp only [stateOf_touchState, hm, DarkModeMode.isSchedule]
    exact restartTimerUpdateResult_eq ..
  | sunriseSunset =>
    simp only [stateOf_touchState, stateOf_calculateAndApplySunriseSunsetTimes, hm,
      DarkModeMode.isSchedule]
    have htimers : ((calculateAndApplySunriseSunsetTimes env (s.touchState s.observedContext)
        s.observedContext).touchState s.observedContext).alarmTimerManager =
        s.alarmTimerManager := alarmTimerManager_calculateAndApplySunriseSunsetTimes ..
    change restartTimerUpdateResult .. = _
    rw [restartTimerUpdateResult_eq, htimers]
    rfl

/-- These are the timers that `restartTimer` starts. -/
theorem alarmTimerManager_restartTimer_eq :
    (s.restartTimer env).alarmTimerManager =
      s.alarmTimerManager.startAll (s.restartTimerResult env).starts := by
  rw [alarmTimerManager_restartTimer, restartTimerResult_eq]
  split_ifs
  · rw [AlarmTimerManager.restartAllTimer_eq]
  · rfl

section Records

variable {env} {context : AccountContext} {m : AlarmTimerManager TimerCallback}
  {state : DarkModeState}

/-- A schedule mode leaves its own bounds for the key, or nothing. -/
theorem records_scheduleTimers :
    (scheduleTimers env context m state.scheduleTime).records = Function.update m.records
        context.buildTimerKey (some state.timerBounds, true) ∨
      (scheduleTimers env context m state.scheduleTime).records = Function.update m.records
        context.buildTimerKey (none, false) := by
  have hset : (m.setScheduleTime env (toUInt64 state.scheduleTime.1)
      (toUInt64 state.scheduleTime.2) context.buildTimerKey
      (TimerCallback.schedule state.scheduleTime.1 state.scheduleTime.2 context)
      (.schedule state.scheduleTime.1 state.scheduleTime.2 context)).1.records =
      if AlarmTimerManager.isValidScheduleTime (toUInt64 state.scheduleTime.1)
        (toUInt64 state.scheduleTime.2) then
        Function.update m.records context.buildTimerKey (some state.timerBounds, true)
      else m.records := AlarmTimerManager.records_setScheduleTime
  unfold scheduleTimers
  dsimp only
  by_cases hok : (m.setScheduleTime env (toUInt64 state.scheduleTime.1)
      (toUInt64 state.scheduleTime.2) context.buildTimerKey
      (TimerCallback.schedule state.scheduleTime.1 state.scheduleTime.2 context)
      (.schedule state.scheduleTime.1 state.scheduleTime.2 context)).2 = .ok
  · rw [if_pos hok, hset, if_pos (AlarmTimerManager.setScheduleTime_ok_iff.mp hok).1]
    exact .inl rfl
  · rw [if_neg hok, AlarmTimerManager.records_clearTimerByUserId, hset]
    refine .inr ?_
    split_ifs
    · exact Function.update_idem ..
    · rfl

/-- What a reaction leaves for its key: in no mode, what was there. -/
theorem records_timersFor (env : Env) (context : AccountContext)
    (m : AlarmTimerManager TimerCallback) (state : DarkModeState) :
    (state.settingMode = .invalid ∧ (timersFor env context m state).records = m.records) ∨
      (timersFor env context m state).records = Function.update m.records
        context.buildTimerKey (some state.timerBounds, true) ∨
      (timersFor env context m state).records = Function.update m.records
        context.buildTimerKey (none, false) := by
  have hallDay : ((m.clearRecalculationTimer env context.buildTimerKey).clearTimerByUserId env
      context.buildTimerKey).records =
      Function.update m.records context.buildTimerKey (none, false) := by
    rw [AlarmTimerManager.records_clearTimerByUserId,
      AlarmTimerManager.records_clearRecalculationTimer]
  unfold timersFor
  cases state.settingMode with
  | invalid => exact .inl ⟨rfl, rfl⟩
  | alwaysLight => exact .inr (.inr hallDay)
  | alwaysDark => exact .inr (.inr hallDay)
  | customAuto => exact .inr records_scheduleTimers
  | sunriseSunset => exact .inr records_scheduleTimers

end Records

end Service
end UiAppearance
