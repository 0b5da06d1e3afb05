import UiAppearance.Ability.ScheduleRuns

/-!
# Timers of replaced schedules

A timer callback carries the schedule it was created for, and callbacks of any
number of replaced schedules may still be delivered. Such a callback acts only
while the schedule it carries is the one in force for its context, and it then
asks for the colour of that schedule at that moment.
-/

namespace UiAppearance
namespace ObsoleteTimers

open Service Transition

/-- Notifications, loads and callbacks, with other processes writing settings in between. -/
def Sequential : Event → Prop
  | .settingChanged _ => True
  | .delivered _ => True
  | .loadUserSettingData .. => True
  | .timerFired _ => True
  | .settingWritten .. => True
  | _ => False

/-- The context whose state an event reacts to. -/
def concerned (s : Service) : Event → Option AccountContext
  | .settingChanged observer => some observer.context
  | .delivered n => (s.settingDataManager.inFlight[n]?).map fun observer => observer.updateFunc.context
  | .loadUserSettingData context _ _ => some context
  | _ => none

/-- The step calls `CreateOrUpdateTimers` for a context with these bounds. -/
structure Creates (s : Service) (e : Env × Event) (startTime endTime : ℤ)
    (context : AccountContext) : Prop where
  concerned : concerned s e.2 = some context
  schedule : ((s.step e).stateOf context).settingMode.isSchedule = true
  times : ((s.step e).stateOf context).scheduleTime = (startTime, endTime)

def HasState (context : AccountContext) (s : Service) : Prop :=
  (s.darkModeStates context).isSome = true

variable {context context' : AccountContext} {s : Service} {env : Env}

theorem hasState_of_put {s' : Service} {state : DarkModeState}
    (hput : s'.darkModeStates = s.darkModeStates.put context' state)
    (h : context = context' ∨ HasState context s) : HasState context s' := by
  unfold HasState
  rw [hput]
  by_cases hsame : context = context'
  · subst hsame
    rw [Table.put_self]
    rfl
  · rw [Table.put_of_ne hsame]
    exact h.resolve_left hsame

/-- No sequential event forgets a state. -/
theorem hasState_step (s : Service) (e : Env × Event) (h : HasState context s)
    (hseq : Sequential e.2) : HasState context (s.step e) := by
  obtain ⟨env, event⟩ := e
  cases event with
  | settingChanged observer =>
    exact hasState_of_put (darkModeStates_observerUpdateFunc ..) (.inr h)
  | delivered n =>
    change HasState context (s.deliver env n)
    unfold deliver
    cases s.settingDataManager.inFlight[n]? with
    | none => exact h
    | some observer => exact hasState_of_put (darkModeStates_observerUpdateFunc ..) (.inr h)
  | loadUserSettingData context' needUpdateCallback bootLoadFlag =>
    exact hasState_of_put (darkModeStates_loadUserSettingData ..) (.inr h)
  | timerFired callback => exact (keepsStates_timerFired env s callback).isSome context h
  | settingWritten userId key value => exact h
  | _ => exact hseq.elim

/-- The context a timer is created for has a state. -/
theorem hasState_of_creates {e : Env × Event} {startTime endTime : ℤ}
    (h : Creates s e startTime endTime context) : HasState context (s.step e) := by
  obtain ⟨env, event⟩ := e
  have hconcerned := h.concerned
  cases event with
  | settingChanged observer =>
    exact hasState_of_put (darkModeStates_observerUpdateFunc ..)
      (.inl (Option.some.inj hconcerned).symm)
  | delivered n =>
    change HasState context (s.deliver env n)
    unfold deliver
    cases hobserver : s.settingDataManager.inFlight[n]? with
    | none => simp [ObsoleteTimers.concerned, hobserver] at hconcerned
    | some observer =>
      refine hasState_of_put (darkModeStates_observerUpdateFunc ..) (.inl ?_)
      simpa [ObsoleteTimers.concerned, hobserver] using hconcerned.symm
  | loadUserSettingData context' needUpdateCallback bootLoadFlag =>
    exact hasState_of_put (darkModeStates_loadUserSettingData ..)
      (.inl (Option.some.inj hconcerned).symm)
  | _ => simp [ObsoleteTimers.concerned] at hconcerned

/-- A callback for a context that has a state, written out. -/
theorem scheduleTimerCallback_eq (h : HasState context s) (env : Env) (startTime endTime : ℤ) :
    s.scheduleTimerCallback env startTime endTime context =
      if (s.stateOf context).settingMode.isSchedule = true ∧
          (s.stateOf context).scheduleTime = (startTime, endTime) ∧ env.clock.failed = false then
        s.updateDarkModeSchedule env
          (.ofColor (checkCurrentTimeInDarkInterval (s.stateOf context).scheduleTime.1
            (s.stateOf context).scheduleTime.2 env.clock.secondOfDay)) context false false
      else s := by
  obtain ⟨state, hstate⟩ := Option.isSome_iff_exists.mp h
  have htouch : s.touchState context = s := by
    unfold touchState
    rw [Table.touch_of_some hstate]
  unfold scheduleTimerCallback checkTimerCallbackParams
  rw [htouch]
  dsimp only
  by_cases hinForce : (s.stateOf context).settingMode.isSchedule = true ∧
      (s.stateOf context).scheduleTime = (startTime, endTime) ∧ env.clock.failed = false
  · obtain ⟨hmode, htimes, hclock⟩ := hinForce
    simp [hmode, htimes, hclock]
  · rw [if_neg hinForce]
    split
    · rfl
    · next colorMode hcheck =>
      split_ifs at hcheck with htest
      simp only [Bool.and_eq_true, decide_eq_true_eq, Bool.not_eq_true'] at htest
      exact absurd ⟨htest.1.1, htest.1.2, htest.2⟩ hinForce

/-- A callback created in any earlier step acts only for the schedule in force, in its colour. -/
theorem obsolete_inert {s : Service} {before after : Run} {e : Env × Event}
    (hafter : ∀ e' ∈ after, Sequential e'.2) {startTime endTime : ℤ} {context : AccountContext}
    (hcreated : Creates (exec step s before) e startTime endTime context) (env : Env) :
    let s' := exec step s (before ++ e :: after)
    let state := s'.stateOf context
    s'.scheduleTimerCallback env startTime endTime context =
      if state.settingMode.isSchedule = true ∧ state.scheduleTime = (startTime, endTime) ∧
          env.clock.failed = false then
        s'.updateDarkModeSchedule env
          (.ofColor (checkCurrentTimeInDarkInterval state.scheduleTime.1 state.scheduleTime.2
            env.clock.secondOfDay)) context false false
      else s' := by
  have hstate : HasState context (exec step s (before ++ e :: after)) := by
    rw [exec_append, exec_cons]
    exact exec_invariant (C := fun _ e => Sequential e.2) hasState_step
      (hasState_of_creates hcreated) (along_of_forall hafter)
  exact scheduleTimerCallback_eq hstate env startTime endTime

/-- An account with a custom schedule, loaded, and then with a later end of it. -/
def scheduled : Service :=
  { start Table.empty Scenario.customRow with
    settingDataManager := { tables := Scenario.customRow, isInitialized := true } }

theorem replaced_inert :
    let s' := exec step scheduled ([] ++
      (Scenario.noon, .loadUserSettingData Scenario.account false false) ::
        [(Scenario.noon, .settingWritten 100 SettingItem.endTime.key (some "840")),
          (Scenario.noon, .settingChanged ⟨.endTime, Scenario.account⟩)])
    let state := s'.stateOf Scenario.account
    s'.scheduleTimerCallback Scenario.noon 660 780 Scenario.account =
      if state.settingMode.isSchedule = true ∧ state.scheduleTime = (660, 780) ∧
          Scenario.noon.clock.failed = false then
        s'.updateDarkModeSchedule Scenario.noon
          (.ofColor (checkCurrentTimeInDarkInterval state.scheduleTime.1 state.scheduleTime.2
            Scenario.noon.clock.secondOfDay)) Scenario.account false false
      else s' :=
  obsolete_inert (by simp [Sequential]) ⟨rfl, by decide +kernel, by decide +kernel⟩ Scenario.noon

end ObsoleteTimers
end UiAppearance
