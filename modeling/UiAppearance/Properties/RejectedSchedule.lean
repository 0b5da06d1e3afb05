import UiAppearance.Ability.ScheduleRuns

/-!
# Rejected schedules

A pair of bounds that the timers reject asks for no colour: notifications and
loads clear the timers and stop, and the callback of a timer carries an
accepted pair. A restart of the timers reads the pair without the check.
-/

namespace UiAppearance
namespace RejectedSchedule

open Service Transition Scenario

/-- A schedule mode whose bounds the timers reject. -/
def Rejected (state : DarkModeState) : Prop :=
  state.settingMode.isSchedule = true ∧ state.accepted = false

instance (state : DarkModeState) : Decidable (Rejected state) :=
  inferInstanceAs (Decidable (_ ∧ _))

/-- The service, with every callback the time service has held so far. -/
structure Deliveries where
  service : Service
  handed : Set TimerCallback

def next (d : Deliveries) (e : Env × Event) : Deliveries where
  service := d.service.step e
  handed := d.handed ∪ {callback | (d.service.step e).alarmTimerManager.Calls callback}

def fresh (parameters : Table String String) (tables : ℤ → Table String String) : Deliveries :=
  ⟨start parameters tables, ∅⟩

/-- A timer fires with a callback that was handed to the time service, perhaps long ago. -/
def Genuine (d : Deliveries) (e : Env × Event) : Prop :=
  ∀ callback, e.2 = .timerFired callback → callback ∈ d.handed

/-- The context whose settings an event follows: notifications, loads, restarts and timers. -/
def concerned (s : Service) (e : Env × Event) : Option AccountContext :=
  match e.2 with
  | .settingChanged observer => some observer.context
  | .delivered n => (s.settingDataManager.inFlight[n]?).map fun observer => observer.updateFunc.context
  | .loadUserSettingData context _ _ => some context
  | .bootCompleted =>
    if s.bootCompleteFlag then none
    else some (.getForegroundContext e.1 (e.1.activeOsAccountIds.headD user100))
  | .userSwitched userId => some (.getForegroundContext e.1 userId)
  | .subProfileSwitched userId subProfileId =>
    if e.1.enableSubspace && decide (userId = user100) then
      some (subProfileContext e.1 userId subProfileId)
    else none
  | .timeChanged => some s.observedContext
  | .timerFired (.schedule _ _ context) => some context
  | .timerFired (.recalculation context) => some context
  | _ => none

/-- The step calls nothing and leaves nothing pending for a context with a rejected schedule. -/
def NotDriven (d : Deliveries) (e : Env × Event) : Prop :=
  ∀ context, concerned d.service e = some context →
    Rejected ((d.service.step e).stateOf context) →
    (d.service.step e).core.decisions = d.service.core.decisions

/-- A restart follows a rejected schedule: no override holds it back, and there is either a
screen to wait for or a callback to call. -/
def Misdriven (s : Service) (e : Env × Event) : Prop :=
  (match e.2 with
    | .timeChanged => true
    | _ => false) = true ∧
  Rejected (s.stateOf s.observedContext) ∧
  s.core.follows e.1.clock s.observedContext = true ∧
  (s.screenSwitchOperatorMgr.isScreenOff = true → s.hasUpdateCallback = true)

section Moves

variable {k : Core} {context : AccountContext} {state : DarkModeState}

theorem actionable_of_rejected (h : Rejected state) (env : Env) :
    state.actionable env = false := by
  obtain ⟨hmode, haccepted⟩ := h
  unfold DarkModeState.actionable
  cases hm : state.settingMode <;> simp_all [DarkModeMode.isSchedule]

theorem decisions_react (h : Rejected (k.stateOf context)) (env : Env)
    (needUpdateCallback resetTempColorModeFlag bootLoadFlag : Bool) :
    (k.react env context needUpdateCallback resetTempColorModeFlag bootLoadFlag).decisions =
      k.decisions := by
  unfold Core.react
  rw [actionable_of_rejected h, Bool.and_false]
  rfl

theorem decisions_observe (env : Env) (item : SettingItem) (h : Rejected state) :
    (k.observe env item context state).decisions = k.decisions := by
  have hstate : (k.setState context state).stateOf context = state := Function.update_self ..
  unfold Core.observe
  rw [decisions_react (by rw [hstate]; exact h)]
  rfl

theorem decisions_load (env : Env) (info : TempColorModeInfo)
    (needUpdateCallback bootLoadFlag : Bool)
    (h : Rejected state) :
    (k.load env context state info needUpdateCallback bootLoadFlag).decisions = k.decisions := by
  have hstate : (((k.setState context state).setOverride context
      (Core.loadedRecord env.clock info)).reset).stateOf context = state := Function.update_self ..
  unfold Core.load
  rw [decisions_react (by rw [hstate]; exact h)]
  rfl

/-- A colour asked for is visible unless an override or a missing callback stops it. -/
theorem decisions_update_iff (clock : Clock) (isDarkMode : Bool) :
    (k.update clock isDarkMode context false false).decisions = k.decisions ↔
      ¬(k.follows clock context = true ∧
        (k.screen.isScreenOff = true → k.hasUpdateCallback = true)) := by
  unfold Core.update
  cases k.follows clock context with
  | false => simp [Core.reset]
  | true =>
    cases k.screen.isScreenOff with
    | false => simp [Core.reset, Core.queue, Core.emit]
    | true =>
      cases hcallback : k.hasUpdateCallback with
      | false => simp [Core.reset, Core.change, hcallback]
      | true =>
        have hchange := Core.decisions_change k.reset context isDarkMode hcallback
        have hreset : k.reset.decisions = k.decisions := rfl
        simp [hchange, hreset]

end Moves

section Steps

variable {s s' : Service} {env : Env} {context : AccountContext} {state : DarkModeState}

theorem silent_observe {item : SettingItem}
    (hcore : s'.core = s.core.observe env item context state)
    (hrejected : Rejected (s'.stateOf context)) : s'.core.decisions = s.core.decisions := by
  have hstate : s'.stateOf context = state := by
    change s'.core.stateOf context = state
    rw [hcore, Core.observe, Core.stateOf_react]
    exact Function.update_self ..
  rw [hstate] at hrejected
  rw [hcore, decisions_observe env item hrejected]

theorem silent_load {info : TempColorModeInfo} {needUpdateCallback bootLoadFlag : Bool}
    (hcore : s'.core = s.core.load env context state info needUpdateCallback bootLoadFlag)
    (hrejected : Rejected (s'.stateOf context)) : s'.core.decisions = s.core.decisions := by
  have hstate : s'.stateOf context = state := by
    change s'.core.stateOf context = state
    rw [hcore, Core.load, Core.stateOf_react]
    exact Function.update_self ..
  rw [hstate] at hrejected
  rw [hcore, decisions_load env info needUpdateCallback bootLoadFlag hrejected]

/-- A callback whose captured pair is accepted does not pass its check in a rejected state. -/
theorem silent_timer {startTime endTime : ℤ}
    (hvalid : AlarmTimerManager.isValidScheduleTime (toUInt64 startTime) (toUInt64 endTime) = true)
    (hrejected :
      Rejected ((s.scheduleTimerCallback env startTime endTime context).stateOf context)) :
    (s.scheduleTimerCallback env startTime endTime context).core.decisions = s.core.decisions := by
  have hcore := core_scheduleTimerCallback env s context startTime endTime
  rw [hcore]
  split_ifs with hcheck
  · rw [if_pos hcheck] at hcore
    simp only [Bool.and_eq_true, decide_eq_true_eq] at hcheck
    have hstate : (s.scheduleTimerCallback env startTime endTime context).stateOf context =
        s.stateOf context := by
      change Core.stateOf (core _) context = _
      rw [hcore, Core.stateOf_update]
      rfl
    rw [hstate] at hrejected
    have haccepted := hrejected.2
    rw [DarkModeState.accepted, hcheck.1.2, hvalid] at haccepted
    cases haccepted
  · rfl

theorem silent_restart_iff :
    (Rejected ((s.restartTimer env).stateOf s.observedContext) →
      (s.restartTimer env).core.decisions = s.core.decisions) ↔
      ¬Misdriven s (env, .timeChanged) := by
  have hcore := core_restartTimer env s
  have hstate : (s.restartTimer env).stateOf s.observedContext = s.stateOf s.observedContext := by
    change (s.restartTimer env).core.stateOf _ = _
    rw [hcore]
    split_ifs
    · rw [Core.stateOf_update]
      rfl
    · rfl
  rw [hstate, hcore]
  by_cases hrejected : Rejected (s.stateOf s.observedContext)
  · rw [if_pos hrejected.1, decisions_update_iff]
    have hscreen : s.core.screen = s.screenSwitchOperatorMgr := rfl
    have hcallback : s.core.hasUpdateCallback = s.hasUpdateCallback := rfl
    rw [hscreen, hcallback]
    simp [Misdriven, hrejected]
  · simp [Misdriven, hrejected]

end Steps

/-- What the time service holds, and has held, passed the check. -/
structure Sound (d : Deliveries) : Prop where
  accepting : d.service.Accepting
  handed : ∀ startTime endTime context, .schedule startTime endTime context ∈ d.handed →
    AlarmTimerManager.isValidScheduleTime (toUInt64 startTime) (toUInt64 endTime) = true

theorem sound_fresh (parameters : Table String String) (tables : ℤ → Table String String) :
    Sound (fresh parameters tables) where
  accepting := by
    rintro startTime endTime context ⟨id, timer, htimer, -⟩
    cases htimer
  handed := nofun

theorem sound_next (d : Deliveries) (e : Env × Event) (h : Sound d) : Sound (next d e) := by
  have hstep := h.accepting.step e
  constructor
  · exact hstep
  · rintro startTime endTime context (hbefore | hcalls)
    · exact h.handed _ _ _ hbefore
    · exact hstep _ _ _ hcalls

theorem timeChanged_of_misdriven {s : Service} {e : Env × Event} (h : Misdriven s e) :
    e.2 = .timeChanged := by
  obtain ⟨env, event⟩ := e
  cases event <;> first | rfl | cases h.1

/-- Notifications, loads and genuine timers respect the check. -/
theorem notDriven_of_ne {d : Deliveries} {e : Env × Event} (h : Sound d) (hgenuine : Genuine d e)
    (hother : e.2 ≠ .timeChanged) : NotDriven d e := by
  obtain ⟨s, handed⟩ := d
  obtain ⟨env, event⟩ := e
  intro context hconcerned hrejected
  cases event with
  | settingChanged observer =>
    obtain rfl := Option.some.inj hconcerned
    exact silent_observe (core_observerUpdateFunc ..) hrejected
  | delivered n =>
    change Rejected ((s.deliver env n).stateOf context) at hrejected
    change (s.deliver env n).core.decisions = s.core.decisions
    unfold deliver at hrejected ⊢
    cases hobserver : s.settingDataManager.inFlight[n]? with
    | none => rfl
    | some observer =>
      simp only [concerned, hobserver, Option.map_some, Option.some.injEq] at hconcerned
      subst hconcerned
      rw [hobserver] at hrejected
      exact silent_observe (s := s.takeNotification n) (core_observerUpdateFunc ..) hrejected
  | loadUserSettingData context' needUpdateCallback bootLoadFlag =>
    obtain rfl := Option.some.inj hconcerned
    exact silent_load (core_loadUserSettingData ..) hrejected
  | bootCompleted =>
    have hcore := core_bootCompletedCallback env s
    unfold bootMove at hcore
    unfold concerned at hconcerned
    split_ifs at hcore hconcerned with hboot
    obtain rfl := Option.some.inj hconcerned
    exact silent_load hcore hrejected
  | userSwitched userId =>
    obtain rfl := Option.some.inj hconcerned
    exact silent_load (core_accountContextSwitchFunc ..) hrejected
  | subProfileSwitched userId subProfileId =>
    have hcore := core_handleSubProfileSwitched env s userId subProfileId
    unfold subProfileMove at hcore
    unfold concerned at hconcerned
    dsimp only at hconcerned
    split_ifs at hcore hconcerned with hcenter
    obtain rfl := Option.some.inj hconcerned
    exact silent_load hcore hrejected
  | timeChanged => exact absurd rfl hother
  | timerFired callback =>
    cases callback with
    | schedule startTime endTime context' =>
      obtain rfl := Option.some.inj hconcerned
      exact silent_timer (h.handed _ _ _ (hgenuine _ rfl)) hrejected
    | recalculation context' =>
      exact congrArg Core.decisions (core_recalculationCallback env s context')
  | _ => cases hconcerned

theorem notDriven_iff {d : Deliveries} {e : Env × Event} (h : Sound d) (hgenuine : Genuine d e) :
    NotDriven d e ↔ ¬Misdriven d.service e := by
  by_cases htime : e.2 = .timeChanged
  · obtain ⟨env, event⟩ := e
    obtain rfl : event = .timeChanged := htime
    refine Iff.trans ?_ silent_restart_iff
    constructor
    · intro hnot
      exact hnot _ rfl
    · intro hsilent context hcontext
      obtain rfl := Option.some.inj hcontext
      exact hsilent
  · exact iff_of_true (notDriven_of_ne h hgenuine htime) fun hmis =>
      htime (timeChanged_of_misdriven hmis)

/-- In every run, a rejected schedule drives the colour exactly where a restart follows it. -/
theorem notDriven_along_iff {parameters : Table String String}
    {tables : ℤ → Table String String} {es : Run}
    (hgenuine : Along next Genuine (fresh parameters tables) es) :
    Along next NotDriven (fresh parameters tables) es ↔
      Along next (fun d e => ¬Misdriven d.service e) (fresh parameters tables) es := by
  exact along_iff_of_invariant (fun d e h _ _ => sound_next d e h)
    (fun d e h hstep => notDriven_iff h hstep) (sound_fresh parameters tables) hgenuine

/-- A custom schedule is loaded, its first timer fires, and the time is changed. -/
def acceptedRun : Run :=
  [(noon, .onAddSystemAbility), (noon, .bootCompleted),
    (noon, .timerFired (.schedule 660 780 account)), (noon, .timeChanged)]

theorem accepted_notDriven :
    Along next NotDriven (fresh Table.empty customRow) acceptedRun ↔
      Along next (fun d e => ¬Misdriven d.service e) (fresh Table.empty customRow) acceptedRun := by
  have hheld : (exec step (start Table.empty customRow)
      (acceptedRun.take 2)).alarmTimerManager.Calls (.schedule 660 780 account) :=
    AlarmTimerManager.calls_of_callback (i := 1) (by decide)
  apply notDriven_along_iff
  refine ⟨nofun, nofun, ?_, nofun, trivial⟩
  rintro callback hfired
  obtain rfl := Event.timerFired.inj hfired
  exact .inr hheld

/-- A custom schedule around the clock, which the timers reject. -/
def wholeDayRow (userId : ℤ) (key : String) : Option String :=
  if userId ≠ 100 then none
  else if key = SettingItem.mode.key then some "2"
  else if key = SettingItem.startTime.key then some "0"
  else if key = SettingItem.endTime.key then some "1440"
  else none

def restartedRun : Run :=
  [(noon, .onAddSystemAbility), (noon, .bootCompleted), (noon, .timeChanged)]

/-- The load asks for nothing, a restart of the timers turns the screen dark. -/
theorem restart_driven :
    Along next Genuine (fresh Table.empty wholeDayRow) restartedRun ∧
      ¬Along next NotDriven (fresh Table.empty wholeDayRow) restartedRun ∧
      (exec next (fresh Table.empty wholeDayRow) restartedRun).service.core.decisions =
        [.updateCallback true account] := by
  refine ⟨?_, ?_, by decide⟩
  · simp [restartedRun, Along, Genuine]
  · rintro ⟨-, -, hrestart, -⟩
    exact absurd (hrestart account (by decide) (by decide)) (by decide)

end RejectedSchedule
end UiAppearance
