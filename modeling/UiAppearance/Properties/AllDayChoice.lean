import UiAppearance.Ability.Events
import UiAppearance.DarkMode.Interleaving
import UiAppearance.Foundations.ThreadPool

/-!
# Schedules and a later all-day mode

Timers, restarts and the screen decide on a colour in one step and apply it in
a later one. An all-day mode that is set in between is applied at once and then
overruled by the colour decided before. Outside these windows an all-day mode
keeps the colour, and keeps the opposite one from being left for the screen to
go off.
-/

namespace UiAppearance
namespace AllDayChoice

open Transition Scenario

/-- The callbacks of one context. Other processes only write the mode. -/
inductive Thread where
  | timer (startTime endTime : ℤ) (phase : TimerPhase)
  | restart (phase : RestartPhase)
  | mode (phase : ModePhase)
  | screenOn
  | screenOff (phase : ScreenOffPhase)
  | write (value : Option String)
  | done
  deriving DecidableEq

/-- What a thread is after a step of its callback. -/
def Thread.next {α : Type} (f : α → Thread) : Option α → Thread
  | none => .done
  | some phase => f phase

def act (context : AccountContext) (env : Env) (s : Service) : Thread → Option (Service × Thread)
  | .timer startTime endTime phase =>
    let r := s.timerStep env startTime endTime context phase
    some (r.1, .next (.timer startTime endTime) r.2)
  | .restart phase =>
    let r := s.restartStep env context phase
    some (r.1, .next .restart r.2)
  | .mode phase =>
    let r := s.modeStep env (modeKey context) context phase
    some (r.1, .next .mode r.2)
  | .screenOn => some (s.screenOnCallback, .done)
  | .screenOff phase =>
    let r := s.screenOffStep env phase
    some (r.1, .next .screenOff r.2)
  | .write value => some (s.settingWritten context.userId (modeKey context) value, .done)
  | .done => none

abbrev State := Pool Service Thread

/-- Not begun, or over. -/
def Thread.idle : Thread → Bool
  | .timer _ _ .checkTimerCallbackParams => true
  | .restart .read => true
  | .mode .getInt32ValueStrictly => true
  | .screenOn => true
  | .screenOff .setScreenOff => true
  | .write _ => true
  | .done => true
  | _ => false

/-- The colour that a thread has decided on and not yet applied. -/
def Thread.decided : Thread → Option Bool
  | .timer _ _ (.updateDarkModeSchedule colorMode) => some (colorMode = .alwaysDark)
  | .restart (.updateDarkModeSchedule colorMode) => some (colorMode = .alwaysDark)
  | .screenOff (.onChangeDarkMode switchToDark _) => some switchToDark
  | _ => none

/-- The last colour passed to the update callback. -/
def lastColor : List Effect → Option Bool
  | [] => none
  | .updateCallback isDarkMode _ :: _ => some isDarkMode
  | .setScreenOffOperateInfo .. :: older => lastColor older
  | .setColorModeTemporary .. :: older => lastColor older
  | .updateConfiguration .. :: older => lastColor older

/-- The colour was the last to be applied, and its opposite is not pending. -/
def Colored (isDarkMode : Bool) (k : Core) : Prop :=
  lastColor k.decisions = some isDarkMode ∧ k.screen.screenOffOperator ≠ .ofColor !isDarkMode

instance (isDarkMode : Bool) (k : Core) : Decidable (Colored isDarkMode k) :=
  inferInstanceAs (Decidable (_ ∧ _))

/-- The colour of an all-day mode. -/
def allDay : DarkModeMode → Option Bool
  | .alwaysLight => some false
  | .alwaysDark => some true
  | _ => none

/-- The colour of the all-day mode in force. -/
def inForce (context : AccountContext) (s : Service) : Option Bool :=
  allDay (s.stateOf context).settingMode

theorem inForce_eq (context : AccountContext) (s : Service) :
    inForce context s = allDay (s.core.stateOf context).settingMode := rfl

def Settled (context : AccountContext) (s : Service) : Prop :=
  ∀ isDarkMode ∈ inForce context s, Colored isDarkMode s.core

instance (context : AccountContext) (s : Service) : Decidable (Settled context s) :=
  inferInstanceAs (Decidable (∀ isDarkMode ∈ inForce context s, _))

/-- The all-day mode that a thread is about to put in force. -/
def Thread.sets : Thread → Option Bool
  | .mode (.locked value) => allDay (.ofInt value)
  | _ => none

/-- The colour that a thread is about to decide on, outside the lock of the states. -/
def Thread.decides (env : Env) (s : Service) : Thread → Option Bool
  | .restart (.isWithinTimeInterval startTime endTime) =>
    some (DarkModeState.within env.clock (startTime, endTime))
  | .screenOff .getScreenOffOperateInfo => some s.screenSwitchOperatorMgr.getScreenOffOperateInfo.1
  | _ => none

/-- No all-day mode is set while a thread has decided on the opposite colour, and none is in
force when a thread decides on the opposite one. -/
def OpensNoWindow (context : AccountContext) (p : State) (e : ℕ × Env) : Prop :=
  ∀ t ∈ p.threads[e.1]?,
    (∀ isDarkMode ∈ t.sets, ∀ u ∈ p.threads, u.decided ≠ some !isDarkMode) ∧
      ∀ isDarkMode ∈ inForce context p.shared, t.decides e.2 p.shared ≠ some !isDarkMode

instance (context : AccountContext) (p : State) (e : ℕ × Env) :
    Decidable (OpensNoWindow context p e) :=
  inferInstanceAs (Decidable (∀ t ∈ p.threads[e.1]?,
    (∀ isDarkMode ∈ t.sets, ∀ u ∈ p.threads, u.decided ≠ some !isDarkMode) ∧
      ∀ isDarkMode ∈ inForce context p.shared, t.decides e.2 p.shared ≠ some !isDarkMode))

section Colored

variable {k : Core} {isDarkMode : Bool}

theorem colored_reset (h : Colored isDarkMode k) : Colored isDarkMode k.reset := by
  refine ⟨h.1, ?_⟩
  cases isDarkMode <;> nofun

theorem colored_reset_change (hcallback : k.hasUpdateCallback = true) (context : AccountContext) :
    Colored isDarkMode (k.reset.change isDarkMode context) := by
  constructor
  · rw [Core.decisions_change k.reset _ _ hcallback]
    rfl
  · rw [Core.screen_change]
    cases isDarkMode <;> nofun

theorem colored_change (hcallback : k.hasUpdateCallback = true) (context : AccountContext)
    (h : Colored isDarkMode k) : Colored isDarkMode (k.change isDarkMode context) := by
  constructor
  · rw [Core.decisions_change _ _ _ hcallback]
    rfl
  · rw [Core.screen_change]
    exact h.2

theorem colored_queue (context : AccountContext) (h : Colored isDarkMode k) :
    Colored isDarkMode (k.queue isDarkMode context) := by
  refine ⟨h.1, ?_⟩
  cases isDarkMode <;> nofun

theorem colored_update (hcallback : k.hasUpdateCallback = true) (clock : Clock)
    (context : AccountContext) (h : Colored isDarkMode k) :
    Colored isDarkMode (k.update clock isDarkMode context false false) := by
  unfold Core.update
  rw [if_neg Bool.false_ne_true]
  split_ifs
  · exact colored_reset h
  · exact colored_reset_change hcallback context
  · exact colored_queue context (colored_reset h)

/-- Setting an all-day mode applies its colour. -/
theorem colored_observe {env : Env} {context : AccountContext} {state : DarkModeState}
    (hcallback : k.hasUpdateCallback = true) (h : allDay state.settingMode = some isDarkMode) :
    Colored isDarkMode (k.observe env .mode context state) := by
  have hstate : (k.setState context state).stateOf context = state := by simp [Core.setState]
  have hreact : (k.setState context state).react env context true true false =
      (k.setState context state).reset.change isDarkMode context := by
    unfold Core.react Core.update
    rw [hstate]
    cases hmode : state.settingMode <;> rw [hmode] at h <;> cases h <;>
      simp [DarkModeState.actionable, DarkModeState.wantsDark, hmode]
  have hobserve : k.observe env .mode context state =
      (k.setState context state).react env context true true false := rfl
  rw [hobserve, hreact]
  exact colored_reset_change (k := k.setState context state) hcallback context

end Colored

/-- What holds between any two steps. -/
structure Safe (context : AccountContext) (p : State) : Prop where
  callback : p.shared.core.hasUpdateCallback = true
  settled : Settled context p.shared
  decided : ∀ isDarkMode ∈ inForce context p.shared, ∀ t ∈ p.threads,
    t.decided ≠ some !isDarkMode

section Moves

variable {context : AccountContext} {p : State} {i : ℕ} {env : Env} {s' : Service} {t' : Thread}

/-- A move that leaves the mode alone keeps the colour and decides on no other. -/
theorem Safe.moved (hp : Safe context p)
    (hstate : s'.core.stateOf = p.shared.core.stateOf)
    (hcallback : s'.core.hasUpdateCallback = p.shared.core.hasUpdateCallback)
    (hcolored : ∀ isDarkMode ∈ inForce context p.shared,
      Colored isDarkMode p.shared.core → Colored isDarkMode s'.core)
    (hdecided : ∀ isDarkMode ∈ inForce context p.shared, t'.decided ≠ some !isDarkMode) :
    Safe context ⟨s', p.threads.set i t'⟩ := by
  have hforce : inForce context s' = inForce context p.shared := by
    rw [inForce_eq, hstate]
    rfl
  refine ⟨hcallback.trans hp.callback, ?_, ?_⟩
  · intro isDarkMode hmode
    rw [hforce] at hmode
    exact hcolored isDarkMode hmode (hp.settled isDarkMode hmode)
  · intro isDarkMode hmode u hu
    rw [hforce] at hmode
    rcases List.mem_or_eq_of_mem_set hu with hold | rfl
    · exact hp.decided isDarkMode hmode u hold
    · exact hdecided isDarkMode hmode

theorem Safe.moved_same (hp : Safe context p) (hcore : s'.core = p.shared.core)
    (hdecided : ∀ isDarkMode ∈ inForce context p.shared, t'.decided ≠ some !isDarkMode) :
    Safe context ⟨s', p.threads.set i t'⟩ := by
  apply hp.moved (by rw [hcore]) (by rw [hcore]) _ hdecided
  intro isDarkMode _ hcolored
  rw [hcore]
  exact hcolored

/-- A move beside the colour of a thread that has decided on nothing. -/
theorem Safe.moved_idle (hp : Safe context p) (hcore : s'.core = p.shared.core)
    (hnone : t'.decided = none) : Safe context ⟨s', p.threads.set i t'⟩ := by
  apply hp.moved_same hcore
  intro isDarkMode _ hopposite
  rw [hnone] at hopposite
  cases hopposite

/-- What a thread has decided on is the colour in force. -/
theorem Safe.eq_of_decided {t : Thread} (hp : Safe context p) (ht : p.threads[i]? = some t)
    {isDarkMode color : Bool} (hcolor : t.decided = some color)
    (hmode : isDarkMode ∈ inForce context p.shared) : color = isDarkMode := by
  have hne := hp.decided isDarkMode hmode t (List.mem_of_getElem? ht)
  rw [hcolor] at hne
  cases color <;> cases isDarkMode <;> simp_all

/-- Applying or queueing the colour decided on does no harm to an all-day mode. -/
theorem safe_update {t : Thread} {color : Bool} {clock : Clock} (hp : Safe context p)
    (ht : p.threads[i]? = some t) (hcolor : t.decided = some color)
    (hcore : s'.core = p.shared.core.update clock color context false false)
    (hdecided : t'.decided = none) : Safe context ⟨s', p.threads.set i t'⟩ := by
  apply hp.moved
  · rw [hcore, Core.stateOf_update]
  · rw [hcore, Core.hasUpdateCallback_update]
  · intro isDarkMode hmode hcolored
    obtain rfl := hp.eq_of_decided ht hcolor hmode
    rw [hcore]
    exact colored_update hp.callback clock context hcolored
  · intro isDarkMode _ hopposite
    rw [hdecided] at hopposite
    cases hopposite

theorem inForce_of_isSchedule {s : Service}
    (h : (s.stateOf context).settingMode.isSchedule = true) : inForce context s = none := by
  unfold inForce
  cases hmode : (s.stateOf context).settingMode <;> rw [hmode] at h <;> first | rfl | cases h

theorem safe_timer {startTime endTime : ℤ} {phase : TimerPhase} (hp : Safe context p)
    (ht : p.threads[i]? = some (.timer startTime endTime phase)) :
    Safe context ⟨(p.shared.timerStep env startTime endTime context phase).1,
      p.threads.set i (.next (.timer startTime endTime)
        (p.shared.timerStep env startTime endTime context phase).2)⟩ := by
  have hcore := p.shared.core_timerStep env startTime endTime context phase
  cases phase with
  | checkTimerCallbackParams =>
    apply hp.moved_same hcore
    intro isDarkMode hmode
    simp only [Service.timerStep, Service.checkTimerCallbackParams]
    split_ifs with hcheck
    · -- the check passes in a schedule mode only
      rw [Bool.and_eq_true, Bool.and_eq_true] at hcheck
      rw [inForce_of_isSchedule hcheck.1.1] at hmode
      cases hmode
    · intro hopposite
      cases hopposite
  | updateDarkModeSchedule colorMode => exact safe_update hp ht rfl hcore rfl

theorem safe_restart {phase : RestartPhase} (hp : Safe context p)
    (ht : p.threads[i]? = some (.restart phase)) (hok : OpensNoWindow context p (i, env)) :
    Safe context ⟨(p.shared.restartStep env context phase).1,
      p.threads.set i (.next .restart (p.shared.restartStep env context phase).2)⟩ := by
  have hcore := p.shared.core_restartStep env context phase
  cases phase with
  | read =>
    apply hp.moved_idle hcore
    simp only [Service.restartStep]
    split <;> rfl
  | calculateAndApplySunriseSunsetTimes =>
    exact hp.moved_idle hcore rfl
  | reread =>
    apply hp.moved_idle hcore
    simp only [Service.restartStep]
    cases p.shared.restartTimerReread context <;> rfl
  | isWithinTimeInterval startTime endTime =>
    apply hp.moved_same hcore
    intro isDarkMode hmode
    have hdecides := (hok _ ht).2 isDarkMode hmode
    simpa [Thread.decides, Thread.decided, Thread.next, Service.restartStep,
      DarkModeState.within] using hdecides
  | updateDarkModeSchedule colorMode => exact safe_update hp ht rfl hcore rfl
  | restartAllTimer =>
    exact hp.moved_idle hcore rfl

/-- The mode observer sets an all-day mode while no thread has decided otherwise. -/
theorem safe_mode {phase : ModePhase} (hp : Safe context p)
    (ht : p.threads[i]? = some (.mode phase)) (hok : OpensNoWindow context p (i, env)) :
    Safe context ⟨(p.shared.modeStep env (modeKey context) context phase).1,
      p.threads.set i (.next .mode (p.shared.modeStep env (modeKey context) context phase).2)⟩ := by
  have hcore := p.shared.core_modeStep env (modeKey context) context phase
  cases phase with
  | getInt32ValueStrictly =>
    exact hp.moved_idle hcore rfl
  | locked value =>
    have hforce : inForce context (p.shared.modeStep env (modeKey context) context
        (.locked value)).1 = allDay (.ofInt value) := by
      rw [inForce_eq, hcore]
      simp [Core.observe, Core.setState]
    refine ⟨?_, ?_, ?_⟩
    · rw [hcore]
      exact (Core.hasUpdateCallback_react ..).trans hp.callback
    · intro isDarkMode hmode
      rw [hforce] at hmode
      rw [hcore]
      exact colored_observe hp.callback hmode
    · intro isDarkMode hmode u hu
      rw [hforce] at hmode
      rcases List.mem_or_eq_of_mem_set hu with hold | rfl
      · exact (hok _ ht).1 isDarkMode hmode u hold
      · intro hopposite
        cases hopposite
  | recalculation value =>
    exact hp.moved_idle hcore rfl

theorem safe_screenOff {phase : ScreenOffPhase} (hp : Safe context p)
    (ht : p.threads[i]? = some (.screenOff phase)) (hok : OpensNoWindow context p (i, env)) :
    Safe context ⟨(p.shared.screenOffStep env phase).1,
      p.threads.set i (.next .screenOff (p.shared.screenOffStep env phase).2)⟩ := by
  have hcore := p.shared.core_screenOffStep env phase
  cases phase with
  | setScreenOff =>
    apply hp.moved
    · rfl
    · rfl
    · intro _ _ hcolored
      exact hcolored
    · intro isDarkMode _ hopposite
      cases hopposite
  | haveScreenOffOperate =>
    apply hp.moved_idle hcore
    simp only [Service.screenOffStep]
    split_ifs <;> rfl
  | getScreenOffOperateInfo =>
    apply hp.moved_same hcore
    intro isDarkMode hmode
    exact (hok _ ht).2 isDarkMode hmode
  | onChangeDarkMode switchToDark userId =>
    apply hp.moved
    · rw [hcore]
      exact Core.stateOf_change ..
    · rw [hcore]
      exact Core.hasUpdateCallback_change ..
    · intro isDarkMode hmode hcolored
      obtain rfl := hp.eq_of_decided ht rfl hmode
      rw [hcore]
      exact colored_change hp.callback _ hcolored
    · intro isDarkMode _ hopposite
      cases hopposite
  | resetScreenOffOperateInfo =>
    apply hp.moved
    · rfl
    · rfl
    · intro _ _ hcolored
      exact colored_reset hcolored
    · intro isDarkMode _ hopposite
      cases hopposite

end Moves

theorem safe_next (context : AccountContext) (p : State) (e : ℕ × Env) (hp : Safe context p)
    (hok : OpensNoWindow context p e) : Safe context (p.next (act context) e) := by
  rcases Pool.next_cases (act context) p e with h | ⟨t, s', t', ht, hact, h⟩
  · rw [h]
    exact hp
  · rw [h]
    cases t with
    | timer startTime endTime phase =>
      obtain ⟨rfl, rfl⟩ := Prod.mk.inj (Option.some.inj hact)
      exact safe_timer hp ht
    | restart phase =>
      obtain ⟨rfl, rfl⟩ := Prod.mk.inj (Option.some.inj hact)
      exact safe_restart hp ht hok
    | mode phase =>
      obtain ⟨rfl, rfl⟩ := Prod.mk.inj (Option.some.inj hact)
      exact safe_mode hp ht hok
    | screenOn =>
      obtain ⟨rfl, rfl⟩ := Prod.mk.inj (Option.some.inj hact)
      apply hp.moved
      · rfl
      · rfl
      · intro _ _ hcolored
        exact hcolored
      · intro isDarkMode _ hopposite
        cases hopposite
    | screenOff phase =>
      obtain ⟨rfl, rfl⟩ := Prod.mk.inj (Option.some.inj hact)
      exact safe_screenOff hp ht hok
    | write value =>
      obtain ⟨rfl, rfl⟩ := Prod.mk.inj (Option.some.inj hact)
      apply hp.moved_idle
      · rfl
      · rfl
    | done => cases hact

theorem Thread.decided_of_idle {t : Thread} (h : t.idle = true) : t.decided = none := by
  cases t with
  | timer startTime endTime phase => cases phase <;> first | rfl | cases h
  | restart phase => cases phase <;> first | rfl | cases h
  | mode phase => rfl
  | screenOn => rfl
  | screenOff phase => cases phase <;> first | rfl | cases h
  | write value => rfl
  | done => rfl

/-- In a run that opens none of the windows, every all-day mode keeps its colour in every
state, whether or not a callback is in progress. -/
theorem settled_exec {context : AccountContext} {s : Service} {threads : List Thread}
    {es : List (ℕ × Env)} (hcallback : s.hasUpdateCallback = true) (hsettled : Settled context s)
    (hidle : ∀ t ∈ threads, t.idle = true)
    (hok : Along (Pool.next (act context)) (OpensNoWindow context) ⟨s, threads⟩ es) :
    Settled context (exec (Pool.next (act context)) ⟨s, threads⟩ es).shared := by
  have hstart : Safe context ⟨s, threads⟩ := by
    refine ⟨hcallback, hsettled, ?_⟩
    intro isDarkMode _ t ht
    rw [Thread.decided_of_idle (hidle t ht)]
    intro hopposite
    cases hopposite
  exact (exec_invariant (safe_next context) hstart hok).settled

def booted (screen : List (Env × Event)) : Service :=
  exec Service.step (Service.start Table.empty customRow)
    ([(noon, .onAddSystemAbility), (noon, .bootCompleted)] ++ screen)

/-- The start of the dark interval, and a user who sets the mode to `ALWAYS_LIGHT`. -/
def timerAndChoice : List Thread :=
  [.timer 660 780 .checkTimerCallbackParams, .write (some "0"), .mode .getInt32ValueStrictly]

def run (s : Service) (threads : List Thread) (order : List ℕ) : State :=
  exec (Pool.next (act account)) ⟨s, threads⟩ (order.map fun i => (i, noon))

/-- The mode is set between the check of the timer and its update. -/
def overtaken (screen : List (Env × Event)) : State :=
  run (booted screen) timerAndChoice [0, 1, 2, 2, 2, 0]

/-- The timer overrules the mode: at once with the screen off, and with the screen on through
an operation that stays pending. -/
theorem choice_overruled :
    ((∀ t ∈ (overtaken []).threads, t.idle = true) ∧
      ((overtaken []).shared.stateOf account).settingMode = .alwaysLight ∧
      lastColor (overtaken []).shared.core.decisions = some true) ∧
    ((∀ t ∈ (overtaken [(noon, .screenOn)]).threads, t.idle = true) ∧
      ((overtaken [(noon, .screenOn)]).shared.stateOf account).settingMode = .alwaysLight ∧
      (overtaken [(noon, .screenOn)]).shared.screenSwitchOperatorMgr.screenOffOperator =
        .switchToDark) := by
  decide

/-- The callbacks may still mix as long as the timer is through when the mode is set. -/
theorem choice_settled :
    Settled account (run (booted [(noon, .screenOn)]) (timerAndChoice ++ [.screenOff .setScreenOff])
      [0, 1, 3, 2, 0, 3, 2, 2]).shared := by
  apply settled_exec
  all_goals decide

end AllDayChoice
end UiAppearance
