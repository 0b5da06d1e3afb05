import UiAppearance.Ability.Appearance
import UiAppearance.DarkMode.Overrides
import UiAppearance.Properties.OverrideRespected

/-!
# Notifications that bring nothing new

Registering an observer notifies it, so a load is followed by five
notifications whose values are the ones just loaded. The observers of the mode
and of the custom times act on such a notification as on a new choice: they
apply the colour of the schedule and end an override. An effective override
survives unchanged notifications exactly when each of these three finds no
update callback or cannot set its timers.
-/

namespace UiAppearance
namespace UnchangedNotification

open Transition AlarmTimerManager

/-- The observer an event reaches, with the service it finds and the key it carries. -/
def reaches (s : Service) : Event → Option (Service × DarkModeObserver × String)
  | .settingChanged observer => some (s, observer, Service.observedKey observer)
  | .delivered n => (s.settingDataManager.inFlight[n]?).map fun observer =>
      (s.takeNotification n, observer.updateFunc, observer.key)
  | _ => none

/-- A notification for the context whose stored value is the one in memory, at a moment
inside the window of the record. -/
def Repeats (context : AccountContext) (r : TempColorModeInfo) (s : Service) (e : Env × Event) :
    Prop :=
  ∃ n ∈ reaches s e.2, n.2.1.context = context ∧
    n.1.observerState e.1 n.2.1 n.2.2 = s.stateOf context ∧ r.effective e.1.clock = true

/-- The notification belongs to one of the three observers that apply the colour again. -/
def Reapplies (s : Service) (e : Env × Event) : Prop :=
  ∃ n ∈ reaches s e.2, n.2.1.item.resets = true ∧ s.hasUpdateCallback = true ∧
    canCreate e.1 .start = true ∧ canCreate e.1 .finish = true

/-- A boot, a switch or another load that finds the record saved and still effective. -/
def Recalls (context : AccountContext) (r : TempColorModeInfo) (s : Service) (e : Env × Event) :
    Prop :=
  ∃ state needUpdateCallback bootLoadFlag,
    s.moveOf e = .load e.1 context state r needUpdateCallback bootLoadFlag ∧
      r.effective e.1.clock = true

instance (context : AccountContext) (r : TempColorModeInfo) (s : Service) (e : Env × Event) :
    Decidable (Repeats context r s e) :=
  inferInstanceAs (Decidable (∃ n ∈ reaches s e.2, _))

instance (s : Service) (e : Env × Event) : Decidable (Reapplies s e) :=
  inferInstanceAs (Decidable (∃ n ∈ reaches s e.2, _))

section UsersParam

variable (env : Env) (s : Service) (context : AccountContext)

theorem onChangeDarkMode_of_no_callback (h : s.hasUpdateCallback = false) (mode : DarkModeMode) :
    s.onChangeDarkMode env mode context = s := by
  unfold Service.onChangeDarkMode
  rw [h]
  rfl

theorem usersParam_updateDarkModeSchedule {resetTempColorModeFlag : Bool}
    (h : s.core.HeldBack env.clock context resetTempColorModeFlag) (mode : DarkModeMode)
    (bootLoadFlag : Bool) :
    (s.updateDarkModeSchedule env mode context resetTempColorModeFlag bootLoadFlag).usersParam =
      s.usersParam := by
  unfold Service.updateDarkModeSchedule
  dsimp only
  rcases h with hcallback | ⟨rfl, hfollows⟩
  · have hreset : s.resetScreenOffOperateInfo.hasUpdateCallback = false := hcallback
    simp only [onChangeDarkMode_of_no_callback env _ context hreset]
    split_ifs <;> rfl
  · have hreset : s.resetScreenOffOperateInfo.followsSchedule env context = false :=
      (Service.followsSchedule_eq ..).trans hfollows
    simp only [hreset, Bool.false_eq_true, if_false, ite_self]
    rfl

theorem usersParam_onStateChangeToCustomAutoMode {state : DarkModeState}
    {resetTempColorModeFlag : Bool} (hmode : state.settingMode.isSchedule = true)
    (h : s.core.HeldBack env.clock context resetTempColorModeFlag ∨ state.actionable env = false)
    (isDarkMode : Bool) :
    (s.onStateChangeToCustomAutoMode env context state true isDarkMode resetTempColorModeFlag
      false).service.usersParam = s.usersParam := by
  have hok := Service.createOrUpdateTimers_ok_iff env s context hmode
  unfold Service.onStateChangeToCustomAutoMode
  dsimp only
  by_cases hset : (s.createOrUpdateTimers env state.scheduleTime.1 state.scheduleTime.2
      context).2 = .ok
  · have hheld : (s.createOrUpdateTimers env state.scheduleTime.1
        state.scheduleTime.2 context).1.core.HeldBack env.clock context resetTempColorModeFlag :=
      h.resolve_right (by rw [hok.mp hset]; decide)
    rw [if_pos hset, if_pos rfl]
    exact usersParam_updateDarkModeSchedule env _ context hheld _ _
  · rw [if_neg hset]
    rfl

/-- Reacting to a schedule that is held back, or cannot be set, changes no colour in memory. -/
theorem usersParam_onStateChangeLocked {resetTempColorModeFlag : Bool}
    (hmode : (s.stateOf context).settingMode.isSchedule = true)
    (h : s.core.HeldBack env.clock context resetTempColorModeFlag ∨
      (s.stateOf context).actionable env = false) :
    (s.onStateChangeLocked env context true false resetTempColorModeFlag
      false).service.usersParam = s.usersParam := by
  have hcore : (s.touchState context).core.HeldBack env.clock context resetTempColorModeFlag ∨
      (s.stateOf context).actionable env = false := by
    rw [Service.core_touchState]
    exact h
  unfold Service.onStateChangeLocked
  dsimp only
  cases hm : (s.stateOf context).settingMode with
  | customAuto => exact usersParam_onStateChangeToCustomAutoMode env _ context hmode hcore false
  | sunriseSunset =>
    exact usersParam_onStateChangeToCustomAutoMode env _ context hmode hcore false
  | alwaysLight => simp [hm, DarkModeMode.isSchedule] at hmode
  | alwaysDark => simp [hm, DarkModeMode.isSchedule] at hmode
  | invalid => simp [hm, DarkModeMode.isSchedule] at hmode

/-- The same for a whole observer, whose state is the one it stores. -/
theorem usersParam_observerUpdateFunc {observer : DarkModeObserver} {key : String}
    (hmode : (s.observerState env observer key).settingMode.isSchedule = true)
    (h : s.core.HeldBack env.clock observer.context observer.item.resets ∨
      (s.observerState env observer key).actionable env = false) :
    (s.observerUpdateFunc env observer key).usersParam = s.usersParam := by
  have hlocked : ((s.setState observer.context (s.observerState env observer
      key)).onStateChangeLocked env observer.context true false observer.item.resets
      false).service.usersParam = s.usersParam := by
    apply usersParam_onStateChangeLocked
    · rw [Service.stateOf_setState_self]
      exact hmode
    · rw [Service.stateOf_setState_self]
      exact h
  unfold Service.observerUpdateFunc
  unfold Service.observerState at hlocked
  cases hitem : observer.item with
  | mode =>
    rw [hitem] at hlocked
    simp only [Service.settingDataDarkModeModeUpdateFunc, Service.settingDataDarkModeModeLocked]
    split_ifs
    · rw [Service.usersParam_of_appearance (Service.appearance_initSunriseSunsetMode ..)]
      exact hlocked
    · exact hlocked
  | startTime | endTime | sunset | sunrise =>
    rw [hitem] at hlocked
    exact hlocked

end UsersParam

section Steps

variable {s : Service} {context : AccountContext} {r : TempColorModeInfo} {e : Env × Event}

theorem step_of_reaches {n : Service × DarkModeObserver × String} (h : n ∈ reaches s e.2) :
    s.step e = n.1.observerUpdateFunc e.1 n.2.1 n.2.2 ∧ n.1.core = s.core ∧
      n.1.usersParam = s.usersParam := by
  obtain ⟨env, event⟩ := e
  cases event with
  | settingChanged observer =>
    obtain rfl := Option.some.inj h
    exact ⟨rfl, rfl, rfl⟩
  | delivered i =>
    obtain ⟨observer, hobserver, rfl⟩ := Option.map_eq_some_iff.mp h
    refine ⟨?_, rfl, rfl⟩
    change s.deliver env i = _
    unfold Service.deliver
    rw [hobserver]
  | _ => cases h

theorem setState_stateOf (k : Core) : k.setState context (k.stateOf context) = k := by
  simp [Core.setState]

/-- A repeated value only makes the service react to the state it has. -/
theorem core_step_of_repeats {n : Service × DarkModeObserver × String} (h : n ∈ reaches s e.2)
    (hcontext : n.2.1.context = context)
    (hsame : n.1.observerState e.1 n.2.1 n.2.2 = s.stateOf context) :
    (s.step e).core = s.core.react e.1 context true n.2.1.item.resets false := by
  obtain ⟨hstep, hcore, -⟩ := step_of_reaches h
  rw [hstep, Service.core_observerUpdateFunc, hcore, hcontext, hsame]
  unfold Core.observe
  have hself : s.core.setState context (s.stateOf context) = s.core := setState_stateOf s.core
  rw [hself]

theorem actionable_iff {state : DarkModeState} {env : Env}
    (hmode : state.settingMode.isSchedule = true) (haccepted : state.accepted = true) :
    state.actionable env = true ↔ canCreate env .start = true ∧ canCreate env .finish = true := by
  unfold DarkModeState.actionable
  rw [haccepted]
  cases hm : state.settingMode <;> simp_all [DarkModeMode.isSchedule]

/-- A repeated value ends the override at most. -/
theorem endsAtMost_step_of_repeats (h : Repeats context r s e) :
    Core.EndsAtMost context s.core (s.step e).core := by
  obtain ⟨n, hn, hcontext, hsame, -⟩ := h
  rw [core_step_of_repeats hn hcontext hsame]
  exact Core.endsAtMost_react ..

theorem stateOf_step_of_repeats (h : Repeats context r s e) :
    (s.step e).stateOf context = s.stateOf context :=
  (endsAtMost_step_of_repeats h).state

/-- An override that has ended is not taken up again by a repeated value. -/
theorem stays_ended (h : Repeats context r s e)
    (hended : (s.tempInfoOf context).isTemporary = false) :
    ((s.step e).tempInfoOf context).isTemporary = false := by
  rcases (endsAtMost_step_of_repeats h).override with hkept | hnow
  · have hkept' : (s.step e).tempInfoOf context = s.tempInfoOf context := hkept
    rw [hkept']
    exact hended
  · exact hnow

/-- One of the three observers, with a callback and timers, ends the override. -/
theorem ended_of_reapplies (hmode : (s.stateOf context).settingMode.isSchedule = true)
    (haccepted : (s.stateOf context).accepted = true) (h : Repeats context r s e)
    (hre : Reapplies s e) : ((s.step e).tempInfoOf context).isTemporary = false := by
  obtain ⟨n, hn, hcontext, hsame, -⟩ := h
  obtain ⟨n', hn', hresets, hcallback, hstart, hfinish⟩ := hre
  obtain rfl : n = n' := Option.some.inj (hn.symm.trans hn')
  have hactionable : (s.core.stateOf context).actionable e.1 = true :=
    (actionable_iff hmode haccepted).mpr ⟨hstart, hfinish⟩
  change ((s.step e).core.overrideOf context).isTemporary = false
  rw [core_step_of_repeats hn hcontext hsame, hresets]
  unfold Core.react Core.update
  rw [hactionable, Bool.and_self, if_pos rfl, if_pos rfl]
  have hreset : s.core.reset.hasUpdateCallback = true := hcallback
  exact Core.change_ends hreset _

/-- Otherwise the callback is missing, the override holds the schedule back, or the timers cannot
be set. -/
theorem heldBack_of_not_reapplies (hmode : (s.stateOf context).settingMode.isSchedule = true)
    (haccepted : (s.stateOf context).accepted = true)
    (heffective : (s.tempInfoOf context).effective e.1.clock = true)
    {n : Service × DarkModeObserver × String} (hn : n ∈ reaches s e.2) (hnot : ¬Reapplies s e) :
    s.core.HeldBack e.1.clock context n.2.1.item.resets ∨
      (s.stateOf context).actionable e.1 = false := by
  have hfollows : s.core.follows e.1.clock context = false := by
    have hoverride : (s.core.overrideOf context).effective e.1.clock = true := heffective
    unfold Core.follows
    rw [hoverride]
    rfl
  by_contra hcon
  obtain ⟨hfree, hactionable⟩ := not_or.mp hcon
  obtain ⟨hcallback, hresets⟩ := not_or.mp hfree
  have hcallback' : s.hasUpdateCallback = true := Bool.not_eq_false _ ▸ hcallback
  have hresets' : n.2.1.item.resets = true := by simpa [hfollows] using hresets
  have htimers := (actionable_iff hmode haccepted).mp (Bool.not_eq_false _ ▸ hactionable)
  exact hnot ⟨n, hn, hresets', hcallback', htimers⟩

/-- Any other repeated value leaves the override and the colours in memory alone. -/
theorem kept_of_not_reapplies (hmode : (s.stateOf context).settingMode.isSchedule = true)
    (haccepted : (s.stateOf context).accepted = true) (hrecord : s.tempInfoOf context = r)
    (h : Repeats context r s e) (hnot : ¬Reapplies s e) :
    (s.step e).tempInfoOf context = r ∧ (s.step e).usersParam = s.usersParam := by
  obtain ⟨n, hn, hcontext, hsame, heffective⟩ := h
  obtain ⟨hstep, hcore, husers⟩ := step_of_reaches hn
  have hheld := heldBack_of_not_reapplies hmode haccepted (by rw [hrecord]; exact heffective) hn
    hnot
  constructor
  · change (s.step e).core.overrideOf context = r
    rw [core_step_of_repeats hn hcontext hsame, ← hrecord]
    have hstate : s.core.stateOf context = s.stateOf context := rfl
    unfold Core.react
    rw [hstate]
    rcases hheld with hheld | hactionable
    · split_ifs
      · rw [hheld.overrideOf_update]
        rfl
      · rfl
    · rw [hactionable]
      rfl
  · rw [hstep, ← husers]
    apply usersParam_observerUpdateFunc
    · rw [hsame]
      exact hmode
    · rw [hsame, hcontext, hcore]
      exact hheld

end Steps

section Runs

variable {s : Service} {context : AccountContext} {r : TempColorModeInfo}

theorem run_stays_ended {es : Run} (hes : Along Service.step (Repeats context r) s es)
    (hended : (s.tempInfoOf context).isTemporary = false) :
    ((exec Service.step s es).tempInfoOf context).isTemporary = false := by
  refine exec_invariant (I := fun s : Service => (s.tempInfoOf context).isTemporary = false)
    ?_ hended hes
  intro s e hs he
  exact stays_ended he hs

/-- Through any number of repeated values. -/
theorem run_kept_iff (htemp : r.isTemporary = true) (es : Run) {s : Service}
    (hmode : (s.stateOf context).settingMode.isSchedule = true)
    (haccepted : (s.stateOf context).accepted = true) (hrecord : s.tempInfoOf context = r)
    (hes : Along Service.step (Repeats context r) s es) :
    ((exec Service.step s es).tempInfoOf context = r ∧
        (exec Service.step s es).usersParam = s.usersParam) ↔
      Along Service.step (fun s e => ¬Reapplies s e) s es := by
  induction es generalizing s with
  | nil => exact iff_of_true ⟨hrecord, rfl⟩ trivial
  | cons e es ih =>
    obtain ⟨he, hrest⟩ := hes
    have hstate := stateOf_step_of_repeats he
    by_cases hre : Reapplies s e
    · have hended := ended_of_reapplies hmode haccepted he hre
      refine iff_of_false ?_ fun h => h.1 hre
      rintro ⟨hkept, -⟩
      have hlast := run_stays_ended hrest hended
      rw [exec_cons] at hkept
      rw [hkept, htemp] at hlast
      cases hlast
    · obtain ⟨hrecord', husers⟩ := kept_of_not_reapplies hmode haccepted hrecord he hre
      have hih := ih (by rw [hstate]; exact hmode) (by rw [hstate]; exact haccepted) hrecord' hrest
      rw [exec_cons, ← husers]
      exact hih.trans ⟨fun h => ⟨hre, h⟩, fun h => h.2⟩

/-- A load that finds the record effective has it in memory afterwards. -/
theorem tempInfoOf_of_recalls {e : Env × Event}
    (h : Recalls context r s e) : (s.step e).tempInfoOf context = r := by
  obtain ⟨state, needUpdateCallback, bootLoadFlag, hmove, heffective⟩ := h
  change (s.step e).core.overrideOf context = r
  rw [Service.core_step, hmove]
  have hloaded := Core.loadedRecord_of_effective heffective
  have hheld (k : Core) (hk : k.overrideOf context = r) :
      k.HeldBack e.1.clock context false := by
    refine .inr ⟨rfl, ?_⟩
    unfold Core.follows
    rw [hk, heffective]
    rfl
  simp only [Core.next]
  unfold Core.load Core.react
  rw [hloaded]
  split_ifs
  · rw [(hheld _ (by simp [Core.setOverride, Core.reset])).overrideOf_update]
    simp [Core.setOverride, Core.reset]
  · simp [Core.setOverride, Core.reset]

/-- The record in memory, or taken up by one load. -/
def Starts (context : AccountContext) (r : TempColorModeInfo) (s : Service) (first : Run) : Prop :=
  (first = [] ∧ s.tempInfoOf context = r) ∨ ∃ e, first = [e] ∧ Recalls context r s e

/-- An effective override, in memory or just loaded, survives repeated values exactly when none
of them reaches an observer that applies the colour again with a callback and timers. -/
theorem override_kept_iff {first es : Run} (htemp : r.isTemporary = true)
    (hfirst : Starts context r s first)
    (hmode : ((exec Service.step s first).stateOf context).settingMode.isSchedule = true)
    (haccepted : ((exec Service.step s first).stateOf context).accepted = true)
    (hes : Along Service.step (Repeats context r) (exec Service.step s first) es) :
    ((exec Service.step s (first ++ es)).tempInfoOf context = r ∧
        (exec Service.step s (first ++ es)).usersParam =
          (exec Service.step s first).usersParam) ↔
      Along Service.step (fun s e => ¬Reapplies s e) (exec Service.step s first) es := by
  have hrecord : (exec Service.step s first).tempInfoOf context = r := by
    rcases hfirst with ⟨rfl, hrecord⟩ | ⟨e, rfl, hrecalls⟩
    · exact hrecord
    · exact tempInfoOf_of_recalls hrecalls
  rw [exec_append]
  exact run_kept_iff htemp es hmode haccepted hrecord hes

end Runs

section Noon

open OverrideRespected Scenario

/-- A reboot inside the window, up to the load. -/
def rebooted : Service :=
  exec Service.step overridden
    [(noonAnd 10 (by decide), .rebooted), (noonAnd 11 (by decide), .onAddSystemAbility),
      (noonAnd 12 (by decide), .bootCompleted)]

/-- A notification with the mode in memory ends the light override of the dark noon, and so
does the first notification that the registration after a reboot causes. -/
theorem repeated_ends_override :
    Repeats account (overridden.tempInfoOf account) overridden
        (noonAnd 5 (by decide), .settingChanged ⟨.mode, account⟩) ∧
      overridden.currentDarkMode account = .alwaysLight ∧
      (overridden.step (noonAnd 5 (by decide),
        .settingChanged ⟨.mode, account⟩)).currentDarkMode account = .alwaysDark ∧
      ((overridden.step (noonAnd 5 (by decide),
        .settingChanged ⟨.mode, account⟩)).tempInfoOf account).isTemporary = false ∧
      rebooted.tempInfoOf account = overridden.tempInfoOf account ∧
      Repeats account (rebooted.tempInfoOf account) rebooted
        (noonAnd 13 (by decide), .delivered 0) ∧
      ((rebooted.step (noonAnd 13 (by decide), .delivered 0)).tempInfoOf account).isTemporary =
        false := by
  decide

/-- The same notification while no timer can be created, and a repeated sunset. -/
theorem withoutTimers_kept :
    (exec Service.step overridden
        [({ noonAnd 5 (by decide) with createTimer := fun _ => 0 },
            .settingChanged ⟨.mode, account⟩),
          (noonAnd 6 (by decide), .settingChanged ⟨.sunset, account⟩)]).tempInfoOf account =
        overridden.tempInfoOf account ∧
      (exec Service.step overridden
        [({ noonAnd 5 (by decide) with createTimer := fun _ => 0 },
            .settingChanged ⟨.mode, account⟩),
          (noonAnd 6 (by decide), .settingChanged ⟨.sunset, account⟩)]).usersParam =
        overridden.usersParam := by
  have hstarts : Starts account (overridden.tempInfoOf account) overridden [] := .inl ⟨rfl, rfl⟩
  exact (override_kept_iff (by decide) hstarts (by decide) (by decide) (by decide)).mpr (by decide)

end Noon

end UnchangedNotification
end UiAppearance
