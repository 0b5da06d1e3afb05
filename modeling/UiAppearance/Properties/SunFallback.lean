import UiAppearance.DarkMode.Timers
import UiAppearance.Properties.OverrideWindow
import UiAppearance.Properties.SunTimes

/-!
# Sun times that can be scheduled

Each of the two observers compares its value with the other time and falls back
to the default pair when the order is wrong. The schedule check asks for more:
a sunset on the first day, and less than a day between the two. A sequence of
notifications keeps an accepted pair exactly as long as every value is out of
order or meets these two bounds as well.
-/

namespace UiAppearance
namespace SunFallback

open AlarmTimerManager Transition SunTimes

variable {env : Env} {s : Service} {context : AccountContext}

/-- One of the two sun notifications of the context, or a write to a settings table. -/
def IsSunEvent (context : AccountContext) : Event → Prop
  | .settingChanged observer =>
    observer.context = context ∧ (observer.item = .sunset ∨ observer.item = .sunrise)
  | .settingWritten .. => True
  | _ => False

/-- The pair in memory is accepted, and setting the timers for it is not refused. -/
def Schedulable (context : AccountContext) (s : Service) : Prop :=
  AcceptedTimes (sunTimesOf s context) ∧
    ∀ env, (s.createOrUpdateTimers env (sunTimesOf s context).1 (sunTimesOf s context).2
      context).2 ≠ .invalidValue

/-- The value that is read is out of order and replaced, or it can be scheduled with the time that
is known of the other key. -/
def Fits (context : AccountContext) (s : Service) (e : Env × Event) : Prop :=
  match e.2 with
  | .settingChanged observer =>
    let times := sunTimesOf s context
    match observer.item with
    | .sunset =>
      let value := s.settingValue e.1 (Service.observedKey observer) context sunsetTimeDefault
      times.2 ≤ value ∨ (0 ≤ value ∧ value < 1440 ∧ times.2 < 1440 + value)
    | .sunrise =>
      let value := s.settingValue e.1 (Service.observedKey observer) context sunriseTimeDefault
      value ≤ times.1 ∨ value < 1440 + times.1
    | _ => True
  | _ => True

theorem schedulable_iff : Schedulable context s ↔ AcceptedTimes (sunTimesOf s context) := by
  constructor
  · exact fun h => h.1
  · intro haccepted
    refine ⟨haccepted, fun env hrefused => ?_⟩
    have hinvalid := setScheduleTime_invalidValue_iff.mp hrefused
    rw [haccepted.2.2] at hinvalid
    cases hinvalid

section Values

variable {state : DarkModeState} {value : ℤ}

/-- What a checked sunset makes of an accepted pair. -/
theorem accepted_withSunset_iff (hvalue : IsInt32 value)
    (h : AcceptedTimes (state.settingSunsetTime, state.settingSunriseTime)) :
    AcceptedTimes ((state.withSunset value).settingSunsetTime,
        (state.withSunset value).settingSunriseTime) ↔
      state.settingSunriseTime ≤ value ∨
        (0 ≤ value ∧ value < 1440 ∧ state.settingSunriseTime < 1440 + value) := by
  unfold DarkModeState.withSunset
  split_ifs with horder
  · have hdefault : AcceptedTimes (sunsetTimeDefault, sunriseTimeDefault) := by decide
    exact iff_of_true hdefault (.inl horder)
  · have hpair : AcceptedTimes (value, state.settingSunriseTime) ↔ _ :=
      (and_iff_right hvalue).trans
        ((and_iff_right h.2.1).trans (isValidScheduleTime_int hvalue h.2.1))
    rw [hpair]
    omega

theorem accepted_withSunrise_iff (hvalue : IsInt32 value)
    (h : AcceptedTimes (state.settingSunsetTime, state.settingSunriseTime)) :
    AcceptedTimes ((state.withSunrise value).settingSunsetTime,
        (state.withSunrise value).settingSunriseTime) ↔
      value ≤ state.settingSunsetTime ∨ value < 1440 + state.settingSunsetTime := by
  unfold DarkModeState.withSunrise
  split_ifs with horder
  · have hdefault : AcceptedTimes (sunsetTimeDefault, sunriseTimeDefault) := by decide
    exact iff_of_true hdefault (.inl horder)
  · have hpair : AcceptedTimes (state.settingSunsetTime, value) ↔ _ :=
      (and_iff_right h.1).trans ((and_iff_right hvalue).trans (isValidScheduleTime_int h.1 hvalue))
    have hbounds := h.bounds
    rw [hpair]
    omega

end Values

/-- The pair after a notification is the one its observer makes. -/
theorem stateOf_settingChanged (env : Env) (s : Service) (observer : DarkModeObserver) :
    (s.step (env, .settingChanged observer)).stateOf observer.context =
      s.observerState env observer (Service.observedKey observer) :=
  Service.stateOf_observerUpdateFunc ..

/-- One event of such a sequence. -/
theorem schedulable_step_iff {e : Env × Event} (h : AcceptedTimes (sunTimesOf s context))
    (he : IsSunEvent context e.2) : Schedulable context (s.step e) ↔ Fits context s e := by
  rw [schedulable_iff]
  obtain ⟨env, event⟩ := e
  cases event with
  | settingWritten userId key value => exact iff_of_true h trivial
  | settingChanged observer =>
    obtain ⟨item, context'⟩ := observer
    obtain ⟨rfl, hitem⟩ := he
    have hstate := stateOf_settingChanged env s ⟨item, context'⟩
    unfold sunTimesOf at *
    rw [hstate]
    rcases hitem with rfl | rfl
    · exact accepted_withSunset_iff (Service.isInt32_settingValue _ _ _ (by decide) _) h
    · exact accepted_withSunrise_iff (Service.isInt32_settingValue _ _ _ (by decide) _) h
  | _ => exact he.elim

/-- From the default pair on, the pair can be scheduled after every event exactly when every value
that is read fits. -/
theorem schedulable_iff_fits (hdefault : sunTimesOf s context = (1080, 1860))
    {es : Run} (hes : ∀ e ∈ es, IsSunEvent context e.2) :
    Along Service.step (fun s e => Schedulable context (s.step e)) s es ↔
      Along Service.step (Fits context) s es := by
  have haccepted : AcceptedTimes (sunTimesOf s context) := by
    rw [hdefault]
    decide
  have hsun : Along Service.step (fun _ e => IsSunEvent context e.2) s es := along_of_forall hes
  have hiff (s : Service) (e : Env × Event) (h : AcceptedTimes (sunTimesOf s context))
      (he : IsSunEvent context e.2) := schedulable_step_iff h he
  exact along_iff_of_invariant (I := fun s => AcceptedTimes (sunTimesOf s context))
    (fun s e _ _ hkept => hkept.1) hiff haccepted hsun

open OverrideWindow (clockAt sunRow)
open Scenario

/-- A sunset is stored for the account and its observer is called. -/
def sunset (env : Env) (text : String) : Run :=
  [(env, .settingWritten 100 SettingItem.sunset.key (some text)),
    (env, .settingChanged ⟨.sunset, account⟩)]

theorem summerSunset_schedulable :
    Along Service.step (fun s e => Schedulable account (s.step e)) connected
      (sunset calmEnv "1250") := by
  have hes : ∀ e ∈ sunset calmEnv "1250", IsSunEvent account e.2 := by
    intro e he
    rcases List.mem_cons.mp he with rfl | he
    · trivial
    · obtain rfl := List.mem_singleton.mp he
      exact ⟨rfl, .inl rfl⟩
  exact (schedulable_iff_fits rfl hes).mpr ⟨trivial, .inr (by decide), trivial⟩

/-- The service has followed the sun since noon, with the default times. -/
def followingSun : Service :=
  exec Service.step (Service.start Table.empty sunRow)
    [(clockAt 1 43500 (by decide), .onAddSystemAbility),
      (clockAt 1 43500 (by decide), .bootCompleted)]

/-- A negative sunset is in order, is kept, and ends the schedule: its timers are gone. -/
theorem negativeSunset_stops :
    let s := exec Service.step followingSun (sunset (clockAt 1 43560 (by decide)) "-100")
    sunTimesOf followingSun account = (1080, 1860) ∧
      (followingSun.alarmTimerManager.timerIdMap.lookup account.buildTimerKey).isSome = true ∧
      sunTimesOf s account = (-100, 1860) ∧
      (s.stateOf account).settingMode = .sunriseSunset ∧
      s.alarmTimerManager.timerIdMap.lookup account.buildTimerKey = none ∧
      ¬Schedulable account s := by
  refine ⟨by decide, by decide, by decide, by decide, by decide, ?_⟩
  rw [schedulable_iff]
  decide

end SunFallback
end UiAppearance
