import UiAppearance.DarkMode.Timers
import UiAppearance.Schedule.KeyTimers

/-!
# The timers of the observed context

While the time service works, the timers of the observed context follow its
settings by a small calculation, and no other key has any. Here is that
calculation, operation by operation.
-/

namespace UiAppearance

namespace KeyTimers

/-- The schedule that the state of a context asks for. -/
def wanted (context : AccountContext) (state : DarkModeState) :
    Option ((ℕ × ℕ) × TimerCallback × TimerCallback) :=
  if state.settingMode.isSchedule && state.accepted then
    let callback := TimerCallback.schedule state.scheduleTime.1 state.scheduleTime.2 context
    some ((toUInt64 state.scheduleTime.1, toUInt64 state.scheduleTime.2), callback, callback)
  else none

/-- A reaction to a state. A schedule that is rejected takes all timers with it, and a mode that is
`INVALID` none. -/
def reacted (context : AccountContext) (state : DarkModeState) (t : KeyTimers TimerCallback) :
    KeyTimers TimerCallback :=
  if state.settingMode = .invalid then t
  else if state.settingMode.isSchedule && state.accepted then
    { t with schedule := wanted context state }
  else {}

/-- A load reacts to the state, and sees to the recalculation timer in sun mode only. -/
def loaded (context : AccountContext) (state : DarkModeState) (t : KeyTimers TimerCallback) :
    KeyTimers TimerCallback :=
  if state.settingMode = .sunriseSunset then
    (t.reacted context state).recalculated (.recalculation context)
  else t.reacted context state

/-- A notification reacts to the state; only that of the mode sees to the recalculation timer. -/
def notified (item : SettingItem) (context : AccountContext) (state : DarkModeState)
    (t : KeyTimers TimerCallback) : KeyTimers TimerCallback :=
  if item ≠ .mode then t.reacted context state
  else if state.settingMode = .sunriseSunset then
    (t.reacted context state).recalculated (.recalculation context)
  else { t.reacted context state with recalculation := none }

end KeyTimers

namespace Service

open AlarmTimerManager

section Observing

variable (env : Env) (s : Service) (context : AccountContext)

/-- The two fields that say which context is observed. -/
def observing : AccountContext × ℤ := (s.settingDataObserversContext, s.settingDataObserversUserId)

variable {s} in
theorem observing_of_frame {s' : Service} (h : s'.beyondSchedule = s.beyondSchedule) :
    s'.observing = s.observing := by
  change s'.beyondSchedule.observing = s.beyondSchedule.observing
  rw [h]

@[simp] theorem observing_onStateChangeLocked
    (needUpdateCallback isDarkMode resetTempColorModeFlag bootLoadFlag : Bool) :
    (s.onStateChangeLocked env context needUpdateCallback isDarkMode resetTempColorModeFlag
      bootLoadFlag).service.observing = s.observing :=
  (observing_of_frame (beyondSchedule_onStateChangeLocked ..)).trans rfl

@[simp] theorem observing_calculateAndApplySunriseSunsetTimes :
    (s.calculateAndApplySunriseSunsetTimes env context).observing = s.observing := by
  obtain ⟨r, hr⟩ := s.calculateAndApplySunriseSunsetTimes_eq env context
  rw [hr]
  rfl

@[simp] theorem observing_initSunriseSunsetMode :
    (s.initSunriseSunsetMode env context).observing = s.observing := by
  unfold initSunriseSunsetMode
  dsimp only
  split_ifs
  · exact observing_calculateAndApplySunriseSunsetTimes ..
  · exact observing_calculateAndApplySunriseSunsetTimes ..

@[simp] theorem observing_observerUpdateFunc (observer : DarkModeObserver) (key : String) :
    (s.observerUpdateFunc env observer key).observing = s.observing := by
  unfold observerUpdateFunc
  cases observer.item with
  | mode =>
    dsimp only
    unfold settingDataDarkModeModeUpdateFunc settingDataDarkModeModeLocked
    dsimp only
    split_ifs
    · rw [observing_initSunriseSunsetMode]
      exact observing_onStateChangeLocked ..
    · exact observing_onStateChangeLocked env (s.setState observer.context _) ..
  | startTime => exact observing_onStateChangeLocked env (s.setState observer.context _) ..
  | endTime => exact observing_onStateChangeLocked env (s.setState observer.context _) ..
  | sunset => exact observing_onStateChangeLocked env (s.setState observer.context _) ..
  | sunrise => exact observing_onStateChangeLocked env (s.setState observer.context _) ..

theorem observing_loadedService : (s.loadedService env context).observing = s.observing := by
  have hsetting (s : Service) (item : SettingItem) (default : ℤ) :
      (s.loadSetting env item context default).1.observing = s.observing := by
    obtain ⟨r, hr⟩ := s.loadSetting_eq env context item default
    rw [hr]
    rfl
  have hexpire (s : Service) : (s.expireTemporary env context).observing = s.observing := by
    unfold expireTemporary
    split_ifs
    · exact observing_of_frame (beyondSchedule_setColorModeNormal ..)
    · rfl
  change (expireTemporary _ _ _).observing = _
  rw [hexpire]
  change (s.loadState env context).1.observing = _
  simp [loadState, hsetting]

@[simp] theorem observing_loadUserSettingData (needUpdateCallback isDarkMode bootLoadFlag : Bool) :
    (s.loadUserSettingData env context needUpdateCallback isDarkMode
      bootLoadFlag).service.observing = s.observing := by
  have hreacted : ((s.loadedService env context).onStateChangeLocked env context needUpdateCallback
      isDarkMode false bootLoadFlag).service.observing = s.observing :=
    (observing_onStateChangeLocked ..).trans (observing_loadedService env s context)
  unfold loadUserSettingData
  dsimp only
  split_ifs
  · rw [observing_initSunriseSunsetMode]
    exact hreacted
  · exact hreacted

theorem observing_restartTimer : (s.restartTimer env).observing = s.observing := by
  have hupdate (s : Service) (startTime endTime : ℤ) (context : AccountContext) :
      (s.restartTimerUpdate env startTime endTime context).observing = s.observing :=
    observing_of_frame (s := s) (beyondSchedule_updateDarkModeSchedule ..)
  unfold restartTimer
  dsimp only
  split
  · rfl
  · split
    · exact observing_calculateAndApplySunriseSunsetTimes ..
    · rw [hupdate]
      exact observing_calculateAndApplySunriseSunsetTimes ..
  · rw [hupdate]
    rfl

theorem observing_scheduleTimerCallback (startTime endTime : ℤ) :
    (s.scheduleTimerCallback env startTime endTime context).observing = s.observing := by
  unfold scheduleTimerCallback
  split
  · rfl
  · exact observing_of_frame (s := s.touchState context) (beyondSchedule_updateDarkModeSchedule ..)

theorem observing_recalculationCallback :
    (s.recalculationCallback env context).observing = s.observing := by
  unfold recalculationCallback
  split_ifs
  · exact observing_calculateAndApplySunriseSunsetTimes ..
  · rfl

end Observing

section Reaction

variable {env : Env} {m : AlarmTimerManager TimerCallback} {context : AccountContext}
  {t : KeyTimers TimerCallback} {state : DarkModeState}

/-- Bounds that are rejected clear the key, others arm it. -/
theorem scheduleTimers_eq (hw : Working env) :
    scheduleTimers env context m state.scheduleTime =
      if state.accepted then
        m.withTimers env context.buildTimerKey (toUInt64 state.scheduleTime.1)
          (toUInt64 state.scheduleTime.2)
          (.schedule state.scheduleTime.1 state.scheduleTime.2 context)
          (.schedule state.scheduleTime.1 state.scheduleTime.2 context)
      else m.clearTimerByUserId env context.buildTimerKey := by
  unfold scheduleTimers
  dsimp only
  cases haccepted : state.accepted with
  | true =>
    rw [setScheduleTime_eq hw haccepted]
    rfl
  | false =>
    have hrejected (callback : TimerCallback) : m.setScheduleTime env
        (toUInt64 state.scheduleTime.1) (toUInt64 state.scheduleTime.2) context.buildTimerKey
        callback callback = (m, .invalidValue) := by
      unfold setScheduleTime
      rw [show isValidScheduleTime _ _ = false from haccepted]
      rfl
    rw [hrejected]
    rfl

/-- A reaction to a state, on the timers of the key. -/
theorem holds_timersFor (hw : Working env) (hunused : ∀ name, Unused env m name)
    (h : m.Holds context.buildTimerKey t) (state : DarkModeState) :
    (timersFor env context m state).Holds context.buildTimerKey (t.reacted context state) := by
  have hschedule (hmode : state.settingMode.isSchedule = true) :
      (scheduleTimers env context m state.scheduleTime).Holds context.buildTimerKey
        (if state.accepted then { t with schedule := KeyTimers.wanted context state } else {}) := by
    rw [scheduleTimers_eq hw]
    unfold KeyTimers.wanted
    rw [hmode, Bool.true_and]
    split_ifs
    · exact holds_withTimers hw hunused h
    · exact holds_clearTimerByUserId m context.buildTimerKey
  unfold timersFor KeyTimers.reacted
  cases hmode : state.settingMode with
  | invalid => exact h
  | alwaysLight => exact holds_clearTimerByUserId _ context.buildTimerKey
  | alwaysDark => exact holds_clearTimerByUserId _ context.buildTimerKey
  | customAuto => simpa [DarkModeMode.isSchedule] using hschedule (by rw [hmode]; rfl)
  | sunriseSunset => simpa [DarkModeMode.isSchedule] using hschedule (by rw [hmode]; rfl)

/-- Whatever becomes of the key, the others are left alone and no identifier is taken that the
recalculation timer needs. -/
theorem timersFor_elsewhere (hw : Working env) (m : AlarmTimerManager TimerCallback)
    (context : AccountContext) (state : DarkModeState) :
    (∀ userId, userId ≠ context.buildTimerKey →
      (timersFor env context m state).entries userId = m.entries userId) ∧
      (Unused env m .recalculation →
        Unused env (timersFor env context m state) .recalculation) := by
  have hschedule : (∀ userId, userId ≠ context.buildTimerKey →
      (scheduleTimers env context m state.scheduleTime).entries userId = m.entries userId) ∧
      (Unused env m .recalculation →
        Unused env (scheduleTimers env context m state.scheduleTime) .recalculation) := by
    rw [scheduleTimers_eq hw]
    split_ifs
    · exact ⟨fun _ => entries_withTimers_of_ne, unused_withTimers hw⟩
    · exact ⟨fun _ => entries_clearTimerByUserId_of_ne, Unused.clearTimerByUserId⟩
  have hallDay : (∀ userId, userId ≠ context.buildTimerKey →
      ((m.clearRecalculationTimer env context.buildTimerKey).clearTimerByUserId env
        context.buildTimerKey).entries userId = m.entries userId) ∧
      (Unused env m .recalculation →
        Unused env ((m.clearRecalculationTimer env context.buildTimerKey).clearTimerByUserId env
          context.buildTimerKey) .recalculation) :=
    ⟨fun _ h =>
        (entries_clearTimerByUserId_of_ne h).trans (entries_clearRecalculationTimer_of_ne _ _ h),
      fun h => h.clearRecalculationTimer.clearTimerByUserId⟩
  unfold timersFor
  cases state.settingMode with
  | invalid => exact ⟨fun _ _ => rfl, id⟩
  | alwaysLight => exact hallDay
  | alwaysDark => exact hallDay
  | customAuto => exact hschedule
  | sunriseSunset => exact hschedule

end Reaction

/-- The observed context has these timers, and no other key has any. -/
structure Tracks (s : Service) (t : KeyTimers TimerCallback) : Prop where
  user : s.settingDataObserversUserId = s.settingDataObserversContext.userId
  observed : s.alarmTimerManager.Holds s.settingDataObserversContext.buildTimerKey t
  elsewhere : ∀ userId, userId ≠ s.settingDataObserversContext.buildTimerKey →
    s.alarmTimerManager.Holds userId {}
  unobserved : s.settingDataObserversContext.userId = invalidUserId → t = {}

/-- The switch is not rejected. -/
def switches (env : Env) (s : Service) (context : AccountContext) : Bool :=
  decide ((s.settingDataManager.initializeManager env).2 = .ok) &&
    decide (invalidUserId < context.userId)

namespace Tracks

variable {env : Env} {s s' : Service} {t t' : KeyTimers TimerCallback}

/-- An operation for the observed context that is known on its key and elsewhere. -/
theorem of_timers (h : s.Tracks t) (hobserving : s'.observing = s.observing)
    (huser : s.settingDataObserversContext.userId ≠ invalidUserId)
    (hkey : s'.alarmTimerManager.Holds s.settingDataObserversContext.buildTimerKey t')
    (helsewhere : ∀ userId, userId ≠ s.settingDataObserversContext.buildTimerKey →
      s'.alarmTimerManager.entries userId = s.alarmTimerManager.entries userId) :
    s'.Tracks t' := by
  obtain ⟨hcontext, hid⟩ := Prod.mk.inj hobserving
  refine ⟨?_, ?_, ?_, ?_⟩
  · rw [hid, hcontext, h.user]
  · rw [hcontext]
    exact hkey
  · rw [hcontext]
    intro userId hne
    exact holds_nothing_of_entries (helsewhere userId hne) (h.elsewhere userId hne)
  · rw [hcontext]
    exact fun hinvalid => absurd hinvalid huser

theorem of_running (h : s.Tracks t) (hobserving : s'.observing = s.observing)
    (hentries : s'.alarmTimerManager.entries = s.alarmTimerManager.entries)
    (hrunning : ∀ id name callback, s.alarmTimerManager.Running id name callback →
      s'.alarmTimerManager.Running id name callback) : s'.Tracks t := by
  obtain ⟨hcontext, hid⟩ := Prod.mk.inj hobserving
  refine ⟨?_, ?_, ?_, ?_⟩
  · rw [hid, hcontext, h.user]
  · rw [hcontext]
    exact h.observed.of_running (congrFun hentries _) hrunning
  · rw [hcontext]
    exact fun userId hne =>
      holds_nothing_of_entries (congrFun hentries userId) (h.elsewhere userId hne)
  · rw [hcontext]
    exact h.unobserved

theorem observerUpdateFunc (hw : Working env)
    (hunused : ∀ name, Unused env s.alarmTimerManager name) (h : s.Tracks t)
    {observer : DarkModeObserver} (hobserved : observer.context = s.settingDataObserversContext)
    (huser : s.settingDataObserversContext.userId ≠ invalidUserId) (key : String) :
    (s.observerUpdateFunc env observer key).Tracks
      (t.notified observer.item observer.context (s.observerState env observer key)) := by
  have hkey := h.observed
  rw [← hobserved] at hkey
  have hreacted := holds_timersFor hw hunused hkey (s.observerState env observer key)
  obtain ⟨helsewhere, hrecalculation⟩ := timersFor_elsewhere hw s.alarmTimerManager
    observer.context (s.observerState env observer key)
  refine h.of_timers (observing_observerUpdateFunc ..) huser ?_ ?_
  · rw [← hobserved, alarmTimerManager_observerUpdateFunc]
    unfold KeyTimers.notified
    dsimp only
    split_ifs
    · exact hreacted
    · exact holds_setRecalculationTimer hw (hrecalculation (hunused .recalculation)) hreacted _
    · exact holds_clearRecalculationTimer hreacted
  · intro userId hne
    rw [← hobserved] at hne
    rw [alarmTimerManager_observerUpdateFunc]
    dsimp only
    split_ifs
    · exact helsewhere userId hne
    · exact (entries_setRecalculationTimer_of_ne hne _).trans (helsewhere userId hne)
    · exact (entries_clearRecalculationTimer_of_ne _ _ hne).trans (helsewhere userId hne)

theorem loadUserSettingData (hw : Working env)
    (hunused : ∀ name, Unused env s.alarmTimerManager name) (h : s.Tracks t)
    (huser : s.settingDataObserversContext.userId ≠ invalidUserId)
    (needUpdateCallback isDarkMode bootLoadFlag : Bool) :
    (s.loadUserSettingData env s.settingDataObserversContext needUpdateCallback isDarkMode
      bootLoadFlag).service.Tracks (t.loaded s.settingDataObserversContext
        (s.loadState env s.settingDataObserversContext).2) := by
  have hreacted := holds_timersFor hw hunused h.observed
    (s.loadState env s.settingDataObserversContext).2
  obtain ⟨helsewhere, hrecalculation⟩ := timersFor_elsewhere hw s.alarmTimerManager
    s.settingDataObserversContext (s.loadState env s.settingDataObserversContext).2
  refine h.of_timers (observing_loadUserSettingData ..) huser ?_ ?_
  · rw [alarmTimerManager_loadUserSettingData]
    unfold KeyTimers.loaded
    dsimp only
    split_ifs
    · exact holds_setRecalculationTimer hw (hrecalculation (hunused .recalculation)) hreacted _
    · exact hreacted
  · intro userId hne
    rw [alarmTimerManager_loadUserSettingData]
    dsimp only
    split_ifs
    · exact (entries_setRecalculationTimer_of_ne hne _).trans (helsewhere userId hne)
    · exact helsewhere userId hne

theorem restartTimer (h : s.Tracks t) : (s.restartTimer env).Tracks t := by
  refine h.of_running (observing_restartTimer env s) ?_ ?_
  · rw [alarmTimerManager_restartTimer]
    split_ifs
    · exact (restartAllTimer_keeps _).1
    · rfl
  · intro id name callback hrunning
    rw [alarmTimerManager_restartTimer]
    split_ifs
    · exact (restartAllTimer_keeps _).2 id name callback hrunning
    · exact hrunning

theorem scheduleTimerCallback (h : s.Tracks t) (startTime endTime : ℤ) (context : AccountContext) :
    (s.scheduleTimerCallback env startTime endTime context).Tracks t := by
  have htimers := alarmTimerManager_scheduleTimerCallback env s context startTime endTime
  refine h.of_running (observing_scheduleTimerCallback ..) (by rw [htimers]) ?_
  intro id name callback hrunning
  rwa [htimers]

theorem recalculationCallback (h : s.Tracks t) (context : AccountContext) :
    (s.recalculationCallback env context).Tracks t := by
  have htimers := alarmTimerManager_recalculationCallback env s context
  refine h.of_running (observing_recalculationCallback ..) (by rw [htimers]) ?_
  intro id name callback hrunning
  rwa [htimers]

/-- A switch leaves no timer behind, and sets none. -/
theorem onSwitchContext (env : Env) (h : s.Tracks t) (context : AccountContext) :
    (s.onSwitchContext env context).1.Tracks (if switches env s context then {} else t) := by
  have hsettings (s' : Service) (hobserving : s'.observing = s.observing)
      (htimers : s'.alarmTimerManager = s.alarmTimerManager) : s'.Tracks t := by
    refine h.of_running hobserving (by rw [htimers]) fun _ _ _ hrunning => ?_
    rwa [htimers]
  have hcontext : s.observedContext = s.settingDataObserversContext := by
    unfold observedContext
    rw [h.user]
    split_ifs with hfallback
    · simp at hfallback
    · rfl
  have hreleased (userId : ℕ) :
      ((s.withSettings (s.settingDataManager.initializeManager env)).releaseObservedContext
        env).alarmTimerManager.Holds userId {} := by
    have hwith : (s.withSettings (s.settingDataManager.initializeManager env)).observedContext =
        s.settingDataObserversContext := hcontext
    unfold releaseObservedContext
    dsimp only
    rw [hwith]
    split_ifs with hinvalid
    · by_cases hkey : userId = s.settingDataObserversContext.buildTimerKey
      · have hobserved := h.observed
        rw [h.unobserved hinvalid, ← hkey] at hobserved
        exact hobserved
      · exact h.elsewhere userId hkey
    · change (s.alarmTimerManager.clearTimerByUserId env
        s.settingDataObserversContext.buildTimerKey).Holds userId {}
      by_cases hkey : userId = s.settingDataObserversContext.buildTimerKey
      · rw [hkey]
        exact holds_clearTimerByUserId _ _
      · exact holds_nothing_of_entries (entries_clearTimerByUserId_of_ne hkey)
          (h.elsewhere userId hkey)
  unfold Service.onSwitchContext switches
  dsimp only
  by_cases hinit : (s.settingDataManager.initializeManager env).2 = .ok
  · rw [if_neg (not_not_intro hinit), decide_eq_true hinit, Bool.true_and]
    by_cases huser : context.userId ≤ invalidUserId
    · rw [if_pos huser, decide_eq_false (Int.not_lt.mpr huser), if_neg Bool.false_ne_true]
      exact hsettings _ rfl rfl
    · rw [if_neg huser, decide_eq_true (Int.not_le.mp huser), if_pos rfl]
      exact ⟨rfl, hreleased _, fun userId _ => hreleased userId, fun _ => rfl⟩
  · rw [if_pos hinit, decide_eq_false hinit, Bool.false_and, if_neg Bool.false_ne_true]
    exact hsettings _ rfl rfl

end Tracks

end Service
end UiAppearance
