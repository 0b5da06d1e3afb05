import UiAppearance.Ability.Frames
import UiAppearance.DarkMode.TrackedTimers

/-!
# How the service writes to the settings

An operation takes the settings from one state to a later one in a given order if
each write it makes does. The memory of the settings and the registrations are
left to the observers' own steps, to loads and to switches: a choice by hand, a
restart of the timers and a recalculation only write.
-/

namespace UiAppearance
namespace Service

variable {R : SettingDataManager DarkModeObserver → SettingDataManager DarkModeObserver → Prop}

/-- The memory and the registrations stay, and the settings are related. -/
structure Writing
    (R : SettingDataManager DarkModeObserver → SettingDataManager DarkModeObserver → Prop)
    (s s' : Service) : Prop where
  states : s'.stateOf = s.stateOf
  items : s'.settingDataObservers = s.settingDataObservers
  observing : s'.observing = s.observing
  settings : R s.settingDataManager s'.settingDataManager

namespace Writing

variable {s s' s'' : Service}

theorem withSettings {r : SettingDataManager DarkModeObserver × ErrCode}
    (h : R s.settingDataManager r.1) : Writing R s (s.withSettings r) :=
  ⟨rfl, rfl, rfl, h⟩

variable [IsPreorder (SettingDataManager DarkModeObserver) R]

theorem refl (s : Service) : Writing R s s := ⟨rfl, rfl, rfl, Std.Refl.refl _⟩

theorem trans (h : Writing R s s') (h' : Writing R s' s'') : Writing R s s'' where
  states := h'.states.trans h.states
  items := h'.items.trans h.items
  observing := h'.observing.trans h.observing
  settings := IsTrans.trans _ _ _ h.settings h'.settings

theorem of_beyondSchedule (h : s'.beyondSchedule = s.beyondSchedule) : Writing R s s' where
  states := funext (stateOf_of_frame h)
  items := by
    change s'.beyondSchedule.settingDataObservers = _
    rw [h]
    rfl
  observing := observing_of_frame h
  settings := by
    rw [settingDataManager_of_frame h]
    exact Std.Refl.refl _

theorem of_beyondAbility (h : s'.beyondAbility = s.beyondAbility) : Writing R s s' where
  states := by
    change s'.beyondAbility.stateOf = s.beyondAbility.stateOf
    rw [h]
  items := by
    change s'.beyondAbility.settingDataObservers = s.beyondAbility.settingDataObservers
    rw [h]
  observing := by
    change s'.beyondAbility.observing = s.beyondAbility.observing
    rw [h]
  settings := by
    change R _ s'.beyondAbility.settingDataManager
    rw [h]
    exact Std.Refl.refl _

theorem touchState (s : Service) (context : AccountContext) :
    Writing R s (s.touchState context) where
  states := funext (stateOf_touchState s context)
  items := rfl
  observing := rfl
  settings := Std.Refl.refl _

theorem setTimers (s : Service) (timers : AlarmTimerManager TimerCallback) :
    Writing R s (s.setTimers timers) := ⟨rfl, rfl, rfl, Std.Refl.refl _⟩

end Writing

variable (env : Env) (s : Service) (context : AccountContext)

/-- Storing recalculated sun times of the context is a step of the order. -/
def SunWritten
    (R : SettingDataManager DarkModeObserver → SettingDataManager DarkModeObserver → Prop)
    (env : Env) (context : AccountContext) : Prop :=
  ∀ times, env.sunTimes = some times → ∀ m,
    R m (m.setInt32ValuePair env (AccountContext.buildSettingKey SettingItem.sunset.key context)
      times.1 (AccountContext.buildSettingKey SettingItem.sunrise.key context) times.2
      context.userId).1

/-- So is storing a mode of it. -/
def ModeWritten
    (R : SettingDataManager DarkModeObserver → SettingDataManager DarkModeObserver → Prop)
    (env : Env) (context : AccountContext) : Prop :=
  ∀ m value, R m (m.setStringValue env
    (AccountContext.buildSettingKey SettingItem.mode.key context) value context.userId true).1

section Schedule

variable [IsPreorder (SettingDataManager DarkModeObserver) R]

theorem writing_onStateChangeLocked
    (needUpdateCallback isDarkMode resetTempColorModeFlag bootLoadFlag : Bool) :
    Writing R s (s.onStateChangeLocked env context needUpdateCallback isDarkMode
      resetTempColorModeFlag bootLoadFlag).service :=
  (Writing.touchState s context).trans
    (.of_beyondSchedule (beyondSchedule_onStateChangeLocked ..))

theorem writing_screenOffCallback : Writing R s (s.screenOffCallback env) := by
  have hoff : Writing R s s.setScreenOff := .of_beyondSchedule rfl
  unfold screenOffCallback
  dsimp only
  by_cases hhave : s.setScreenOff.screenSwitchOperatorMgr.haveScreenOffOperate = true
  · rw [if_pos hhave]
    refine hoff.trans (.of_beyondSchedule ?_)
    rw [beyondSchedule_resetScreenOffOperateInfo, beyondSchedule_onChangeDarkMode]
  · rw [if_neg hhave]
    exact hoff

theorem writing_scheduleTimerCallback (startTime endTime : ℤ) :
    Writing R s (s.scheduleTimerCallback env startTime endTime context) := by
  have htouch := Writing.touchState (R := R) s context
  unfold scheduleTimerCallback
  split
  · exact htouch
  · exact htouch.trans (.of_beyondSchedule (beyondSchedule_updateDarkModeSchedule ..))

/-- Times are stored for a context in sun mode only. -/
theorem writing_calculateAndApplySunriseSunsetTimes
    (hsun : (s.stateOf context).settingMode = .sunriseSunset → SunWritten R env context) :
    Writing R s (s.calculateAndApplySunriseSunsetTimes env context) := by
  unfold calculateAndApplySunriseSunsetTimes
  cases htimes : env.sunTimes with
  | none => exact .refl s
  | some times =>
    dsimp only
    unfold applySunriseSunsetTimes
    split
    · exact .refl s
    · next state hstate =>
      split_ifs with hmode hsame
      · exact .refl s
      · exact .refl s
      · have hentry : s.stateOf context = state := by
          change (s.darkModeStates context).getD {} = state
          rw [hstate]
          rfl
        rw [hentry] at hsun
        exact .withSettings (r := (_, .ok)) (hsun (not_not.mp hmode) times htimes _)

theorem writing_initSunriseSunsetMode
    (hsun : (s.stateOf context).settingMode = .sunriseSunset → SunWritten R env context) :
    Writing R s (s.initSunriseSunsetMode env context) := by
  have happly := writing_calculateAndApplySunriseSunsetTimes env s context hsun
  unfold initSunriseSunsetMode
  dsimp only
  split_ifs
  · exact happly.trans (.setTimers ..)
  · exact happly

theorem writing_timerFired (callback : TimerCallback)
    (hsun : ∀ context, callback = .recalculation context →
      (s.stateOf context).settingMode = .sunriseSunset → SunWritten R env context) :
    Writing R s (timerFired env s callback) := by
  cases callback with
  | schedule startTime endTime context => exact writing_scheduleTimerCallback ..
  | recalculation context =>
    unfold timerFired recalculationCallback
    dsimp only
    split_ifs
    · exact writing_calculateAndApplySunriseSunsetTimes env s context (hsun context rfl)
    · exact .refl s

theorem writing_restartTimerUpdate (startTime endTime : ℤ) :
    Writing R s (s.restartTimerUpdate env startTime endTime context) :=
  (Writing.of_beyondSchedule (beyondSchedule_updateDarkModeSchedule ..)).trans (.setTimers ..)

theorem writing_restartTimer
    (hsun : (s.stateOf s.observedContext).settingMode = .sunriseSunset →
      SunWritten R env s.observedContext) :
    Writing R s (s.restartTimer env) := by
  unfold restartTimer
  dsimp only
  generalize s.observedContext = context at hsun
  have htouch := Writing.touchState (R := R) s context
  split
  · exact htouch
  · rw [← stateOf_touchState s context] at hsun
    have happly := writing_calculateAndApplySunriseSunsetTimes env (s.touchState context) context
      hsun
    have hreread := (htouch.trans happly).trans (.touchState _ context)
    split
    · exact hreread
    · exact hreread.trans (writing_restartTimerUpdate ..)
  · exact htouch.trans (writing_restartTimerUpdate ..)

end Schedule

section Choice

variable [IsPreorder (SettingDataManager DarkModeObserver) R]

theorem writing_doSwitchTemporaryColorMode (isDarkMode : Bool) :
    Writing R s (s.doSwitchTemporaryColorMode env context isDarkMode) := by
  refine (Writing.touchState s context).trans (.of_beyondSchedule ?_)
  unfold doSwitchTemporaryColorMode
  dsimp only
  split_ifs
  · split
    · rfl
    · split_ifs <;> simp
  · rfl

theorem writing_notifyDarkModeUpdate (isDarkMode : Bool) (hmode : ModeWritten R env context) :
    Writing R s (s.notifyDarkModeUpdate env context isDarkMode) := by
  have htouch := Writing.touchState (R := R) s context
  have hwrite (value : String) := htouch.trans
    (.withSettings (hmode (s.touchState context).settingDataManager value))
  unfold notifyDarkModeUpdate
  dsimp only
  split_ifs
  · exact hwrite _
  · exact htouch
  · exact hwrite _
  · exact htouch

theorem writing_configurePersistence (mode : DarkMode) (paramValue : String)
    (hmode : ModeWritten R env context) :
    Writing R s (s.configurePersistence env context mode paramValue).1 := by
  have hcolor : Writing R s (s.persistColor env context mode paramValue) := by
    refine (writing_doSwitchTemporaryColorMode env s context
      (decide (mode = .alwaysDark))).trans (.of_beyondSchedule ?_)
    unfold persistColor
    rw [beyondSchedule_setParameterWrap, beyondSchedule_setDarkModeOf]
  unfold configurePersistence
  dsimp only
  split_ifs
  · exact hcolor
  · exact hcolor.trans (writing_notifyDarkModeUpdate env _ context _ hmode)

theorem writing_configurePersistenceAll (mode : DarkMode) (paramValue : String)
    (contexts : List AccountContext) (hmode : ∀ context ∈ contexts, ModeWritten R env context) :
    Writing R s (configurePersistenceAll env mode paramValue contexts s).1 := by
  induction contexts generalizing s with
  | nil => exact .refl s
  | cons context rest ih =>
    have hfirst := writing_configurePersistence env s context mode paramValue
      (hmode context List.mem_cons_self)
    have hrest := fun s => ih s fun context hmem => hmode context (List.mem_cons_of_mem _ hmem)
    unfold configurePersistenceAll
    dsimp only
    split_ifs
    · exact hfirst
    · exact hfirst.trans (hrest _)

theorem writing_setDarkMode (mode : ℤ) (hmode : ∀ context ∈
      affectedContexts env (getCallingAccountContext env), ModeWritten R env context) :
    Writing R s (s.setDarkMode env mode).1 := by
  unfold setDarkMode onSetDarkMode
  dsimp only
  split_ifs
  · exact .refl s
  · exact .refl s
  · exact .refl s
  · exact .of_beyondAbility (beyondAbility_updateConfiguration ..)
  · refine Writing.trans (.of_beyondAbility ?_) (writing_configurePersistenceAll env _ _ _ _ hmode)
    rw [beyondAbility_setParameterWrap, beyondAbility_updateConfiguration]

end Choice

section Loading

variable [IsPreorder (SettingDataManager DarkModeObserver) R]

/-- After the reads and the assignment of the state a load is like any other operation. -/
theorem writing_loadedService :
    Writing R ((s.loadState env context).1.setState context (s.loadState env context).2)
      (s.loadedService env context) := by
  refine .of_beyondSchedule ?_
  unfold loadedService expireTemporary
  split_ifs
  · rw [beyondSchedule_resetScreenOffOperateInfo, beyondSchedule_setColorModeNormal]
    rfl
  · rfl

theorem writing_loadUserSettingData (needUpdateCallback isDarkMode bootLoadFlag : Bool)
    (hsun : (s.loadState env context).2.settingMode = .sunriseSunset → SunWritten R env context) :
    Writing R ((s.loadState env context).1.setState context (s.loadState env context).2)
      (s.loadUserSettingData env context needUpdateCallback isDarkMode bootLoadFlag).service := by
  have hreacted := (writing_loadedService (R := R) env s context).trans
    (writing_onStateChangeLocked env (s.loadedService env context) context needUpdateCallback
      isDarkMode false bootLoadFlag)
  unfold loadUserSettingData
  dsimp only
  split_ifs with hmode
  · exact hreacted.trans (writing_initSunriseSunsetMode env _ context fun _ => hsun hmode)
  · exact hreacted

end Loading

end Service

/-- The entries that neither load nor switch nor assign what a callback has read. -/
def Event.announces : Event → Bool
  | .onRemoveSystemAbility => true
  | .timeChanged => true
  | .screenOn => true
  | .screenOff => true
  | .timerFired _ => true
  | .setDarkMode _ => true
  | .setFontScale _ => true
  | .setFontWeightScale _ => true
  | .setSettingData _ _ => true
  | _ => false

namespace Service

/-- What such an entry may write is a step of the order. -/
def Written
    (R : SettingDataManager DarkModeObserver → SettingDataManager DarkModeObserver → Prop)
    (s : Service) (env : Env) : Event → Prop
  | .timeChanged => (s.stateOf s.observedContext).settingMode = .sunriseSunset →
      SunWritten R env s.observedContext
  | .timerFired (.recalculation context) => (s.stateOf context).settingMode = .sunriseSunset →
      SunWritten R env context
  | .setDarkMode _ => ∀ context ∈ affectedContexts env (getCallingAccountContext env),
      ModeWritten R env context
  | .setSettingData key value => let caller := getCallingAccountContext env
      ∀ m, R m (m.setStringValue env (AccountContext.buildSettingKey key caller) value
        caller.userId true).1
  | _ => True

theorem writing_step [IsPreorder (SettingDataManager DarkModeObserver) R] {env : Env}
    {event : Event} (s : Service) (h : event.announces = true) (hwritten : Written R s env event) :
    Writing R s (s.step (env, event)) := by
  cases event with
  | onRemoveSystemAbility => exact ⟨rfl, rfl, rfl, Std.Refl.refl _⟩
  | timeChanged => exact writing_restartTimer env s hwritten
  | screenOn => exact .of_beyondSchedule rfl
  | screenOff => exact writing_screenOffCallback ..
  | timerFired callback =>
    refine writing_timerFired env s callback ?_
    rintro context rfl
    exact hwritten
  | setDarkMode mode => exact writing_setDarkMode env s mode hwritten
  | setFontScale fontScale => exact .of_beyondAbility (beyondAbility_setFont ..)
  | setFontWeightScale fontWeightScale => exact .of_beyondAbility (beyondAbility_setFont ..)
  | setSettingData key value => exact .withSettings (hwritten _)
  | _ => cases h

end Service
end UiAppearance
