import UiAppearance.Ability.Frames

/-!
# What leaves the timers alone

A callback that fires, a choice and a font setting read the timers at most. The
schedule callbacks that the time service holds are those of accepted bounds,
which is an invariant of every run.
-/

namespace UiAppearance
namespace Service

variable (env : Env) (s : Service) (context : AccountContext)

section Frame

@[simp] theorem alarmTimerManager_timerFired (callback : TimerCallback) :
    (timerFired env s callback).alarmTimerManager = s.alarmTimerManager := by
  cases callback with
  | schedule startTime endTime context => exact alarmTimerManager_scheduleTimerCallback ..
  | recalculation context => exact alarmTimerManager_recalculationCallback ..

@[simp] theorem alarmTimerManager_screenOffCallback :
    (s.screenOffCallback env).alarmTimerManager = s.alarmTimerManager := by
  unfold screenOffCallback
  dsimp only
  by_cases hpending : s.setScreenOff.screenSwitchOperatorMgr.haveScreenOffOperate = true
  · rw [if_pos hpending]
    exact alarmTimerManager_onChangeDarkMode ..
  · rw [if_neg hpending]
    rfl

@[simp] theorem alarmTimerManager_setColorModeTemporary :
    (s.setColorModeTemporary env context).alarmTimerManager = s.alarmTimerManager := by
  unfold setColorModeTemporary
  dsimp only
  split
  · rfl
  · rw [alarmTimerManager_saveTempColorModeInfo]
    rfl

@[simp] theorem alarmTimerManager_doSwitchTemporaryColorMode (isDarkMode : Bool) :
    (s.doSwitchTemporaryColorMode env context isDarkMode).alarmTimerManager =
      s.alarmTimerManager := by
  unfold doSwitchTemporaryColorMode
  dsimp only
  split_ifs
  · split
    · rfl
    · split_ifs
      · rw [alarmTimerManager_setColorModeNormal]
        rfl
      · change (setColorModeTemporary env _ context).alarmTimerManager = _
        rw [alarmTimerManager_setColorModeTemporary]
        rfl
  · rfl

@[simp] theorem alarmTimerManager_notifyDarkModeUpdate (isDarkMode : Bool) :
    (s.notifyDarkModeUpdate env context isDarkMode).alarmTimerManager = s.alarmTimerManager := by
  unfold notifyDarkModeUpdate
  dsimp only
  split_ifs <;> rfl

@[simp] theorem alarmTimerManager_configurePersistence (mode : DarkMode) (paramValue : String) :
    (s.configurePersistence env context mode paramValue).1.alarmTimerManager =
      s.alarmTimerManager := by
  have hpersist : (s.persistColor env context mode paramValue).alarmTimerManager =
      s.alarmTimerManager := by
    unfold persistColor
    simp
  unfold configurePersistence
  dsimp only
  split_ifs
  · exact hpersist
  · rw [alarmTimerManager_notifyDarkModeUpdate, hpersist]

theorem alarmTimerManager_configurePersistenceAll (mode : DarkMode) (paramValue : String)
    (contexts : List AccountContext) :
    (configurePersistenceAll env mode paramValue contexts s).1.alarmTimerManager =
      s.alarmTimerManager := by
  induction contexts generalizing s with
  | nil => rfl
  | cons context rest ih =>
    unfold configurePersistenceAll
    dsimp only
    split_ifs
    · exact alarmTimerManager_configurePersistence ..
    · rw [ih, alarmTimerManager_configurePersistence]

@[simp] theorem alarmTimerManager_setDarkMode (mode : ℤ) :
    (s.setDarkMode env mode).1.alarmTimerManager = s.alarmTimerManager := by
  unfold setDarkMode onSetDarkMode
  dsimp only
  split_ifs
  · rfl
  · rfl
  · rfl
  · exact alarmTimerManager_updateConfiguration ..
  · rw [alarmTimerManager_configurePersistenceAll, alarmTimerManager_setParameterWrap,
      alarmTimerManager_updateConfiguration]

@[simp] theorem alarmTimerManager_setFont (property : FontProperty) (value : String) :
    (s.setFont env property value).1.alarmTimerManager = s.alarmTimerManager :=
  alarmTimerManager_of_beyondAbility (beyondAbility_setFont ..)

end Frame

/-- Every schedule callback of the time service was made for accepted bounds. -/
def Accepting (s : Service) : Prop :=
  ∀ startTime endTime context, s.alarmTimerManager.Calls (.schedule startTime endTime context) →
    AlarmTimerManager.isValidScheduleTime (toUInt64 startTime) (toUInt64 endTime) = true

end Service
end UiAppearance
