import UiAppearance.DarkMode.Interleaving

/-!
# Setting callbacks in steps

The callback of a setting reads the store before it takes the lock, so between
the reading and the assignment other threads may run, another callback of the
same setting among them. That of the mode has one more step after the lock. The
five callbacks differ in the field they assign, in the value they use when
nothing can be read, and in whether they end an override.
-/

namespace UiAppearance

namespace SettingItem

def isSun : SettingItem → Bool
  | sunset => true
  | sunrise => true
  | _ => false

/-- What the callback assigns when there is no number to read. -/
def fallback : SettingItem → ℤ
  | mode => DarkModeMode.invalid.toInt
  | startTime => -1
  | endTime => -1
  | sunset => sunsetTimeDefault
  | sunrise => sunriseTimeDefault

/-- The state after the assignment, which for the sun times may reset both. -/
def assign (item : SettingItem) (value : ℤ) (state : DarkModeState) : DarkModeState :=
  match item with
  | mode => { state with settingMode := .ofInt value }
  | startTime => { state with settingStartTime := value }
  | endTime => { state with settingEndTime := value }
  | sunset => state.withSunset value
  | sunrise => state.withSunrise value

end SettingItem

/-- What the callback of a setting does next, once it has read a value. -/
inductive ObserverPhase where
  | locked (value : ℤ)
  | recalculation (value : ℤ)
  deriving DecidableEq

namespace Service

variable (env : Env) (s : Service) (observer : DarkModeObserver)

/-- The reading of a callback, which nothing is held for. -/
def observerRead (key : String) : ObserverPhase :=
  .locked (s.settingValue env key observer.context observer.item.fallback)

/-- The locked part of a callback. -/
def observerLocked (value : ℤ) : Service :=
  let state := s.stateOf observer.context
  ((s.setState observer.context (observer.item.assign value state)).onStateChangeLocked env
    observer.context true false observer.item.resets false).service

def observerStep : ObserverPhase → Service × Option ObserverPhase
  | .locked value =>
    (s.observerLocked env observer value,
      if observer.item = .mode then some (.recalculation value) else none)
  | .recalculation value =>
    (if DarkModeMode.ofInt value = .sunriseSunset then
        s.initSunriseSunsetMode env observer.context
      else s.clearRecalculationTimer env observer.context, none)

theorem observerUpdateFunc_alone (key : String) :
    Transition.exec (alone fun s => observerStep env s observer)
        (s, some (s.observerRead env observer key)) (List.replicate 2 ()) =
      (s.observerUpdateFunc env observer key, none) := by
  obtain ⟨item, context⟩ := observer
  cases item <;> rfl

/-- The callback of the mode goes on with the value it has read. -/
theorem observerUpdateFunc_eq (key : String) :
    let value := s.settingValue env key observer.context observer.item.fallback
    let assigned := s.observerLocked env observer value
    s.observerUpdateFunc env observer key =
      if observer.item = .mode then (observerStep env assigned observer (.recalculation value)).1
      else assigned := by
  obtain ⟨item, context⟩ := observer
  cases item <;> rfl

end Service
end UiAppearance
