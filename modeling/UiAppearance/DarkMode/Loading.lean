import UiAppearance.DarkMode.Schedule

/-!
# Loading and observing a context

A context switch moves the observers to the new context. Loading reads the five
settings, falling back to the key of the whole account for a sub-profile, and
brings the override, the timers and the colour in line with them.
-/

namespace UiAppearance
namespace Service

variable (env : Env) (s : Service)

/-- Called once the application manager is there: the callback is installed and the list of
observers is made. -/
def initializeManager : Service :=
  { s with
    settingDataObservers := [.mode, .startTime, .endTime, .sunset, .sunrise]
    hasUpdateCallback := true }

def withSettings (r : SettingDataManager DarkModeObserver × ErrCode) : Service :=
  { s with settingDataManager := r.1 }

/-- One setting of a load: a sub-profile without its own value takes over the account's. -/
def loadSetting (item : SettingItem) (context : AccountContext) (default : ℤ) : Service × ℤ :=
  let contextKey := AccountContext.buildSettingKey item.key context
  match s.settingDataManager.getInt32ValueStrictly env contextKey context.userId with
  | .ok value => (s, value)
  | .error _ =>
    if !context.isSubProfileContext then (s, default)
    else
      match s.settingDataManager.getInt32ValueStrictly env item.key context.userId with
      | .error _ => (s, default)
      | .ok value =>
        (s.withSettings (s.settingDataManager.setStringValue env contextKey (toString value)
          context.userId false), value)

/-- The five reads in the order of the source, and the state they amount to. -/
def loadState (context : AccountContext) : Service × DarkModeState :=
  let mode := s.loadSetting env .mode context DarkModeMode.invalid.toInt
  let start := mode.1.loadSetting env .startTime context (-1)
  let finish := start.1.loadSetting env .endTime context (-1)
  let sunset := finish.1.loadSetting env .sunset context sunsetTimeDefault
  let sunrise := sunset.1.loadSetting env .sunrise context sunriseTimeDefault
  (sunrise.1,
    { settingMode := .ofInt mode.2
      settingStartTime := start.2
      settingEndTime := finish.2
      settingSunsetTime := sunset.2
      settingSunriseTime := sunrise.2 })

/-- An override that is no longer effective is ended before the state is acted upon. -/
def expireTemporary (context : AccountContext) : Service :=
  if s.isColorModeTemporary context && !s.checkTemporaryStateEffective env context then
    s.setColorModeNormal env context
  else s

def loadUserSettingData (context : AccountContext)
    (needUpdateCallback isDarkMode bootLoadFlag : Bool) : StateChange :=
  let loaded := s.loadState env context
  let s := (((loaded.1.setState context loaded.2).initData context).expireTemporary env
    context).resetScreenOffOperateInfo
  let change := s.onStateChangeLocked env context needUpdateCallback isDarkMode false bootLoadFlag
  if loaded.2.settingMode = .sunriseSunset then
    { change with service := change.service.initSunriseSunsetMode env context }
  else change

/-- Registrations go on after a failure; the result only says whether there was one. -/
def registerSettingDataObservers (context : AccountContext) : Service × ErrCode :=
  let r := s.settingDataObservers.foldl (fun r item =>
    let registered := r.1.registerObserver env (AccountContext.buildSettingKey item.key context)
      ⟨item, context⟩ context.userId
    (registered.1, r.2 + if registered.2 = .ok then 0 else 1)) (s.settingDataManager, 0)
  ({ s with settingDataManager := r.1 }, if r.2 = 0 then .ok else .noInit)

def unregisterSettingDataObservers (context : AccountContext) : Service :=
  { s with settingDataManager := s.settingDataObservers.foldl (fun m item =>
      (m.unregisterObserver env (AccountContext.buildSettingKey item.key context)
        context.userId).1) s.settingDataManager }

/-- The timers and observers of the context observed so far are dropped. -/
def releaseObservedContext : Service :=
  let observed := s.observedContext
  let s := { s with settingDataObserversContext := observed }
  if observed.userId = invalidUserId then s
  else
    { (s.clearTimerByContext env observed).unregisterSettingDataObservers env observed with
      settingDataObserversContext := .createBaseContext invalidUserId
      settingDataObserversUserId := invalidUserId }

def onSwitchContext (context : AccountContext) : Service × ErrCode :=
  let r := s.settingDataManager.initializeManager env
  let s := s.withSettings r
  if r.2 ≠ .ok then (s, .noInit)
  else if context.userId ≤ invalidUserId then (s, .invalidOperation)
  else
    let r := (s.releaseObservedContext env).registerSettingDataObservers env context
    ({ r.1 with
        settingDataObserversContext := context
        settingDataObserversUserId := context.userId }, r.2)

/-- The `n`-th notification is no longer in flight. -/
def takeNotification (n : ℕ) : Service :=
  let m := s.settingDataManager
  { s with settingDataManager := { m with inFlight := m.inFlight.eraseIdx n } }

/-- The `n`-th notification in flight reaches its observer. -/
def deliver (n : ℕ) : Service :=
  match s.settingDataManager.inFlight[n]? with
  | none => s
  | some observer =>
    (s.takeNotification n).observerUpdateFunc env observer.updateFunc observer.key

end Service
end UiAppearance
