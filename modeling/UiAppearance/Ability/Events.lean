import UiAppearance.Ability.AccountSwitch
import UiAppearance.Foundations.Transition

/-!
# Events and runs

One event is one entry into the service, or a write by another process to one
of the two stores. Handlers run one after the other here; interleaved handlers
are the subject of later modules. An observer callback and an alarm callback
may be called with any captured values, whether or not a registration or a
timer stands behind them.
-/

namespace UiAppearance

inductive Event where
  | onAddSystemAbility
  | onRemoveSystemAbility
  | bootCompleted
  | userSwitched (userId : ℤ)
  | subProfileSwitched (userId subProfileId : ℤ)
  | timeChanged
  | screenOn
  | screenOff
  | settingChanged (observer : DarkModeObserver)
  | delivered (n : ℕ)
  | timerFired (callback : TimerCallback)
  | setDarkMode (mode : ℤ)
  | setFontScale (fontScale : String)
  | setFontWeightScale (fontWeightScale : String)
  | setSettingData (key value : String)
  | loadUserSettingData (context : AccountContext) (needUpdateCallback bootLoadFlag : Bool)
  | settingWritten (userId : ℤ) (key : String) (value : Option String)
  | rebooted

namespace Service

/-- The key an observer of this item and context is registered under. -/
def observedKey (observer : DarkModeObserver) : String :=
  AccountContext.buildSettingKey observer.item.key observer.context

/-- Another process writes or deletes a row. -/
def settingWritten (s : Service) (userId : ℤ) (key : String) (value : Option String) : Service :=
  let m := s.settingDataManager
  let row := Function.update (m.tables userId) key value
  { s with settingDataManager := { m with tables := Function.update m.tables userId row } }

theorem tables_settingWritten_of_ne {s : Service} {userId userId' : ℤ} {key key' : String}
    (value : Option String) (h : userId' ≠ userId ∨ key' ≠ key) :
    (s.settingWritten userId key value).settingDataManager.tables userId' key' =
      s.settingDataManager.tables userId' key' := by
  unfold settingWritten
  dsimp only
  by_cases huser : userId' = userId
  · rw [huser, Function.update_self]
    exact Function.update_of_ne (h.resolve_left fun hne => hne huser) ..
  · exact congrFun (Function.update_of_ne huser ..) _

/-- A fresh process over the two stores. -/
def start (parameters : Table String String) (tables : ℤ → Table String String) : Service :=
  { parameters := parameters, settingDataManager := { tables := tables } }

def timerFired (env : Env) (s : Service) : TimerCallback → Service
  | .schedule startTime endTime context => s.scheduleTimerCallback env startTime endTime context
  | .recalculation context => s.recalculationCallback env context

def step (s : Service) (e : Env × Event) : Service :=
  match e.2 with
  | .onAddSystemAbility => s.onAddSystemAbility e.1
  | .onRemoveSystemAbility => s.onRemoveSystemAbility
  | .bootCompleted => s.bootCompletedCallback e.1
  | .userSwitched userId => s.userSwitchFunc e.1 userId
  | .subProfileSwitched userId subProfileId => s.handleSubProfileSwitched e.1 userId subProfileId
  | .timeChanged => s.restartTimer e.1
  | .screenOn => s.screenOnCallback
  | .screenOff => s.screenOffCallback e.1
  | .settingChanged observer => s.observerUpdateFunc e.1 observer (observedKey observer)
  | .delivered n => s.deliver e.1 n
  | .timerFired callback => timerFired e.1 s callback
  | .setDarkMode mode => (s.setDarkMode e.1 mode).1
  | .setFontScale fontScale => (s.setFontScale e.1 fontScale).1
  | .setFontWeightScale fontWeightScale => (s.setFontWeightScale e.1 fontWeightScale).1
  | .setSettingData key value => s.setSettingData e.1 key value
  | .loadUserSettingData context needUpdateCallback bootLoadFlag =>
    (s.loadUserSettingData e.1 context needUpdateCallback false bootLoadFlag).service
  | .settingWritten userId key value => s.settingWritten userId key value
  | .rebooted => { start s.parameters s.settingDataManager.tables with trace := s.trace }

end Service

/-- A run: every event with what the system around the service answered during it. -/
abbrev Run := List (Env × Event)

/-! What concrete runs start from. -/

namespace Scenario

def account : AccountContext := .createBaseContext 100

def noon : Env := { clock := ⟨1000000, 43200, 956800, by decide⟩ }

/-- A custom schedule that is dark from 11:00 to 13:00. -/
def customRow (userId : ℤ) (key : String) : Option String :=
  if userId ≠ 100 then none
  else if key = SettingItem.mode.key then some "2"
  else if key = SettingItem.startTime.key then some "660"
  else if key = SettingItem.endTime.key then some "780"
  else none

/-- A custom schedule with these texts as its two times. -/
def scheduleRow (startTime endTime : String) (userId : ℤ) (key : String) : Option String :=
  if userId ≠ 100 then none
  else if key = SettingItem.mode.key then some "2"
  else if key = SettingItem.startTime.key then some startTime
  else if key = SettingItem.endTime.key then some endTime
  else none

/-- The settings of the account are loaded when its boot completes. -/
def bootRun : Run := [(noon, .onAddSystemAbility), (noon, .bootCompleted)]

end Scenario

end UiAppearance
