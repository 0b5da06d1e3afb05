import UiAppearance.Settings.Announcements

/-!
# The smart gesture switch

One setting of the shared table says whether smart gestures are on. The manager
keeps no value of it: whenever its observer is called, and once when the boot has
completed, it reads the setting and passes a valid value on to the application
manager. No lock is held between the two, so an update is a thread of two steps.
-/

namespace UiAppearance

def settingSmartGestureSwitch : String := "persist.gesture.smart_gesture_enable"

/-- Without `SMART_GESTURE_INVALID`, which only stands for a value not read yet. -/
inductive SmartGestureMode where
  | disable
  | auto
  deriving DecidableEq, Repr

namespace SmartGestureMode

/-- Values out of range are dropped. -/
def ofInt (value : ℤ) : Option SmartGestureMode :=
  if value < 0 ∨ 1 < value then none else if value = 0 then some disable else some auto

def ofAuto (isAutoMode : Bool) : SmartGestureMode := if isAutoMode then auto else disable

/-- The setting that stands for the mode. -/
def toInt : SmartGestureMode → ℤ
  | disable => 0
  | auto => 1

@[simp] theorem ofInt_toInt (mode : SmartGestureMode) : ofInt mode.toInt = some mode := by
  cases mode <;> rfl

@[simp] theorem ofAuto_eq (mode : SmartGestureMode) : ofAuto (decide (mode = auto)) = mode := by
  cases mode <;> rfl

end SmartGestureMode

/-- An update before and after it has read the setting. -/
inductive GesturePhase where
  | reading (key : String) (userId : ℤ)
  | sending (mode : SmartGestureMode) (userId : ℤ)
  deriving DecidableEq

/-- The fields of the manager; an update function may be missing. Then what it works with: the
settings, the once flag of every event subscriber there has been, the updates under way, and what
the application manager was told for a user. -/
structure SmartGestureManager where
  observer : String × Bool := ("", false)
  updateCallback : Bool := false
  settingDataManager : SettingDataManager Bool := {}
  bootCompleteFlags : List Bool := []
  updates : List GesturePhase := []
  shown : ℤ → Option SmartGestureMode := fun _ => none

namespace SmartGestureManager

variable (env : Env) (s : SmartGestureManager)

def loadSettingDataObserversCallback : SmartGestureManager :=
  { s with observer := (settingSmartGestureSwitch, true) }

def initializeManager : SmartGestureManager :=
  { s.loadSettingDataObserversCallback with updateCallback := true }

def registerSettingDataObserver : SmartGestureManager × ErrCode :=
  let r := s.settingDataManager.registerObserver env s.observer.1 s.observer.2 invalidUserId
  ({ s with settingDataManager := r.1 }, if r.2 = .ok then .ok else .noInit)

/-- The first half of `UpdateSmartGestureValue`. -/
def readValue (key : String) (userId : ℤ) : Option SmartGestureMode :=
  match s.settingDataManager.getInt32ValueStrictly env key userId with
  | .error _ => none
  | .ok value => SmartGestureMode.ofInt value

/-- `UpdateSmartGestureModeCallback` of the ability. Several users are never named. -/
def updateSmartGestureModeCallback (isAutoMode : Bool) (userId : ℤ) : SmartGestureManager :=
  if env.appManager && env.updateConfiguration [userId] then
    { s with shown := Function.update s.shown userId (some (.ofAuto isAutoMode)) }
  else s

def onChangeSmartGestureMode (mode : SmartGestureMode) (userId : ℤ) : SmartGestureManager :=
  if !s.updateCallback then s
  else s.updateSmartGestureModeCallback env (decide (mode = .auto)) userId

/-- The part of `BootCompetedCallback` that concerns the switch, up to the first reading. The
settings are opened by the switch to the account that is there. -/
def bootCompletedCallback (n : ℕ) : SmartGestureManager :=
  if s.bootCompleteFlags[n]? = some false then
    let opened := { s with
      bootCompleteFlags := s.bootCompleteFlags.set n true
      settingDataManager := (s.settingDataManager.initializeManager env).1 }
    let registered := (opened.registerSettingDataObserver env).1
    { registered with
        updates := registered.updates ++ [.reading settingSmartGestureSwitch invalidUserId] }
  else s

/-- The `n`-th notification in flight reaches its observer. -/
def onChange (n : ℕ) : SmartGestureManager :=
  match s.settingDataManager.inFlight[n]? with
  | none => s
  | some o =>
    { s with
        settingDataManager := { s.settingDataManager with
          inFlight := s.settingDataManager.inFlight.eraseIdx n }
        updates := if o.updateFunc then s.updates ++ [.reading o.key o.userId] else s.updates }

/-- The next step of the `j`-th update. -/
def proceed (j : ℕ) : SmartGestureManager :=
  match s.updates[j]? with
  | none => s
  | some (.reading key userId) =>
    { s with
        updates := match s.readValue env key userId with
          | none => s.updates.eraseIdx j
          | some mode => s.updates.set j (.sending mode userId) }
  | some (.sending mode userId) =>
    { s.onChangeSmartGestureMode env mode userId with updates := s.updates.eraseIdx j }

/-- Somebody writes or deletes a row, and may tell the observers. -/
def settingWritten (userId : ℤ) (key : String) (value : Option String) (announced : Bool) :
    SmartGestureManager :=
  let m := s.settingDataManager
  let row := Function.update (m.tables userId) key value
  let written := { m with tables := Function.update m.tables userId row }
  { s with settingDataManager := if announced then written.notifyChange userId key else written }

end SmartGestureManager

inductive GestureEvent where
  | onAddSystemAbility
  | onRemoveSystemAbility
  | accountSwitched
  | bootCompleted (n : ℕ)
  | settingWritten (userId : ℤ) (key : String) (value : Option String) (announced : Bool)
  | started (n : ℕ)
  | proceeds (j : ℕ)

namespace SmartGestureManager

/-- The application manager comes with a new subscriber and goes with all it was told. -/
def next (s : SmartGestureManager) (e : Env × GestureEvent) : SmartGestureManager :=
  match e.2 with
  | .onAddSystemAbility =>
    { s.initializeManager with bootCompleteFlags := s.bootCompleteFlags ++ [false] }
  | .onRemoveSystemAbility => { s with shown := fun _ => none }
  | .accountSwitched =>
    { s with settingDataManager := (s.settingDataManager.initializeManager e.1).1 }
  | .bootCompleted n => s.bootCompletedCallback e.1 n
  | .settingWritten userId key value announced => s.settingWritten userId key value announced
  | .started n => s.onChange n
  | .proceeds j => s.proceed e.1 j

/-- A fresh process over a settings database. -/
def start (tables : ℤ → Table String String) : SmartGestureManager :=
  { settingDataManager := { tables := tables } }

end SmartGestureManager
end UiAppearance
