import UiAppearance.Foundations.DecimalText
import UiAppearance.Foundations.Table
import UiAppearance.Account.AccountContext

/-!
# The settings database and its manager

One table for each user holds the settings as text; table `-1` is the shared
one. The manager reads and writes through a helper that may be unavailable,
and keeps one observer for each key and user. The database keeps its own list
of registered observers. A change notification puts every observer registered
on that uri in flight; when such a notification is delivered is decided by the
caller of this module. The callback of an observer is left abstract.
-/

namespace UiAppearance

/-- `std::from_chars` into an `int32_t`: a leading number, which has to fit. -/
def fromChars (value : String) : Option ℤ :=
  match DecimalText.readInt value.toList with
  | some v => if IsInt32 v then some v else none
  | none => none

structure SettingDataObserver (β : Type) where
  key : String
  userId : ℤ
  updateFunc : β
  deriving DecidableEq

def settingDataUri : String :=
  "datashare:///com.ohos.settingsdata/entry/settingsdata/SETTINGSDATA?Proxy=true"
def settingDataUserUriPrefix : String :=
  "datashare:///com.ohos.settingsdata/entry/settingsdata/USER_SETTINGSDATA_"
def settingDataUserUriSuffix : String := "?Proxy=true"
def settingDataKeyUri : String := "&key="

def assembleUri (key : String) : String := settingDataUri ++ (settingDataKeyUri ++ key)

def assembleUserDbUri (userId : ℤ) (key : String) : String :=
  settingDataUserUriPrefix ++ (toString userId ++ settingDataUserUriSuffix) ++
    (settingDataKeyUri ++ key)

/-- The uri half of `CreateDataShareHelperAndUri`. -/
def createUri (userId : ℤ) (key : String) : String :=
  if userId = invalidUserId then assembleUri key else assembleUserDbUri userId key

def generateObserverName (key : String) (userId : ℤ) : String := key ++ "::" ++ toString userId

/-- The manager's own fields, then those of the database behind it. -/
structure SettingDataManager (β : Type) where
  isInitialized : Bool := false
  observers : Table String (SettingDataObserver β) := Table.empty
  tables : ℤ → Table String String := fun _ => Table.empty
  registered : List (SettingDataObserver β) := []
  inFlight : List (SettingDataObserver β) := []

namespace SettingDataManager

variable {β : Type} (env : Env) (m : SettingDataManager β)

/-- The manager's `Initialize` records the service object it gets, once. -/
def initializeManager : SettingDataManager β × ErrCode :=
  if m.isInitialized then (m, .ok)
  else if env.settingService then ({ m with isInitialized := true }, .ok)
  else (m, .noInit)

/-- A helper needs the recorded service object and a successful creation. -/
def hasHelper (userId : ℤ) : Bool := m.isInitialized && env.createHelper userId

def getStringValue (key : String) (userId : ℤ) : Except ErrCode String :=
  if m.hasHelper env userId then
    match env.query userId key, m.tables userId key with
    | .nullResult, _ => .error .invalidOperation
    | _, none => .error .nameNotFound
    | .unreadable, some _ => .error .invalidValue
    | .rows, some value => .ok value
  else .error .noInit

def getInt32Value (key : String) (userId : ℤ) : Except ErrCode ℤ :=
  match m.getStringValue env key userId with
  | .error code => .error code
  | .ok valueString =>
    match fromChars valueString with
    | none => .error .invalidValue
    | some value => .ok value

/-- Only the canonical decimal text of an `int32_t` is accepted. -/
def getInt32ValueStrictly (key : String) (userId : ℤ) : Except ErrCode ℤ :=
  match m.getStringValue env key userId with
  | .error code => .error code
  | .ok valueString =>
    match fromChars valueString with
    | none => .error .invalidValue
    | some convertedValue =>
      if toString convertedValue = valueString then .ok convertedValue
      else .error .invalidValue

def putRow (userId : ℤ) (key value : String) : SettingDataManager β :=
  { m with tables := Function.update m.tables userId ((m.tables userId).put key value) }

/-- `Update` changes an existing row, and `Insert` is tried when that changed none. -/
def updateValue (userId : ℤ) (key value : String) : Option (SettingDataManager β) :=
  if env.update userId key value && (m.tables userId key).isSome then some (m.putRow userId key value)
  else if env.insert userId key value then some (m.putRow userId key value)
  else none

def notifyChange (userId : ℤ) (key : String) : SettingDataManager β :=
  { m with inFlight := m.inFlight ++ m.registered.filter fun observer =>
      createUri observer.userId observer.key = createUri userId key }

def setStringValue (key value : String) (userId : ℤ) (needNotify : Bool) :
    SettingDataManager β × ErrCode :=
  if m.hasHelper env userId then
    match m.updateValue env userId key value with
    | none => (m, .invalidOperation)
    | some m' => (if needNotify then m'.notifyChange userId key else m', .ok)
  else (m, .noInit)

/-- The first write is taken back when the second one fails and the old value was a number. -/
def setInt32ValuePair (firstKey : String) (firstValue : ℤ) (secondKey : String) (secondValue : ℤ)
    (userId : ℤ) : SettingDataManager β × ErrCode :=
  if m.hasHelper env userId then
    match m.updateValue env userId firstKey (toString firstValue) with
    | none => (m, .invalidOperation)
    | some m₁ =>
      match m₁.updateValue env userId secondKey (toString secondValue) with
      | some m₂ => ((m₂.notifyChange userId firstKey).notifyChange userId secondKey, .ok)
      | none =>
        match m.getInt32Value env firstKey userId with
        | .ok oldFirstValue =>
          ((m₁.updateValue env userId firstKey (toString oldFirstValue)).getD m₁, .invalidOperation)
        | .error _ => (m₁, .invalidOperation)
  else (m, .noInit)

/-- Registering also notifies the uri, so the observer hears about the stored value. -/
def registerObserver (key : String) (updateFunc : β) (userId : ℤ) :
    SettingDataManager β × ErrCode :=
  if !m.isInitialized then (m, .noInit)
  else if (m.observers (generateObserverName key userId)).isSome then (m, .ok)
  else if m.hasHelper env userId then
    let observer : SettingDataObserver β := ⟨key, userId, updateFunc⟩
    let registered := { m with registered := m.registered ++ [observer] }
    ({ registered.notifyChange userId key with
        observers := m.observers.put (generateObserverName key userId) observer }, .ok)
  else (m, .noInit)

/-- The record is dropped even when the database could not be reached. -/
def unregisterObserver [DecidableEq β] (key : String) (userId : ℤ) :
    SettingDataManager β × ErrCode :=
  match m.observers (generateObserverName key userId) with
  | none => (m, .invalidValue)
  | some observer =>
    let erased := { m with observers := m.observers.remove (generateObserverName key userId) }
    if m.hasHelper env userId then
      ({ erased with registered := m.registered.erase observer }, .ok)
    else (erased, .noInit)

variable {env m} {key value : String} {userId : ℤ}

theorem fromChars_toString {v : ℤ} (h : IsInt32 v) : fromChars (toString v) = some v := by
  unfold fromChars
  rw [DecimalText.readInt_toString]
  exact if_pos h

theorem fromChars_isInt32 {text : String} {v : ℤ} (h : fromChars text = some v) : IsInt32 v := by
  unfold fromChars at h
  split at h
  · split_ifs at h with hv
    obtain rfl := Option.some.inj h
    exact hv
  · cases h

theorem getInt32ValueStrictly_isInt32 {v : ℤ} (h : m.getInt32ValueStrictly env key userId = .ok v) :
    IsInt32 v := by
  unfold getInt32ValueStrictly at h
  split at h
  · cases h
  · split at h
    · cases h
    · next hchars =>
      split_ifs at h
      obtain rfl := Except.ok.inj h
      exact fromChars_isInt32 hchars

/-- With the database answering, a strict read sees exactly the canonical texts. -/
theorem getInt32ValueStrictly_eq (hh : m.hasHelper env userId = true)
    (hq : env.query userId key = .rows) {v : ℤ} (hv : IsInt32 v)
    (ht : m.tables userId key = some (toString v)) :
    m.getInt32ValueStrictly env key userId = .ok v := by
  have hs : m.getStringValue env key userId = .ok (toString v) := by
    simp only [getStringValue, hh, hq, ht, if_true]
  simp only [getInt32ValueStrictly, hs, fromChars_toString hv, if_true]

/-- The canonical text of a number is that number wherever it can be read. -/
theorem getInt32ValueStrictly_row {v : ℤ} (hv : IsInt32 v)
    (hrow : m.tables userId key = some (toString v)) :
    (m.getInt32ValueStrictly env key userId).toOption =
      if m.hasHelper env userId = true ∧ env.query userId key = .rows then some v else none := by
  split_ifs with hread
  · rw [getInt32ValueStrictly_eq hread.1 hread.2 hv hrow]
    rfl
  · unfold getInt32ValueStrictly getStringValue
    rw [hrow]
    by_cases hhelper : m.hasHelper env userId = true
    · rw [if_pos hhelper]
      cases hquery : env.query userId key with
      | rows => exact absurd ⟨hhelper, hquery⟩ hread
      | nullResult | unreadable => rfl
    · rw [if_neg hhelper]
      rfl

@[simp] theorem putRow_tables_self : (m.putRow userId key value).tables userId key = some value := by
  simp [putRow]

theorem putRow_tables_of_ne {userId' : ℤ} {key' : String} (h : userId' ≠ userId ∨ key' ≠ key) :
    (m.putRow userId key value).tables userId' key' = m.tables userId' key' := by
  unfold putRow
  by_cases hu : userId' = userId
  · subst hu
    simpa using Table.put_of_ne (h.resolve_left fun hne => hne rfl)
  · simp [hu]

@[simp] theorem notifyChange_tables : (m.notifyChange userId key).tables = m.tables := rfl

/-- A write replaces one row and perhaps notifies, or it fails and changes nothing. -/
theorem setStringValue_cases {needNotify : Bool} :
    (m.setStringValue env key value userId needNotify =
      (if needNotify then (m.putRow userId key value).notifyChange userId key
        else m.putRow userId key value, .ok)) ∨
    ((m.setStringValue env key value userId needNotify).1 = m ∧
      (m.setStringValue env key value userId needNotify).2 ≠ .ok) := by
  unfold setStringValue updateValue
  split_ifs <;> simp

theorem hasHelper_of_setStringValue {needNotify : Bool}
    (h : (m.setStringValue env key value userId needNotify).2 = .ok) :
    m.hasHelper env userId = true := by
  by_contra hhelper
  rw [setStringValue, if_neg hhelper] at h
  cases h

theorem tables_setStringValue_of_ne {needNotify : Bool} {userId' : ℤ} {key' : String}
    (h : userId' ≠ userId ∨ key' ≠ key) :
    (m.setStringValue env key value userId needNotify).1.tables userId' key' =
      m.tables userId' key' := by
  rcases setStringValue_cases with hset | ⟨hset, -⟩
  · rw [hset]
    cases needNotify <;> exact putRow_tables_of_ne h
  · rw [hset]

theorem updateValue_eq_some {m' : SettingDataManager β}
    (h : m.updateValue env userId key value = some m') : m' = m.putRow userId key value := by
  unfold updateValue at h
  split_ifs at h
  · exact (Option.some.inj h).symm
  · exact (Option.some.inj h).symm

/-- A pair that was stored is found under its two keys. -/
theorem setInt32ValuePair_ok {key' : String} {v v' : ℤ}
    (h : (m.setInt32ValuePair env key v key' v' userId).2 = .ok) :
    m.isInitialized = true ∧ (m.setInt32ValuePair env key v key' v' userId).1 =
      (((m.putRow userId key (toString v)).putRow userId key' (toString v')).notifyChange
        userId key).notifyChange userId key' := by
  unfold setInt32ValuePair at h ⊢
  split_ifs at h ⊢ with hh
  refine ⟨(Bool.and_eq_true_iff.mp hh).1, ?_⟩
  split at h
  · cases h
  · next m₁ h₁ =>
    obtain rfl := updateValue_eq_some h₁
    split at h
    · next m₂ h₂ =>
      obtain rfl := updateValue_eq_some h₂
      rfl
    · split at h <;> cases h

/-- A pair concerns its two rows, whether it is stored, refused or taken back. -/
theorem tables_setInt32ValuePair_of_ne {key' : String} {v v' : ℤ} {userId' : ℤ} {key'' : String}
    (hfirst : userId' ≠ userId ∨ key'' ≠ key) (hsecond : userId' ≠ userId ∨ key'' ≠ key') :
    (m.setInt32ValuePair env key v key' v' userId).1.tables userId' key'' =
      m.tables userId' key'' := by
  have hkept {m m' : SettingDataManager β} {key : String} {value : String}
      (hother : userId' ≠ userId ∨ key'' ≠ key)
      (h : m.updateValue env userId key value = some m') :
      m'.tables userId' key'' = m.tables userId' key'' := by
    rw [updateValue_eq_some h]
    exact putRow_tables_of_ne hother
  unfold setInt32ValuePair
  split_ifs
  · cases hm₁ : m.updateValue env userId key (toString v) with
    | none => rfl
    | some m₁ =>
      have hwritten := hkept hfirst hm₁
      dsimp only
      cases hm₂ : m₁.updateValue env userId key' (toString v') with
      | some m₂ => exact (hkept hsecond hm₂).trans hwritten
      | none =>
        dsimp only
        cases m.getInt32Value env key userId with
        | error code => exact hwritten
        | ok oldFirstValue =>
          dsimp only
          cases hback : m₁.updateValue env userId key (toString oldFirstValue) with
          | none => exact hwritten
          | some m₃ => exact (hkept hfirst hback).trans hwritten
  · rfl

theorem setStringValue_ok (hh : m.hasHelper env userId = true)
    (hi : env.insert userId key value = true) {needNotify : Bool} :
    m.setStringValue env key value userId needNotify =
      (if needNotify then (m.putRow userId key value).notifyChange userId key
        else m.putRow userId key value, .ok) := by
  simp [setStringValue, updateValue, hh, hi]

/-- The number a row holds. A text that is not the one of its number holds none. -/
def number (row : Option String) : Option ℤ :=
  match row with
  | none => none
  | some text =>
    match fromChars text with
    | none => none
    | some v => if toString v = text then some v else none

/-- With the database working, a strict read finds the number that the row holds. -/
theorem getInt32ValueStrictly_toOption (hh : m.hasHelper env userId = true)
    (hq : env.query userId key = .rows) :
    (m.getInt32ValueStrictly env key userId).toOption = number (m.tables userId key) := by
  unfold getInt32ValueStrictly getStringValue number
  rw [if_pos hh, hq]
  cases m.tables userId key with
  | none => rfl
  | some text =>
    dsimp only
    cases fromChars text with
    | none => rfl
    | some v =>
      dsimp only
      split_ifs <;> rfl

end SettingDataManager
end UiAppearance
