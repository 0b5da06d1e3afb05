import UiAppearance.Foundations.MachineInt
import UiAppearance.Platform.Environment

/-!
# Account contexts and the keys made from them

A context is an account, or one sub-profile of an account. Parameters, settings
and timers of a context are found under keys built from its two numbers.
-/

namespace UiAppearance

def invalidSubProfileId : ℤ := -1

structure AccountContext where
  userId : ℤ
  subProfileId : ℤ
  deriving DecidableEq, Repr

namespace AccountContext

def createBaseContext (userId : ℤ) : AccountContext := ⟨userId, invalidSubProfileId⟩

def isSubProfileContext (context : AccountContext) : Bool :=
  context.subProfileId != invalidSubProfileId

def createContext (env : Env) (userId subProfileId : ℤ) : AccountContext :=
  if env.enableSubspace then ⟨userId, subProfileId⟩ else createBaseContext userId

/-- The foreground sub-profile when the account service names one, else the account itself. -/
def getForegroundContext (env : Env) (fallbackUserId : ℤ) : AccountContext :=
  match env.foregroundSubProfileId fallbackUserId with
  | some subProfileId => createContext env fallbackUserId subProfileId
  | none => createBaseContext fallbackUserId

def getContextsByUserId (env : Env) (userId : ℤ) : List AccountContext :=
  let subProfileIds := if env.enableSubspace then env.subProfileIds userId else []
  let contexts := (subProfileIds.filter (· != invalidSubProfileId)).map
    fun subProfileId => ⟨userId, subProfileId⟩
  if contexts.isEmpty then [createBaseContext userId] else contexts

def getContextsByUserIds (env : Env) (userIds : List ℤ) : List AccountContext :=
  userIds.flatMap (getContextsByUserId env)

protected def toString (context : AccountContext) : String :=
  if context.isSubProfileContext then
    toString context.userId ++ "." ++ toString context.subProfileId
  else toString context.userId

def buildUserParamKey (paramName : String) (context : AccountContext) : String :=
  paramName ++ context.toString

def buildSettingKey (key : String) (context : AccountContext) : String :=
  if context.isSubProfileContext then key ++ "." ++ toString context.subProfileId else key

/-- The user in the high half and the sub-profile in the low half. -/
def buildTimerKey (context : AccountContext) : ℕ :=
  if context.isSubProfileContext then
    (toUInt32 context.userId <<< 32) ||| toUInt32 context.subProfileId
  else toUInt64 context.userId

/-- Within one context different settings have different keys. -/
@[simp] theorem buildSettingKey_inj {key key' : String} {context : AccountContext} :
    buildSettingKey key context = buildSettingKey key' context ↔ key = key' := by
  unfold buildSettingKey
  split_ifs
  · simp [String.append_assoc]
  · rfl

/-- The foreground context of an account belongs to that account. -/
@[simp] theorem getForegroundContext_userId (env : Env) (userId : ℤ) :
    (getForegroundContext env userId).userId = userId := by
  unfold getForegroundContext createContext
  split
  · split_ifs <;> rfl
  · rfl

end AccountContext

end UiAppearance
