import Mathlib.Data.Int.Basic
import Mathlib.Tactic.Common

/-!
# What the service asks of the system around it

Every call that leaves the service (clock, account manager, application
manager, parameter store, settings database, timer service) gets its answer
from an `Env`; `enableSubspace` is the build switch for sub-profiles. One `Env` belongs to one atomic step, so the clock stands still
within a step and may do anything between two steps. The default of each field
is the answer of a healthy system.
-/

namespace UiAppearance

inductive ErrCode where
  | ok
  | noInit
  | invalidValue
  | invalidOperation
  | nameNotFound
  deriving DecidableEq, Repr

def invalidUserId : ℤ := -1
def user100 : ℤ := 100
def user0 : ℤ := 0

/-- One reading of the clock. `timestamp` is `time`, whose error value is `-1`;
`secondOfDay` stands for the hour, minute and second of `localtime`, and
`midnight` is what `mktime` makes of that day at 0:00:00. -/
structure Clock where
  timestamp : ℤ
  secondOfDay : ℕ
  midnight : ℤ
  secondOfDay_lt : secondOfDay < 86400

namespace Clock

def failed (c : Clock) : Bool := c.timestamp == -1

/-- `tm_hour * 60 + tm_min`. -/
def minuteOfDay (c : Clock) : ℕ := c.secondOfDay / 60

theorem minuteOfDay_lt (c : Clock) : c.minuteOfDay < 1440 := by
  have := c.secondOfDay_lt
  unfold minuteOfDay
  omega

/-- The second of the day counts from local midnight: no offset change since then. -/
def Regular (c : Clock) : Prop := c.timestamp = c.midnight + c.secondOfDay

end Clock

/-- How the settings database answers a query for a key that it was asked for. -/
inductive QueryAnswer where
  | rows
  | nullResult
  | unreadable
  deriving DecidableEq, Repr

/-- The three timers that the service creates for one key. -/
inductive TimerName where
  | start
  | finish
  | recalculation
  deriving DecidableEq, Repr

/-- The places in the code that ask for the created accounts. -/
inductive AccountQuery where
  | beforeMigration
  | migration
  | beforeInitialization
  | initialization
  deriving DecidableEq, Repr

structure Env where
  clock : Clock
  accessGranted : Bool := true
  callingUid : ℤ := 0
  foregroundOsAccountLocalId : Option ℤ := some 100
  foregroundOsAccounts : List ℤ := [100]
  createdOsAccounts : AccountQuery → List ℤ := fun _ => [100]
  activeOsAccountIds : List ℤ := [100]
  enableSubspace : Bool := true
  foregroundSubProfileId : ℤ → Option ℤ := fun _ => none
  subProfileIds : ℤ → List ℤ := fun _ => []
  appManager : Bool := true
  updateConfiguration : List ℤ → Bool := fun _ => true
  configurationInForce : Bool := false
  setParameter : String → String → Bool := fun _ _ => true
  validFontWeightScale : String → Bool := fun _ => true
  settingService : Bool := true
  createHelper : ℤ → Bool := fun _ => true
  query : ℤ → String → QueryAnswer := fun _ _ => .rows
  update : ℤ → String → String → Bool := fun _ _ _ => true
  insert : ℤ → String → String → Bool := fun _ _ _ => true
  createTimer : TimerName → ℕ := fun name => name.ctorIdx + 1
  startTimer : TimerName → Bool := fun _ => true
  destroyTimer : ℕ → Bool := fun _ => true
  sunTimes : Option (ℤ × ℤ) := none

end UiAppearance
