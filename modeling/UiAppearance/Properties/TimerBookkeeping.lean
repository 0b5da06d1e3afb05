import UiAppearance.Foundations.Ledger
import UiAppearance.Foundations.Transition
import UiAppearance.Schedule.AlarmTimerManager

/-!
# The timer manager and the time service

Every timer the time service holds is recorded under one key and one name, and
every identifier recorded stands for such a timer, whichever creations and
starts fail on the way. A key has identifiers exactly when its bounds are
recorded.
-/

namespace UiAppearance
namespace TimerBookkeeping

open Transition AlarmTimerManager

inductive Operation (γ : Type) where
  | setScheduleTime (startTime endTime userId : ℕ) (startCallback endCallback : γ)
  | clearTimerByUserId (userId : ℕ)
  | restartAllTimer
  | setRecalculationTimer (userId : ℕ) (callback : γ)
  | clearRecalculationTimer (userId : ℕ)

variable {γ : Type}

def next (m : AlarmTimerManager γ) (e : Env × Operation γ) : AlarmTimerManager γ :=
  match e.2 with
  | .setScheduleTime startTime endTime userId startCallback endCallback =>
    (m.setScheduleTime e.1 startTime endTime userId startCallback endCallback).1
  | .clearTimerByUserId userId => m.clearTimerByUserId e.1 userId
  | .restartAllTimer => (m.restartAllTimer e.1).1
  | .setRecalculationTimer userId callback => m.setRecalculationTimer e.1 userId callback
  | .clearRecalculationTimer userId => m.clearRecalculationTimer e.1 userId

/-- Timers created and not destroyed. -/
def live (m : AlarmTimerManager γ) : Set ℕ := {id | (m.timeService id).isSome = true}

def nonZero (id : ℕ) : Option ℕ := if id = 0 then none else some id

/-- The identifier recorded for a key and a name, if it is not `0`. -/
def recorded (m : AlarmTimerManager γ) : ℕ × TimerName → Option ℕ
  | (userId, .start) => nonZero (m.timerIds userId).1
  | (userId, .finish) => nonZero (m.timerIds userId).2
  | (userId, .recalculation) => nonZero ((m.recalculationTimerIdMap userId).getD 0)

/-- The time service hands out no timer, or one it does not hold once `old` is destroyed. -/
def Fresh (env : Env) (m : AlarmTimerManager γ) (old : ℕ) (name : TimerName) : Prop :=
  env.createTimer name = 0 ∨ (m.clearTimer env old).timeService (env.createTimer name) = none

/-- The state between the start timer and the end timer of a key. -/
def withStart (env : Env) (m : AlarmTimerManager γ) (startTime endTime userId : ℕ)
    (startCallback : γ) : AlarmTimerManager γ :=
  (m.recordInitialSetupTime startTime endTime userId).setTimer env .start userId
    (setTimerTriggerTime env.clock startTime endTime).1 startCallback

/-- What the time service promises for one operation: timers that are asked for are fresh when
they are created, and a timer can be destroyed. -/
def Promised (m : AlarmTimerManager γ) (e : Env × Operation γ) : Prop :=
  (∀ id, e.1.destroyTimer id = true) ∧
  match e.2 with
  | .setScheduleTime startTime endTime userId startCallback _ =>
    isValidScheduleTime startTime endTime = true →
      Fresh e.1 m (m.timerIds userId).1 .start ∧
        Fresh e.1 (withStart e.1 m startTime endTime userId startCallback)
          ((withStart e.1 m startTime endTime userId startCallback).timerIds userId).2 .finish
  | .setRecalculationTimer userId _ =>
    (m.recalculationTimerIdMap userId).getD 0 = 0 → Fresh e.1 m 0 .recalculation
  | _ => True

structure Booked (m : AlarmTimerManager γ) : Prop where
  balanced : Balanced (live m) (recorded m)
  sameKeys : ∀ userId,
    (m.timerIdMap.lookup userId).isSome = (m.initialSetupTimeMap userId).isSome

section TimeService

variable {env : Env} {m : AlarmTimerManager γ} {name : TimerName} {time : ℕ} {callback : γ}

theorem live_clearTimer (hdestroy : ∀ id, env.destroyTimer id = true) (id : ℕ) :
    live (m.clearTimer env id) = {j | j ∈ live m ∧ nonZero id ≠ some j} := by
  unfold clearTimer nonZero
  rw [hdestroy, if_pos rfl]
  split_ifs with h
  · simp
  · ext j
    by_cases hj : j = id
    · simp [live, Table.remove, hj]
    · simp [live, Table.remove, hj, Ne.symm hj]

/-- A timer that could be created and started is one more; otherwise nothing has changed. -/
theorem live_initTimer (time : ℕ) (callback : γ) (hdestroy : ∀ id, env.destroyTimer id = true)
    (hfresh : env.createTimer name = 0 ∨ m.timeService (env.createTimer name) = none) :
    live (m.initTimer env name time callback).1 =
        {j | j ∈ live m ∨ nonZero (m.initTimer env name time callback).2 = some j} ∧
      ∀ j, nonZero (m.initTimer env name time callback).2 = some j → j ∉ live m := by
  unfold initTimer
  dsimp only
  split_ifs with hzero hstart
  · simp [nonZero]
  · have hnone := hfresh.resolve_left hzero
    refine ⟨?_, ?_⟩
    · ext j
      by_cases hj : j = env.createTimer name
      · simp [live, nonZero, hzero, hj]
      · simp [live, nonZero, hzero, Table.put_of_ne hj, Ne.symm hj]
    · intro j hj
      simp only [nonZero, hzero, if_false, Option.some.injEq] at hj
      simp [live, ← hj, hnone]
  · have hnone := hfresh.resolve_left hzero
    refine ⟨?_, by simp [nonZero]⟩
    rw [live_clearTimer hdestroy]
    ext j
    by_cases hj : j = env.createTimer name
    · simp [live, nonZero, hzero, hj, hnone]
    · simp [live, nonZero, hzero, Table.put_of_ne hj, Ne.symm hj]

/-- A slot is handed over from the old timer to the new one. -/
theorem balanced_replaceTimer (time : ℕ) (callback : γ)
    (hdestroy : ∀ id, env.destroyTimer id = true) {old : ℕ}
    (hfresh : Fresh env m old name) {slot : ℕ × TimerName → Option ℕ} {a : ℕ × TimerName}
    (ha : slot a = nonZero old) (h : Balanced (live m) slot) :
    Balanced (live (m.replaceTimer env old name time callback).1)
      (Function.update slot a (nonZero (m.replaceTimer env old name time callback).2)) := by
  have hcleared : Balanced (live (m.clearTimer env old)) (Function.update slot a none) := by
    rw [live_clearTimer hdestroy, ← ha]
    exact h.release
  obtain ⟨hlive, hnew⟩ := live_initTimer time callback hdestroy hfresh
  rw [replaceTimer_eq_initTimer, hlive]
  cases hid : nonZero ((m.clearTimer env old).initTimer env name time callback).2 with
  | none =>
    simpa using hcleared
  | some i =>
    have hfilled := hcleared.fill (Function.update_self ..) (hnew i hid)
    rw [Function.update_idem] at hfilled
    convert hfilled using 1
    ext j
    simp [or_comm, eq_comm]

end TimeService

section Operations

variable {env : Env} {m : AlarmTimerManager γ}

/-- The records of the other keys and names stay, the one that is set has the new identifier. -/
theorem recorded_setTimer {name : TimerName} (hname : name ≠ .recalculation) (userId time : ℕ)
    (callback : γ) :
    recorded (m.setTimer env name userId time callback) =
      Function.update (recorded m) (userId, name) (nonZero
        (m.replaceTimer env (slot name (m.timerIds userId)) name time callback).2) := by
  obtain ⟨htimers, -, hrecalculation⟩ :=
    maps_replaceTimer env m (slot name (m.timerIds userId)) name time callback
  have hrecalculation' : (m.setTimer env name userId time callback).recalculationTimerIdMap =
      m.recalculationTimerIdMap := hrecalculation
  funext a
  obtain ⟨userId', name'⟩ := a
  by_cases huser : userId' = userId
  · subst huser
    cases name <;> cases name' <;>
      simp_all [recorded, setTimer, timerIds, slot]
  · have hlookup : (m.setTimer env name userId time callback).timerIds userId' =
        m.timerIds userId' := by
      change ((AList.insert userId _ (m.replaceTimer env _ name time callback).1.timerIdMap).lookup
        userId').getD (0, 0) = _
      rw [AList.lookup_insert_ne huser, htimers]
      rfl
    have hne : (userId', name') ≠ (userId, name) := fun h => huser (Prod.mk.inj h).1
    rw [Function.update_of_ne hne]
    cases name' <;> simp only [recorded, hlookup, hrecalculation']

theorem live_setTimer (name : TimerName) (userId time : ℕ) (callback : γ) :
    live (m.setTimer env name userId time callback) =
      live (m.replaceTimer env (slot name (m.timerIds userId)) name time callback).1 := rfl

theorem balanced_setTimer (hdestroy : ∀ id, env.destroyTimer id = true) {name : TimerName}
    (hname : name ≠ .recalculation) {userId : ℕ} (time : ℕ) (callback : γ)
    (hfresh : Fresh env m (slot name (m.timerIds userId)) name)
    (h : Balanced (live m) (recorded m)) :
    Balanced (live (m.setTimer env name userId time callback))
      (recorded (m.setTimer env name userId time callback)) := by
  rw [recorded_setTimer hname, live_setTimer]
  refine balanced_replaceTimer time callback hdestroy hfresh ?_ h
  cases name
  · rfl
  · rfl
  · exact absurd rfl hname

theorem sameKeys_setTimer {name : TimerName} {userId time : ℕ} {callback : γ}
    (hsetup : (m.initialSetupTimeMap userId).isSome = true)
    (h : ∀ userId', userId' ≠ userId →
      (m.timerIdMap.lookup userId').isSome = (m.initialSetupTimeMap userId').isSome)
    (userId' : ℕ) :
    ((m.setTimer env name userId time callback).timerIdMap.lookup userId').isSome =
      ((m.setTimer env name userId time callback).initialSetupTimeMap userId').isSome := by
  obtain ⟨htimers, hsame, -⟩ :=
    maps_replaceTimer env m (slot name (m.timerIds userId)) name time callback
  change ((AList.insert userId _ (m.replaceTimer env _ name time callback).1.timerIdMap).lookup
    userId').isSome = ((m.replaceTimer env _ name time callback).1.initialSetupTimeMap
    userId').isSome
  rw [htimers, hsame]
  by_cases huser : userId' = userId
  · subst huser
    rw [AList.lookup_insert, hsetup]
    rfl
  · rw [AList.lookup_insert_ne huser, h userId' huser]

theorem fresh_recordInitialSetupTime {old : ℕ} {name : TimerName} {startTime endTime userId : ℕ} :
    Fresh env (m.recordInitialSetupTime startTime endTime userId) old name ↔
      Fresh env m old name := by
  unfold Fresh recordInitialSetupTime clearTimer
  split_ifs <;> rfl

theorem booked_setScheduleTime (hdestroy : ∀ id, env.destroyTimer id = true)
    {startTime endTime userId : ℕ} {startCallback endCallback : γ}
    (hfresh : isValidScheduleTime startTime endTime = true →
      Fresh env m (m.timerIds userId).1 .start ∧
        Fresh env (withStart env m startTime endTime userId startCallback)
          ((withStart env m startTime endTime userId startCallback).timerIds userId).2 .finish)
    (h : Booked m) :
    Booked (m.setScheduleTime env startTime endTime userId startCallback endCallback).1 := by
  unfold setScheduleTime
  cases hvalid : isValidScheduleTime startTime endTime with
  | false => exact h
  | true =>
    obtain ⟨hstart, hfinish⟩ := hfresh hvalid
    set m₀ := m.recordInitialSetupTime startTime endTime userId with hm₀
    set m₁ := withStart env m startTime endTime userId startCallback with hm₁
    have hothers : ∀ userId', userId' ≠ userId →
        (m₀.timerIdMap.lookup userId').isSome = (m₀.initialSetupTimeMap userId').isSome := by
      intro userId' hne
      change _ = (Table.put _ _ _ userId').isSome
      rw [Table.put_of_ne hne]
      exact h.sameKeys userId'
    have hown : (m₀.initialSetupTimeMap userId).isSome = true := by
      simp [hm₀, recordInitialSetupTime]
    have hkeys (userId' : ℕ) : (m₁.timerIdMap.lookup userId').isSome =
        (m₁.initialSetupTimeMap userId').isSome := sameKeys_setTimer hown hothers userId'
    have hown' : (m₁.initialSetupTimeMap userId).isSome = true := by
      rw [← hkeys userId]
      change (AList.lookup userId (AList.insert userId _ _)).isSome = true
      rw [AList.lookup_insert]
      rfl
    have hbalanced : Balanced (live m₁) (recorded m₁) :=
      balanced_setTimer hdestroy (by decide) _ _ (fresh_recordInitialSetupTime.mpr hstart)
        h.balanced
    have hbooked : Booked (m₁.setTimer env .finish userId
        (setTimerTriggerTime env.clock startTime endTime).2 endCallback) := by
      constructor
      · exact balanced_setTimer hdestroy (by decide) _ _ hfinish hbalanced
      · exact sameKeys_setTimer hown' fun userId' _ => hkeys userId'
    simp only [Bool.not_true, Bool.false_eq_true, if_false]
    split_ifs
    · exact hbooked
    · exact hbooked

theorem timerIds_of_maps {m' : AlarmTimerManager γ} (htimers : m'.timerIdMap = m.timerIdMap)
    (userId : ℕ) : m'.timerIds userId = m.timerIds userId := by
  unfold timerIds
  rw [htimers]

/-- One recalculation timer is recorded anew, or no longer. -/
theorem recorded_updateRecalculation {m' : AlarmTimerManager γ} {userId : ℕ} {id : Option ℕ}
    (htimers : m'.timerIdMap = m.timerIdMap)
    (hrecalculation :
      m'.recalculationTimerIdMap = Function.update m.recalculationTimerIdMap userId id) :
    recorded m' = Function.update (recorded m) (userId, .recalculation) (nonZero (id.getD 0)) := by
  funext a
  obtain ⟨userId', name⟩ := a
  cases name with
  | start =>
    rw [Function.update_of_ne (by simp)]
    simp only [recorded, timerIds_of_maps htimers]
  | finish =>
    rw [Function.update_of_ne (by simp)]
    simp only [recorded, timerIds_of_maps htimers]
  | recalculation =>
    by_cases huser : userId' = userId
    · subst huser
      simp [recorded, hrecalculation]
    · simp [recorded, hrecalculation, huser]

theorem balanced_clearRecalculationTimer (hdestroy : ∀ id, env.destroyTimer id = true)
    (h : Balanced (live m) (recorded m)) (userId : ℕ) :
    Balanced (live (m.clearRecalculationTimer env userId))
      (recorded (m.clearRecalculationTimer env userId)) := by
  unfold clearRecalculationTimer
  cases hid : m.recalculationTimerIdMap userId with
  | none => exact h
  | some id =>
    obtain ⟨htimers, -, hrecalculation⟩ := maps_clearTimer env m id
    have hslot : recorded m (userId, .recalculation) = nonZero id := by
      simp [recorded, hid]
    have hreleased := h.release (a := (userId, .recalculation))
    rw [hslot, ← live_clearTimer hdestroy] at hreleased
    have hrecorded : recorded { m.clearTimer env id with recalculationTimerIdMap :=
        (m.clearTimer env id).recalculationTimerIdMap.remove userId } =
        Function.update (recorded m) (userId, .recalculation)
          (nonZero ((none : Option ℕ).getD 0)) :=
      recorded_updateRecalculation htimers (congrArg (Table.remove · userId) hrecalculation)
    change Balanced _ (recorded { m.clearTimer env id with recalculationTimerIdMap := _ })
    rw [hrecorded]
    exact hreleased

theorem booked_clearRecalculationTimer (hdestroy : ∀ id, env.destroyTimer id = true)
    (h : Booked m) (userId : ℕ) : Booked (m.clearRecalculationTimer env userId) := by
  obtain ⟨htimers, hsetup⟩ := maps_clearRecalculationTimer env m userId
  constructor
  · exact balanced_clearRecalculationTimer hdestroy h.balanced userId
  · intro userId'
    rw [htimers, hsetup]
    exact h.sameKeys userId'

/-- A recalculation timer is only created where none is recorded. -/
theorem booked_setRecalculationTimer (hdestroy : ∀ id, env.destroyTimer id = true) {userId : ℕ}
    {callback : γ}
    (hfresh : (m.recalculationTimerIdMap userId).getD 0 = 0 → Fresh env m 0 .recalculation)
    (h : Booked m) : Booked (m.setRecalculationTimer env userId callback) := by
  unfold setRecalculationTimer
  split_ifs with hrunning
  · exact h
  · have hzero : (m.recalculationTimerIdMap userId).getD 0 = 0 := by omega
    have hslot : recorded m (userId, .recalculation) = nonZero 0 := by
      simp [recorded, hzero]
    set time := toUInt64 (toUInt64 (env.clock.timestamp * 1000) + dayToMilli)
    obtain ⟨htimers, hsetup, hrecalculation⟩ := maps_replaceTimer env m 0 .recalculation time
      callback
    have hbalanced := balanced_replaceTimer time callback hdestroy (hfresh hzero) hslot h.balanced
    have hsame : m.replaceTimer env 0 .recalculation time callback =
        m.initTimer env .recalculation time callback := rfl
    rw [hsame] at htimers hsetup hrecalculation hbalanced
    dsimp only
    split_ifs with hid
    · constructor
      · rw [hid, ← hslot, Function.update_eq_self] at hbalanced
        have hrecorded : recorded (m.initTimer env .recalculation time callback).1 =
            Function.update (recorded m) (userId, .recalculation)
              (nonZero ((m.recalculationTimerIdMap userId).getD 0)) :=
          recorded_updateRecalculation htimers (by rw [hrecalculation, Function.update_eq_self])
        rw [hrecorded, hzero, ← hslot, Function.update_eq_self]
        exact hbalanced
      · intro userId'
        rw [htimers, hsetup]
        exact h.sameKeys userId'
    · constructor
      · have hrecorded : recorded { (m.initTimer env .recalculation time callback).1 with
            recalculationTimerIdMap :=
              (m.initTimer env .recalculation time callback).1.recalculationTimerIdMap.put userId
                (m.initTimer env .recalculation time callback).2 } = _ :=
          recorded_updateRecalculation htimers (congrArg (Table.put · userId _) hrecalculation)
        rw [hrecorded]
        exact hbalanced
      · intro userId'
        dsimp only
        rw [htimers, hsetup]
        exact h.sameKeys userId'

theorem recorded_eraseTimers {m' : AlarmTimerManager γ} (userId : ℕ)
    (htimers : m'.timerIdMap = m.timerIdMap.erase userId)
    (hrecalculation : m'.recalculationTimerIdMap = m.recalculationTimerIdMap) :
    recorded m' =
      Function.update (Function.update (recorded m) (userId, .start) none) (userId, .finish)
        none := by
  funext a
  obtain ⟨userId', name⟩ := a
  by_cases huser : userId' = userId
  · subst huser
    have hids : m'.timerIds userId' = (0, 0) := by
      unfold timerIds
      rw [htimers, AList.lookup_erase]
      rfl
    cases name <;> simp [recorded, hids, hrecalculation, nonZero]
  · have hids : m'.timerIds userId' = m.timerIds userId' := by
      unfold timerIds
      rw [htimers, AList.lookup_erase_ne huser]
    cases name <;> simp [recorded, hids, hrecalculation, huser]

theorem balanced_clearTimers (hdestroy : ∀ id, env.destroyTimer id = true) (userId : ℕ)
    (h : Balanced (live m) (recorded m)) :
    Balanced (live ((m.clearTimer env (m.timerIds userId).1).clearTimer env
        (m.timerIds userId).2))
      (Function.update (Function.update (recorded m) (userId, .start) none) (userId, .finish)
        none) := by
  have hslot : Function.update (recorded m) (userId, .start) none (userId, .finish) =
      nonZero (m.timerIds userId).2 := by
    rw [Function.update_of_ne (by simp)]
    rfl
  have hreleased := (h.release (a := (userId, .start))).release (a := (userId, .finish))
  rw [hslot] at hreleased
  rw [live_clearTimer hdestroy, live_clearTimer hdestroy]
  exact hreleased

/-- The end of `clearTimerByUserId`, once the timers of the key are gone. -/
theorem booked_forget (hdestroy : ∀ id, env.destroyTimer id = true) {userId : ℕ}
    (hbalanced : Balanced (live m) (recorded m))
    (hkeys : ∀ userId', (m.timerIdMap.lookup userId').isSome =
      (m.initialSetupTimeMap.remove userId userId').isSome) :
    Booked { m.clearRecalculationTimer env userId with initialSetupTimeMap :=
      (m.clearRecalculationTimer env userId).initialSetupTimeMap.remove userId } := by
  obtain ⟨htimers, hsetup⟩ := maps_clearRecalculationTimer env m userId
  constructor
  · exact balanced_clearRecalculationTimer hdestroy hbalanced userId
  · intro userId'
    dsimp only
    rw [htimers, hsetup]
    exact hkeys userId'

theorem booked_clearTimerByUserId (hdestroy : ∀ id, env.destroyTimer id = true) (userId : ℕ)
    (h : Booked m) : Booked (m.clearTimerByUserId env userId) := by
  unfold clearTimerByUserId
  cases hids : m.timerIdMap.lookup userId with
  | none =>
    refine booked_forget hdestroy h.balanced fun userId' => ?_
    by_cases huser : userId' = userId
    · subst huser
      simp [hids, Table.remove]
    · rw [h.sameKeys userId', Table.remove, Function.update_of_ne huser]
  | some ids =>
    have htimerIds : m.timerIds userId = ids := by simp [timerIds, hids]
    obtain ⟨htimers, hsetup, hrecalculation⟩ := maps_clearTimer env m ids.1
    obtain ⟨htimers', hsetup', hrecalculation'⟩ :=
      maps_clearTimer env (m.clearTimer env ids.1) ids.2
    refine booked_forget hdestroy ?_ fun userId' => ?_
    · have hbalanced := balanced_clearTimers hdestroy userId h.balanced
      rw [htimerIds] at hbalanced
      rw [recorded_eraseTimers (m := m) userId]
      · exact hbalanced
      · rw [← htimers, ← htimers']
      · exact hrecalculation'.trans hrecalculation
    · dsimp only
      rw [htimers', htimers, hsetup', hsetup]
      by_cases huser : userId' = userId
      · subst huser
        simp [Table.remove]
      · rw [AList.lookup_erase_ne huser, h.sameKeys userId', Table.remove,
          Function.update_of_ne huser]

/-- The same timers, recorded in the same places. -/
structure SameBooks (m m' : AlarmTimerManager γ) : Prop where
  live : live m' = live m
  timers : m'.timerIdMap = m.timerIdMap
  setup : m'.initialSetupTimeMap = m.initialSetupTimeMap
  recalculation : m'.recalculationTimerIdMap = m.recalculationTimerIdMap

theorem SameBooks.booked {m' : AlarmTimerManager γ} (h : SameBooks m m') (hbooked : Booked m) :
    Booked m' := by
  have hrecorded : recorded m' = recorded m := by
    funext a
    obtain ⟨userId, name⟩ := a
    cases name <;> simp only [recorded, timerIds_of_maps h.timers, h.recalculation]
  constructor
  · rw [h.live, hrecorded]
    exact hbooked.balanced
  · intro userId
    rw [h.timers, h.setup]
    exact hbooked.sameKeys userId

/-- A new trigger time is given to a live timer only. -/
theorem sameBooks_restartTimerByTimerId (m : AlarmTimerManager γ) (timerId time : ℕ) :
    SameBooks m (m.restartTimerByTimerId timerId time) := by
  unfold restartTimerByTimerId
  cases htimer : m.timeService timerId with
  | none => exact ⟨rfl, rfl, rfl, rfl⟩
  | some timer =>
    refine ⟨?_, rfl, rfl, rfl⟩
    ext id
    by_cases hid : id = timerId
    · simp [TimerBookkeeping.live, hid, htimer]
    · simp [TimerBookkeeping.live, Table.put_of_ne hid]

theorem booked_restartTimerByTimerId (h : Booked m) (timerId time : ℕ) :
    Booked (m.restartTimerByTimerId timerId time) :=
  (sameBooks_restartTimerByTimerId m timerId time).booked h

theorem booked_restartAllTimer (h : Booked m) : Booked (m.restartAllTimer env).1 :=
  restartAllTimer_preserves (fun _ _ _ hm => booked_restartTimerByTimerId hm _ _) h

end Operations

theorem booked_empty : Booked ({} : AlarmTimerManager γ) where
  balanced := by
    have hlive : live ({} : AlarmTimerManager γ) = ∅ := by
      ext id
      simp [live, Table.empty]
    have hrecorded : recorded ({} : AlarmTimerManager γ) = fun _ => none := by
      funext a
      obtain ⟨userId, name⟩ := a
      cases name <;> rfl
    rw [hlive, hrecorded]
    exact Balanced.empty
  sameKeys _ := rfl

theorem booked_next (m : AlarmTimerManager γ) (e : Env × Operation γ) (h : Booked m)
    (hok : Promised m e) : Booked (next m e) := by
  obtain ⟨env, operation⟩ := e
  obtain ⟨hdestroy, hfresh⟩ := hok
  cases operation with
  | setScheduleTime startTime endTime userId startCallback endCallback =>
    exact booked_setScheduleTime hdestroy hfresh h
  | clearTimerByUserId userId => exact booked_clearTimerByUserId hdestroy userId h
  | restartAllTimer => exact booked_restartAllTimer h
  | setRecalculationTimer userId callback => exact booked_setRecalculationTimer hdestroy hfresh h
  | clearRecalculationTimer userId => exact booked_clearRecalculationTimer hdestroy h userId

/-- Whatever is asked for, and whatever fails, no timer leaks and no record dangles. -/
theorem booked_exec {es : List (Env × Operation γ)} (hok : Along next Promised {} es) :
    Booked (exec next {} es) :=
  exec_invariant booked_next booked_empty hok

/-- A time service whose end timers cannot be started. -/
def halfFailing : Env where
  clock := ⟨1000000, 43000, 957000, by decide⟩
  startTimer name := name ≠ .finish

theorem halfArmed_booked :
    Booked (exec next ({} : AlarmTimerManager ℕ)
      [(halfFailing, .setScheduleTime 660 780 100 0 0), (halfFailing, .setRecalculationTimer 100 0),
        (halfFailing, .clearTimerByUserId 100)]) :=
  booked_exec ⟨⟨fun _ => rfl, fun _ => ⟨.inr rfl, .inr rfl⟩⟩,
    ⟨fun _ => rfl, fun _ => .inr rfl⟩, ⟨fun _ => rfl, trivial⟩, trivial⟩

end TimerBookkeeping
end UiAppearance
