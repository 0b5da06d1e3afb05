import UiAppearance.Foundations.Table
import UiAppearance.Account.AccountContext
import Mathlib.Data.List.AList

/-!
# Alarm timers

A key owns a start timer and an end timer that repeat every day, and perhaps a
recalculation timer. Identifier `0` means that there is no timer. Schedule
bounds are minutes of the day as `uint64_t`; an end beyond 1440 lies on the
next day. Trigger times are milliseconds, computed modulo `2 ^ 64`.
-/

namespace UiAppearance

/-- A timer the time service has created and not destroyed. -/
structure LiveTimer (γ : Type) where
  name : TimerName
  triggerTime : ℕ
  callback : γ

structure AlarmTimerManager (γ : Type) where
  timerIdMap : AList (fun _ : ℕ => ℕ × ℕ) := ∅
  initialSetupTimeMap : Table ℕ (ℕ × ℕ) := Table.empty
  recalculationTimerIdMap : Table ℕ ℕ := Table.empty
  timeService : Table ℕ (LiveTimer γ) := Table.empty

namespace AlarmTimerManager

def dayToMinute : ℕ := 1440
def dayToMilli : ℕ := 86400000
def minuteToMilli : ℕ := 60000

def isValidScheduleTime (startTime endTime : ℕ) : Bool :=
  decide (startTime < endTime) && decide (startTime < dayToMinute) &&
    decide (endTime < dayToMinute + startTime)

/-- A clock that fails counts as outside. -/
def isWithinTimeInterval (clock : Clock) (startTime endTime : ℕ) : Bool :=
  if clock.failed then false
  else if endTime ≤ dayToMinute then
    decide (startTime ≤ clock.minuteOfDay) && decide (clock.minuteOfDay < endTime)
  else !(decide (endTime - dayToMinute ≤ clock.minuteOfDay) &&
    decide (clock.minuteOfDay < startTime))

/-- The two trigger times, each the first one at or after now that the branch allows. -/
def setTimerTriggerTime (clock : Clock) (startTime endTime : ℕ) : ℕ × ℕ :=
  let curTimestamp := toUInt64 (clock.timestamp * 1000)
  let zeroTimestamp := toUInt64 (clock.midnight * 1000)
  let startTimestamp := toUInt64 (zeroTimestamp + startTime * minuteToMilli)
  let endTimestamp := toUInt64 (zeroTimestamp + endTime * minuteToMilli)
  let startNextDay := toUInt64 (startTimestamp + dayToMilli)
  let endNextDay := toUInt64 (endTimestamp + dayToMilli)
  let endPreviousDay := toUInt64 (endTimestamp - dayToMilli)
  if curTimestamp ≤ startTimestamp then
    if curTimestamp < endPreviousDay then (startTimestamp, endPreviousDay)
    else (startTimestamp, endTimestamp)
  else if endTimestamp ≤ curTimestamp then (startNextDay, endNextDay)
  else (startNextDay, endTimestamp)

variable {γ : Type} (env : Env) (m : AlarmTimerManager γ)

def clearTimer (id : ℕ) : AlarmTimerManager γ :=
  if id = 0 then m
  else if env.destroyTimer id then { m with timeService := m.timeService.remove id }
  else m

/-- Create and start; a timer that does not start is destroyed again. -/
def initTimer (name : TimerName) (time : ℕ) (callback : γ) : AlarmTimerManager γ × ℕ :=
  let id := env.createTimer name
  if id = 0 then (m, 0)
  else
    let created := { m with timeService := m.timeService.put id ⟨name, time, callback⟩ }
    if env.startTimer name then (created, id) else (created.clearTimer env id, 0)

def updateTimer (id : ℕ) (name : TimerName) (time : ℕ) (callback : γ) :
    AlarmTimerManager γ × ℕ :=
  (m.clearTimer env id).initTimer env name time callback

/-- Identifiers of a key, `0` where there is none. -/
def timerIds (userId : ℕ) : ℕ × ℕ := (m.timerIdMap.lookup userId).getD (0, 0)

/-- An existing timer is updated, a missing one is created. -/
def replaceTimer (old : ℕ) (name : TimerName) (time : ℕ) (callback : γ) :
    AlarmTimerManager γ × ℕ :=
  if 0 < old then m.updateTimer env old name time callback else m.initTimer env name time callback

def slot (name : TimerName) (ids : ℕ × ℕ) : ℕ := if name = .start then ids.1 else ids.2

def setTimer (name : TimerName) (userId : ℕ) (time : ℕ) (callback : γ) : AlarmTimerManager γ :=
  let ids := m.timerIds userId
  let r := m.replaceTimer env (slot name ids) name time callback
  { r.1 with timerIdMap :=
      r.1.timerIdMap.insert userId (if name = .start then (r.2, ids.2) else (ids.1, r.2)) }

def recordInitialSetupTime (startTime endTime userId : ℕ) : AlarmTimerManager γ :=
  { m with initialSetupTimeMap := m.initialSetupTimeMap.put userId (startTime, endTime) }

def setScheduleTime (startTime endTime userId : ℕ) (startCallback endCallback : γ) :
    AlarmTimerManager γ × ErrCode :=
  if !isValidScheduleTime startTime endTime then (m, .invalidValue)
  else
    let triggerTimeInterval := setTimerTriggerTime env.clock startTime endTime
    let m' := ((m.recordInitialSetupTime startTime endTime userId).setTimer env .start userId
      triggerTimeInterval.1 startCallback).setTimer env .finish userId
      triggerTimeInterval.2 endCallback
    if (m'.timerIds userId).1 = 0 ∨ (m'.timerIds userId).2 = 0 then (m', .invalidOperation)
    else (m', .ok)

/-- Destroy a recalculation timer and forget its identifier. -/
def clearRecalculationTimer (userId : ℕ) : AlarmTimerManager γ :=
  match m.recalculationTimerIdMap userId with
  | none => m
  | some id =>
    let cleared := m.clearTimer env id
    { cleared with recalculationTimerIdMap := cleared.recalculationTimerIdMap.remove userId }

def clearTimerByUserId (userId : ℕ) : AlarmTimerManager γ :=
  let cleared := match m.timerIdMap.lookup userId with
    | none => m
    | some ids =>
      let both := (m.clearTimer env ids.1).clearTimer env ids.2
      { both with timerIdMap := both.timerIdMap.erase userId }
  let recalculated := cleared.clearRecalculationTimer env userId
  { recalculated with initialSetupTimeMap := recalculated.initialSetupTimeMap.remove userId }

/-- Stop and start again; only a live timer has a trigger time to change. -/
def restartTimerByTimerId (timerId time : ℕ) : AlarmTimerManager γ :=
  match m.timeService timerId with
  | none => m
  | some timer =>
    { m with timeService := m.timeService.put timerId { timer with triggerTime := time } }

def restartTimerByUserId (userId : ℕ) : AlarmTimerManager γ × Bool :=
  if userId = 0 then (m, false)
  else
    match m.timerIdMap.lookup userId, m.initialSetupTimeMap userId with
    | some ids, some setup =>
      let triggerTimeInterval := setTimerTriggerTime env.clock setup.1 setup.2
      ((m.restartTimerByTimerId ids.1 triggerTimeInterval.1).restartTimerByTimerId ids.2
        triggerTimeInterval.2, true)
    | _, _ => (m, false)

/-- Keys in ascending order; after the first failure no further key is restarted. -/
def restartAllTimer : AlarmTimerManager γ × Bool :=
  (m.timerIdMap.keys.mergeSort (· ≤ ·)).foldl
    (fun r userId =>
      if userId = 0 then r
      else if r.2 then r.1.restartTimerByUserId env userId else r)
    (m, true)

def setRecalculationTimer (userId : ℕ) (callback : γ) : AlarmTimerManager γ :=
  if 0 < (m.recalculationTimerIdMap userId).getD 0 then m
  else
    let triggerTime := toUInt64 (toUInt64 (env.clock.timestamp * 1000) + dayToMilli)
    let r := m.initTimer env .recalculation triggerTime callback
    if r.2 = 0 then r.1
    else { r.1 with recalculationTimerIdMap := r.1.recalculationTimerIdMap.put userId r.2 }

theorem isValidScheduleTime_iff {startTime endTime : ℕ} :
    isValidScheduleTime startTime endTime = true ↔
      startTime < endTime ∧ startTime < 1440 ∧ endTime < 1440 + startTime := by
  simp only [isValidScheduleTime, Bool.and_eq_true, decide_eq_true_eq, and_assoc]
  exact Iff.rfl

/-- On 32-bit bounds the unsigned test is the one on the signed values. -/
theorem isValidScheduleTime_int {startTime endTime : ℤ} (hs : IsInt32 startTime)
    (he : IsInt32 endTime) :
    isValidScheduleTime (toUInt64 startTime) (toUInt64 endTime) = true ↔
      0 ≤ startTime ∧ startTime < endTime ∧ startTime < 1440 ∧ endTime < 1440 + startTime := by
  rw [isValidScheduleTime_iff]
  by_cases hstart : 0 ≤ startTime
  · rw [toUInt64_of_nonneg hstart hs]
    by_cases hend : 0 ≤ endTime
    · rw [toUInt64_of_nonneg hend he]
      omega
    · have := toUInt64_of_neg (Int.not_le.mp hend) he
      omega
  · have := toUInt64_of_neg (Int.not_le.mp hstart) hs
    omega

/-- The schedule check of the timers, applied to 32-bit bounds. -/
def AcceptedTimes (times : ℤ × ℤ) : Prop :=
  IsInt32 times.1 ∧ IsInt32 times.2 ∧
    isValidScheduleTime (toUInt64 times.1) (toUInt64 times.2) = true

instance (times : ℤ × ℤ) : Decidable (AcceptedTimes times) :=
  inferInstanceAs (Decidable (_ ∧ _ ∧ _))

theorem AcceptedTimes.bounds {times : ℤ × ℤ} (h : AcceptedTimes times) :
    0 ≤ times.1 ∧ times.1 < times.2 ∧ times.1 < 1440 ∧ times.2 < 1440 + times.1 :=
  (isValidScheduleTime_int h.1 h.2.1).mp h.2.2

/-- Whether the time service hands out a running timer under this name. -/
def canCreate (name : TimerName) : Bool :=
  decide (env.createTimer name ≠ 0) && env.startTimer name

variable {env m}

section Records

variable {name : TimerName} {time : ℕ} {callback : γ}

theorem clearTimer_zero : m.clearTimer env 0 = m := if_pos rfl

theorem replaceTimer_eq_initTimer (old : ℕ) : m.replaceTimer env old name time callback =
    (m.clearTimer env old).initTimer env name time callback := by
  unfold replaceTimer updateTimer
  split_ifs with h
  · rfl
  · obtain rfl : old = 0 := by omega
    rw [clearTimer_zero]

/-- Clearing and creating leave the records to their caller. -/
theorem maps_clearTimer (env : Env) (m : AlarmTimerManager γ) (id : ℕ) :
    (m.clearTimer env id).timerIdMap = m.timerIdMap ∧
    (m.clearTimer env id).initialSetupTimeMap = m.initialSetupTimeMap ∧
    (m.clearTimer env id).recalculationTimerIdMap = m.recalculationTimerIdMap := by
  unfold clearTimer
  split_ifs <;> exact ⟨rfl, rfl, rfl⟩

theorem maps_initTimer (env : Env) (m : AlarmTimerManager γ) (name : TimerName) (time : ℕ)
    (callback : γ) :
    (m.initTimer env name time callback).1.timerIdMap = m.timerIdMap ∧
    (m.initTimer env name time callback).1.initialSetupTimeMap = m.initialSetupTimeMap ∧
    (m.initTimer env name time callback).1.recalculationTimerIdMap =
      m.recalculationTimerIdMap := by
  unfold initTimer
  dsimp only
  split_ifs
  · exact ⟨rfl, rfl, rfl⟩
  · exact ⟨rfl, rfl, rfl⟩
  · exact maps_clearTimer ..

theorem maps_replaceTimer (env : Env) (m : AlarmTimerManager γ) (old : ℕ) (name : TimerName)
    (time : ℕ) (callback : γ) :
    (m.replaceTimer env old name time callback).1.timerIdMap = m.timerIdMap ∧
      (m.replaceTimer env old name time callback).1.initialSetupTimeMap =
        m.initialSetupTimeMap ∧
      (m.replaceTimer env old name time callback).1.recalculationTimerIdMap =
        m.recalculationTimerIdMap := by
  rw [replaceTimer_eq_initTimer]
  obtain ⟨htimers, hsetup, hrecalculation⟩ := maps_clearTimer env m old
  obtain ⟨htimers', hsetup', hrecalculation'⟩ :=
    maps_initTimer env (m.clearTimer env old) name time callback
  exact ⟨htimers'.trans htimers, hsetup'.trans hsetup, hrecalculation'.trans hrecalculation⟩

theorem maps_clearRecalculationTimer (env : Env) (m : AlarmTimerManager γ) (userId : ℕ) :
    (m.clearRecalculationTimer env userId).timerIdMap = m.timerIdMap ∧
      (m.clearRecalculationTimer env userId).initialSetupTimeMap = m.initialSetupTimeMap := by
  unfold clearRecalculationTimer
  cases m.recalculationTimerIdMap userId with
  | none => exact ⟨rfl, rfl⟩
  | some id =>
    obtain ⟨htimers, hsetup, -⟩ := maps_clearTimer env m id
    exact ⟨htimers, hsetup⟩

/-- Where nothing is recorded under a key, there is nothing to clear. -/
theorem clearRecalculationTimer_of_none {userId : ℕ} (h : m.recalculationTimerIdMap userId = none) :
    m.clearRecalculationTimer env userId = m := by
  unfold clearRecalculationTimer
  rw [h]

theorem clearTimerByUserId_of_none {userId : ℕ} (htimers : m.timerIdMap.lookup userId = none)
    (hrecalculation : m.recalculationTimerIdMap userId = none)
    (hsetup : m.initialSetupTimeMap userId = none) : m.clearTimerByUserId env userId = m := by
  unfold clearTimerByUserId
  rw [htimers]
  dsimp only
  rw [clearRecalculationTimer_of_none hrecalculation, Table.remove_of_none hsetup]

end Records

section Restart

variable {P : AlarmTimerManager γ → Prop}
  (hstep : ∀ m timerId time, P m → P (m.restartTimerByTimerId timerId time))

include hstep

theorem restartTimerByUserId_preserves (userId : ℕ) (h : P m) :
    P (m.restartTimerByUserId env userId).1 := by
  unfold restartTimerByUserId
  split_ifs
  · exact h
  · split
    · exact hstep _ _ _ (hstep _ _ _ h)
    · exact h

/-- What a new trigger time for one timer preserves, restarting all of them preserves. -/
theorem restartAllTimer_preserves (h : P m) : P (m.restartAllTimer env).1 := by
  unfold restartAllTimer
  refine List.foldlRecOn (motive := fun r : AlarmTimerManager γ × Bool => P r.1) _ _ h
    fun r hr userId _ => ?_
  split_ifs
  · exact hr
  · exact restartTimerByUserId_preserves hstep userId hr
  · exact hr

end Restart

theorem initTimer_id {name : TimerName} {time : ℕ} {callback : γ} :
    (m.initTimer env name time callback).2 = 0 ↔ canCreate env name = false := by
  unfold initTimer canCreate
  by_cases hid : env.createTimer name = 0
  · simp [hid]
  · by_cases hstart : env.startTimer name = true
    · simp [hid, hstart]
    · simp [hid, hstart]

theorem replaceTimer_id {old : ℕ} {name : TimerName} {time : ℕ} {callback : γ} :
    (m.replaceTimer env old name time callback).2 = 0 ↔ canCreate env name = false := by
  unfold replaceTimer
  split_ifs
  · exact initTimer_id
  · exact initTimer_id

theorem setTimer_timerIds (m : AlarmTimerManager γ) (name : TimerName) (userId time : ℕ)
    (callback : γ) :
    ∃ id, (id = 0 ↔ canCreate env name = false) ∧
      (m.setTimer env name userId time callback).timerIds userId =
        if name = .start then (id, (m.timerIds userId).2) else ((m.timerIds userId).1, id) := by
  refine ⟨(m.replaceTimer env (slot name (m.timerIds userId)) name time callback).2,
    replaceTimer_id, ?_⟩
  simp only [setTimer, timerIds, AList.lookup_insert, Option.getD_some]

/-- Bounds are rejected for being invalid and for nothing else. -/
theorem setScheduleTime_invalidValue_iff {startTime endTime userId : ℕ} {c c' : γ} :
    (m.setScheduleTime env startTime endTime userId c c').2 = .invalidValue ↔
      isValidScheduleTime startTime endTime = false := by
  unfold setScheduleTime
  cases hvalid : isValidScheduleTime startTime endTime with
  | false => simp
  | true =>
    simp only [Bool.not_true, Bool.false_eq_true, if_false]
    split_ifs <;> simp

/-- Arming succeeds exactly for a valid schedule whose two timers can be created. -/
theorem setScheduleTime_ok_iff {startTime endTime userId : ℕ} {c c' : γ} :
    (m.setScheduleTime env startTime endTime userId c c').2 = .ok ↔
      isValidScheduleTime startTime endTime = true ∧ canCreate env .start = true ∧
        canCreate env .finish = true := by
  unfold setScheduleTime
  cases hv : isValidScheduleTime startTime endTime with
  | false => simp
  | true =>
    simp only [Bool.not_true, Bool.false_eq_true, if_false, true_and]
    set t := setTimerTriggerTime env.clock startTime endTime
    set m₁ := (m.recordInitialSetupTime startTime endTime userId).setTimer env .start userId t.1 c
    obtain ⟨i, hi, hids⟩ : ∃ id, (id = 0 ↔ canCreate env .start = false) ∧ _ :=
      setTimer_timerIds (m.recordInitialSetupTime startTime endTime userId) .start userId t.1 c
    obtain ⟨j, hj, hids'⟩ : ∃ id, (id = 0 ↔ canCreate env .finish = false) ∧ _ :=
      setTimer_timerIds m₁ .finish userId t.2 c'
    have hi' : (m₁.timerIds userId).1 = i := by rw [hids]; rfl
    simp only [hids', reduceCtorEq, if_false, hi']
    rw [← Bool.not_eq_false, ← Bool.not_eq_false (canCreate env .finish), ← hi, ← hj]
    by_cases h : i = 0 ∨ j = 0
    · simp only [h, if_true, reduceCtorEq, false_iff]
      tauto
    · simp only [h, if_false, true_iff]
      tauto

end AlarmTimerManager
end UiAppearance
