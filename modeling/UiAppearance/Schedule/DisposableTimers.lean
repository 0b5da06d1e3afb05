import UiAppearance.Schedule.AlarmTimerManager

/-!
# Timers that are given back

A schedule whose two timers cannot both be had is cleared again. For a key that
had none this leaves no trace, if what the time service did hand out is new and
can be destroyed.
-/

namespace UiAppearance
namespace AlarmTimerManager

variable {γ : Type} {env : Env} {m : AlarmTimerManager γ}

/-- The timers of the time service without one of them, unless it cannot be destroyed. -/
def destroyed (env : Env) (id : ℕ) (t : Table ℕ (LiveTimer γ)) : Table ℕ (LiveTimer γ) :=
  if id = 0 then t else if env.destroyTimer id then t.remove id else t

theorem clearTimer_eq (id : ℕ) :
    m.clearTimer env id = { m with timeService := destroyed env id m.timeService } := by
  unfold clearTimer destroyed
  split_ifs <;> rfl

/-- If the time service hands out a timer under this name, its identifier is unused and it can be
destroyed. -/
def Disposable (env : Env) (m : AlarmTimerManager γ) (name : TimerName) : Prop :=
  env.createTimer name ≠ 0 →
    m.timeService (env.createTimer name) = none ∧ env.destroyTimer (env.createTimer name) = true

instance (name : TimerName) : Decidable (Disposable env m name) :=
  inferInstanceAs (Decidable (_ → _ ∧ _))

section Undone

variable {name : TimerName} {time userId startTime endTime : ℕ} {callback callback' : γ}

theorem createTimer_ne_zero (h : canCreate env name = true) : env.createTimer name ≠ 0 :=
  of_decide_eq_true ((Bool.and_eq_true ..).mp h).1

theorem initTimer_of_canCreate (h : canCreate env name = true) :
    m.initTimer env name time callback =
      ({ m with timeService := m.timeService.put (env.createTimer name) ⟨name, time, callback⟩ },
        env.createTimer name) := by
  unfold initTimer
  dsimp only
  rw [if_neg (createTimer_ne_zero h), if_pos ((Bool.and_eq_true ..).mp h).2]

namespace Disposable

theorem destroyTimer (h : Disposable env m name) (hid : env.createTimer name ≠ 0) :
    env.destroyTimer (env.createTimer name) = true := (h hid).2

theorem destroyed_timeService (h : Disposable env m name) :
    destroyed env (env.createTimer name) m.timeService = m.timeService := by
  unfold destroyed
  split_ifs with hid hdestroy
  · rfl
  · exact Table.remove_of_none (h hid).1
  · rfl

/-- A timer that was created and is destroyed leaves no trace. -/
theorem destroyed_put (h : Disposable env m name) {timer : LiveTimer γ}
    (hid : env.createTimer name ≠ 0) :
    destroyed env (env.createTimer name)
      (m.timeService.put (env.createTimer name) timer) = m.timeService := by
  unfold destroyed
  rw [if_neg hid, if_pos (h.destroyTimer hid), Table.remove_put_self,
    Table.remove_of_none (h hid).1]

/-- Nor if another one was created and destroyed in between. -/
theorem destroyed_destroyed_put {name' : TimerName} (h : Disposable env m name)
    (h' : Disposable env m name') {timer : LiveTimer γ} (hid : env.createTimer name ≠ 0) :
    destroyed env (env.createTimer name)
      (destroyed env (env.createTimer name')
        (m.timeService.put (env.createTimer name) timer)) = m.timeService := by
  by_cases hid' : env.createTimer name' = 0
  · rw [show destroyed env (env.createTimer name') _ = _ from if_pos hid']
    exact h.destroyed_put hid
  · unfold destroyed
    rw [if_neg hid, if_neg hid', if_pos (h.destroyTimer hid), if_pos (h'.destroyTimer hid'),
      Table.remove_remove_put (h hid).1 (h' hid').1]

end Disposable

/-- A timer that does not start is gone again. -/
theorem initTimer_of_not_canCreate (h : canCreate env name = false)
    (hdestroy : env.createTimer name ≠ 0 → env.destroyTimer (env.createTimer name) = true) :
    m.initTimer env name time callback =
      ({ m with timeService := destroyed env (env.createTimer name) m.timeService }, 0) := by
  unfold initTimer
  dsimp only
  by_cases hid : env.createTimer name = 0
  · rw [if_pos hid, show destroyed env _ m.timeService = _ from if_pos hid]
  · have hstart : env.startTimer name = false := by simpa [canCreate, hid] using h
    unfold destroyed
    rw [if_neg hid, if_neg hid, hstart, if_neg Bool.false_ne_true, if_pos (hdestroy hid)]
    unfold clearTimer
    rw [if_neg hid, if_pos (hdestroy hid)]
    dsimp only
    rw [Table.remove_put_self]

theorem initTimer_of_disposable (h : canCreate env name = false) (hdispose : Disposable env m name) :
    m.initTimer env name time callback = (m, 0) := by
  rw [initTimer_of_not_canCreate h hdispose.destroyTimer, hdispose.destroyed_timeService]

theorem setRecalculationTimer_of_disposable (h : canCreate env .recalculation = false)
    (hdispose : Disposable env m .recalculation) :
    m.setRecalculationTimer env userId callback = m := by
  unfold setRecalculationTimer
  dsimp only
  rw [initTimer_of_disposable h hdispose, if_pos rfl, ite_self]

/-- The identifiers of a key with that of one name replaced. -/
def withSlot (name : TimerName) (id : ℕ) (ids : ℕ × ℕ) : ℕ × ℕ :=
  if name = .start then (id, ids.2) else (ids.1, id)

section FirstTimer

variable {ids : ℕ × ℕ} (hids : m.timerIds userId = ids) (hslot : slot name ids = 0)

include hids hslot

theorem setTimer_of_zero : m.setTimer env name userId time callback =
    { (m.initTimer env name time callback).1 with
      timerIdMap := m.timerIdMap.insert userId
        (withSlot name (m.initTimer env name time callback).2 ids) } := by
  unfold setTimer
  dsimp only
  rw [hids, hslot, replaceTimer_eq_initTimer, clearTimer_zero, (maps_initTimer ..).1]
  rfl

theorem setTimer_of_canCreate (hcan : canCreate env name = true) :
    m.setTimer env name userId time callback =
      { m with
        timerIdMap := m.timerIdMap.insert userId (withSlot name (env.createTimer name) ids)
        timeService := m.timeService.put (env.createTimer name) ⟨name, time, callback⟩ } := by
  rw [setTimer_of_zero hids hslot, initTimer_of_canCreate hcan]

theorem setTimer_of_not_canCreate (hcan : canCreate env name = false)
    (hdestroy : env.createTimer name ≠ 0 → env.destroyTimer (env.createTimer name) = true) :
    m.setTimer env name userId time callback =
      { m with
        timerIdMap := m.timerIdMap.insert userId (withSlot name 0 ids)
        timeService := destroyed env (env.createTimer name) m.timeService } := by
  rw [setTimer_of_zero hids hslot, initTimer_of_not_canCreate hcan hdestroy]

end FirstTimer

theorem timerIds_of_lookup {ids : ℕ × ℕ} (h : m.timerIdMap.lookup userId = some ids) :
    m.timerIds userId = ids := by
  unfold timerIds
  rw [h]
  rfl

/-- For a key without timers, of which only one or none can be had: destroying what was created
leaves the time service as it was. -/
theorem setTimer_setTimer_destroyed (hids : m.timerIds userId = (0, 0))
    (hstart : Disposable env m .start) (hfinish : Disposable env m .finish)
    (h : canCreate env .start = false ∨ canCreate env .finish = false) (time' : ℕ) :
    ∃ (ids : ℕ × ℕ) (t : Table ℕ (LiveTimer γ)),
      (m.setTimer env .start userId time callback).setTimer env .finish userId time' callback' =
        { m with timerIdMap := m.timerIdMap.insert userId ids, timeService := t } ∧
      destroyed env ids.2 (destroyed env ids.1 t) = m.timeService := by
  have hnew (ids : ℕ × ℕ) (t : Table ℕ (LiveTimer γ)) :
      ({ m with timerIdMap := m.timerIdMap.insert userId ids, timeService := t } :
        AlarmTimerManager γ).timerIds userId = ids := timerIds_of_lookup (AList.lookup_insert _)
  cases hfirst : canCreate env .start with
  | false =>
    rw [setTimer_of_not_canCreate hids rfl hfirst hstart.destroyTimer,
      hstart.destroyed_timeService]
    cases hsecond : canCreate env .finish with
    | false =>
      rw [setTimer_of_not_canCreate (hnew _ _) rfl hsecond hfinish.destroyTimer]
      dsimp only
      rw [hfinish.destroyed_timeService, AList.insert_insert]
      exact ⟨_, _, rfl, rfl⟩
    | true =>
      rw [setTimer_of_canCreate (hnew _ _) rfl hsecond, AList.insert_insert]
      exact ⟨_, _, rfl, hfinish.destroyed_put (createTimer_ne_zero hsecond)⟩
  | true =>
    have hsecond : canCreate env .finish = false := by simpa [hfirst] using h
    rw [setTimer_of_canCreate hids rfl hfirst,
      setTimer_of_not_canCreate (hnew _ _) rfl hsecond hfinish.destroyTimer,
      AList.insert_insert]
    exact ⟨_, _, rfl, hstart.destroyed_destroyed_put hfinish (createTimer_ne_zero hfirst)⟩

variable {t : Table ℕ (LiveTimer γ)} {ids setup : ℕ × ℕ}
  (htimers : m.timerIdMap.lookup userId = none)
  (hrecalculation : m.recalculationTimerIdMap userId = none)
  (hsetup : m.initialSetupTimeMap userId = none)

include htimers hrecalculation hsetup

/-- Clearing a key that was new takes its records back and destroys its timers. -/
theorem clearTimerByUserId_of_new :
    ({ m with
        timerIdMap := m.timerIdMap.insert userId ids
        initialSetupTimeMap := m.initialSetupTimeMap.put userId setup
        timeService := t } : AlarmTimerManager γ).clearTimerByUserId env userId =
      { m with timeService := destroyed env ids.2 (destroyed env ids.1 t) } := by
  have herase : (m.timerIdMap.insert userId ids).erase userId = m.timerIdMap := by
    have habsent : userId ∉ m.timerIdMap.keys := by
      rw [← AList.mem_keys, ← AList.lookup_eq_none]
      exact htimers
    refine AList.ext ?_
    change (m.timerIdMap.entries.kinsert userId ids).kerase userId = _
    rw [List.kinsert_def, List.kerase_of_notMem_keys habsent]
    exact List.kerase_cons_eq rfl
  have hremove : (m.initialSetupTimeMap.put userId setup).remove userId =
      m.initialSetupTimeMap := by rw [Table.remove_put_self, Table.remove_of_none hsetup]
  unfold clearTimerByUserId
  simp only [AList.lookup_insert, clearTimer_eq, herase]
  rw [clearRecalculationTimer_of_none (by exact hrecalculation), hremove]

/-- Timers that cannot both be had are given back, and with them what was recorded for the key. -/
theorem clearTimerByUserId_setScheduleTime
    (h : isValidScheduleTime startTime endTime = true →
      (canCreate env .start = false ∨ canCreate env .finish = false) ∧
        Disposable env m .start ∧ Disposable env m .finish) :
    (m.setScheduleTime env startTime endTime userId callback callback').1.clearTimerByUserId env
      userId = m := by
  unfold setScheduleTime
  cases hvalid : isValidScheduleTime startTime endTime with
  | false => exact clearTimerByUserId_of_none htimers hrecalculation hsetup
  | true =>
    obtain ⟨hmissing, hstart, hfinish⟩ := h hvalid
    have hids : m.timerIds userId = (0, 0) := by
      unfold timerIds
      rw [htimers]
      rfl
    obtain ⟨ids, t, hset, hdestroyed⟩ := setTimer_setTimer_destroyed
      (m := m.recordInitialSetupTime startTime endTime userId) hids hstart hfinish
      hmissing (setTimerTriggerTime env.clock startTime endTime).2
    rw [Bool.not_true, if_neg Bool.false_ne_true]
    dsimp only
    rw [apply_ite Prod.fst, ite_self, hset]
    refine (clearTimerByUserId_of_new htimers hrecalculation hsetup).trans ?_
    rw [hdestroyed]
    rfl

end Undone

end AlarmTimerManager
end UiAppearance
