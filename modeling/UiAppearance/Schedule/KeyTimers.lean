import UiAppearance.Schedule.AlarmTimerManager

/-!
# The timers of one key

Seen from one key, the timer manager has two timers armed for a pair of bounds
or none, and a recalculation timer or none. While the time service does what it
is asked, every operation on the key is the obvious one on that data, and other
keys do not notice.
-/

namespace UiAppearance

/-- What a key has: its bounds with the callbacks of the two timers, and that of the third. -/
structure KeyTimers (γ : Type) where
  schedule : Option ((ℕ × ℕ) × γ × γ) := none
  recalculation : Option γ := none
  deriving DecidableEq

/-- A recalculation timer that is there already is kept. -/
def KeyTimers.recalculated {γ : Type} (t : KeyTimers γ) (callback : γ) : KeyTimers γ :=
  { t with recalculation := some (t.recalculation.getD callback) }

namespace AlarmTimerManager

variable {γ : Type}

/-- The identifier stands for a live timer of this name and with this callback. -/
def Running (m : AlarmTimerManager γ) (id : ℕ) (name : TimerName) (callback : γ) : Prop :=
  id ≠ 0 ∧ ∃ time, m.timeService id = some ⟨name, time, callback⟩

def Armed (m : AlarmTimerManager γ) (userId : ℕ) (bounds : ℕ × ℕ) (startCallback endCallback : γ) :
    Prop :=
  ∃ ids, m.timerIdMap.lookup userId = some ids ∧ m.initialSetupTimeMap userId = some bounds ∧
    m.Running ids.1 .start startCallback ∧ m.Running ids.2 .finish endCallback

def Recalculates (m : AlarmTimerManager γ) (userId : ℕ) (callback : γ) : Prop :=
  ∃ id, m.recalculationTimerIdMap userId = some id ∧ m.Running id .recalculation callback

def HoldsSchedule (m : AlarmTimerManager γ) (userId : ℕ) : Option ((ℕ × ℕ) × γ × γ) → Prop
  | none => m.timerIdMap.lookup userId = none ∧ m.initialSetupTimeMap userId = none
  | some (bounds, startCallback, endCallback) => m.Armed userId bounds startCallback endCallback

def HoldsRecalculation (m : AlarmTimerManager γ) (userId : ℕ) : Option γ → Prop
  | none => m.recalculationTimerIdMap userId = none
  | some callback => m.Recalculates userId callback

/-- The manager has this for the key. -/
structure Holds (m : AlarmTimerManager γ) (userId : ℕ) (t : KeyTimers γ) : Prop where
  schedule : m.HoldsSchedule userId t.schedule
  recalculation : m.HoldsRecalculation userId t.recalculation

/-- What the manager has recorded for a key. -/
def entries (m : AlarmTimerManager γ) (userId : ℕ) :
    Option (ℕ × ℕ) × Option (ℕ × ℕ) × Option ℕ :=
  (m.timerIdMap.lookup userId, m.initialSetupTimeMap userId, m.recalculationTimerIdMap userId)

/-- The time service does what it is asked, and hands out different identifiers. -/
structure Working (env : Env) : Prop where
  created : ∀ name, env.createTimer name ≠ 0
  distinct : ∀ name name', env.createTimer name = env.createTimer name' → name = name'
  started : ∀ name, env.startTimer name = true
  destroyed : ∀ id, env.destroyTimer id = true

/-- The identifier that would be handed out under this name is not in use. -/
def Unused (env : Env) (m : AlarmTimerManager γ) (name : TimerName) : Prop :=
  m.timeService (env.createTimer name) = none

variable {env : Env} {m m' : AlarmTimerManager γ} {userId : ℕ} {t : KeyTimers γ}

section Nothing

theorem holds_nothing_iff : m.Holds userId {} ↔ m.entries userId = (none, none, none) := by
  constructor
  · rintro ⟨⟨hids, hbounds⟩, hrecalculation⟩
    unfold entries
    rw [hids, hbounds, hrecalculation]
  · intro h
    obtain ⟨hids, hrest⟩ := Prod.mk.inj h
    obtain ⟨hbounds, hrecalculation⟩ := Prod.mk.inj hrest
    exact ⟨⟨hids, hbounds⟩, hrecalculation⟩

theorem holds_nothing_of_entries (h : m'.entries userId = m.entries userId)
    (hnothing : m.Holds userId {}) : m'.Holds userId {} := by
  rw [holds_nothing_iff] at *
  rw [h, hnothing]

theorem HoldsSchedule.isSome_lookup {schedule : Option ((ℕ × ℕ) × γ × γ)}
    (h : m.HoldsSchedule userId schedule) :
    (m.timerIdMap.lookup userId).isSome = schedule.isSome := by
  cases schedule with
  | none =>
    rw [h.1]
    rfl
  | some schedule =>
    obtain ⟨ids, hids, -⟩ := h
    rw [hids]
    rfl

theorem HoldsRecalculation.isSome {recalculation : Option γ}
    (h : m.HoldsRecalculation userId recalculation) :
    (m.recalculationTimerIdMap userId).isSome = recalculation.isSome := by
  cases recalculation with
  | none =>
    rw [show m.recalculationTimerIdMap userId = none from h]
    rfl
  | some callback =>
    obtain ⟨id, hid, -⟩ := h
    rw [hid]
    rfl

/-- The initial manager has nothing for any key. -/
theorem holds_initial (userId : ℕ) : ({} : AlarmTimerManager γ).Holds userId {} :=
  ⟨⟨rfl, rfl⟩, rfl⟩

end Nothing

section TimeService

variable {id id' : ℕ} {name name' : TimerName} {callback callback' : γ}

/-- Timers of different names are different ones. -/
theorem Running.ne (h : m.Running id name callback) (h' : m.Running id' name' callback')
    (hname : name ≠ name') : id ≠ id' := by
  rintro rfl
  obtain ⟨-, time, htimer⟩ := h
  obtain ⟨-, time', htimer'⟩ := h'
  have hsame := Option.some.inj (htimer.symm.trans htimer')
  exact hname (LiveTimer.mk.inj hsame).1

theorem Running.of_eq (h : m.Running id name callback)
    (hservice : m'.timeService id = m.timeService id) : m'.Running id name callback := by
  obtain ⟨hid, time, htimer⟩ := h
  exact ⟨hid, time, hservice.trans htimer⟩

theorem Running.ne_of_fresh (h : m.Running id name callback) (hfresh : m.timeService id' = none) :
    id ≠ id' := by
  rintro rfl
  obtain ⟨-, time, htimer⟩ := h
  rw [hfresh] at htimer
  cases htimer

theorem timeService_clearTimer_of_ne (h : id' ≠ id) :
    (m.clearTimer env id).timeService id' = m.timeService id' := by
  unfold clearTimer
  split_ifs
  · rfl
  · exact Function.update_of_ne h ..
  · rfl

theorem timeService_clearTimer_of_none (h : m.timeService id' = none) :
    (m.clearTimer env id).timeService id' = none := by
  by_cases hid : id' = id
  · subst hid
    unfold clearTimer
    split_ifs
    · exact h
    · exact Function.update_self ..
    · exact h
  · rw [timeService_clearTimer_of_ne hid, h]

@[simp] theorem entries_clearTimer (env : Env) (m : AlarmTimerManager γ) (id : ℕ) :
    (m.clearTimer env id).entries = m.entries := by
  unfold clearTimer
  split_ifs <;> rfl

/-- A timer that is not the one handed out is left alone when that one is created. -/
theorem timeService_initTimer_of_ne {time : ℕ} (h : id ≠ env.createTimer name) :
    (m.initTimer env name time callback).1.timeService id = m.timeService id := by
  unfold initTimer
  dsimp only
  split_ifs
  · rfl
  · exact Table.put_of_ne h
  · exact (timeService_clearTimer_of_ne h).trans (Table.put_of_ne h)

theorem initTimer_eq (hw : Working env) (m : AlarmTimerManager γ) (name : TimerName) (time : ℕ)
    (callback : γ) :
    m.initTimer env name time callback =
      ({ m with timeService := m.timeService.put (env.createTimer name) ⟨name, time, callback⟩ },
        env.createTimer name) := by
  unfold initTimer
  dsimp only
  rw [if_neg (hw.created name), if_pos (hw.started name)]

theorem replaceTimer_eq (hw : Working env) (old : ℕ) (name : TimerName) (time : ℕ)
    (callback : γ) :
    m.replaceTimer env old name time callback =
      ({ m.clearTimer env old with timeService :=
          (m.clearTimer env old).timeService.put (env.createTimer name) ⟨name, time, callback⟩ },
        env.createTimer name) := by
  rw [replaceTimer_eq_initTimer]
  exact initTimer_eq hw ..

end TimeService

section Arming

variable {name : TimerName} {time : ℕ} {callback : γ}

/-- What setting one timer of a key does to the data of the manager. -/
theorem setTimer_eq (hw : Working env) (name : TimerName) (userId time : ℕ) (callback : γ) :
    m.setTimer env name userId time callback =
      { m with
        timerIdMap := m.timerIdMap.insert userId (if name = .start
          then (env.createTimer name, (m.timerIds userId).2)
          else ((m.timerIds userId).1, env.createTimer name))
        timeService := (m.clearTimer env (slot name (m.timerIds userId))).timeService.put
          (env.createTimer name) ⟨name, time, callback⟩ } := by
  unfold setTimer
  dsimp only
  rw [replaceTimer_eq hw]
  unfold clearTimer
  split_ifs <;> rfl

theorem running_setTimer (hw : Working env) :
    (m.setTimer env name userId time callback).Running (env.createTimer name) name callback := by
  rw [setTimer_eq hw]
  exact ⟨hw.created name, time, Table.put_self⟩

/-- A timer that is neither the replaced one nor handed out anew keeps running. -/
theorem Running.setTimer {id : ℕ} {name' : TimerName} {callback' : γ} (hw : Working env)
    (h : m.Running id name' callback') (hold : id ≠ slot name (m.timerIds userId))
    (hunused : Unused env m name) :
    (m.setTimer env name userId time callback).Running id name' callback' := by
  refine h.of_eq ?_
  rw [setTimer_eq hw]
  exact (Table.put_of_ne (h.ne_of_fresh hunused)).trans (timeService_clearTimer_of_ne hold)

theorem Unused.setTimer {name' : TimerName} (hw : Working env) (h : Unused env m name')
    (hname : name' ≠ name) : Unused env (m.setTimer env name userId time callback) name' := by
  unfold Unused
  rw [setTimer_eq hw]
  refine (Table.put_of_ne fun hsame => hname (hw.distinct _ _ hsame)).trans ?_
  exact timeService_clearTimer_of_none h

theorem lookup_setTimer (hw : Working env) :
    (m.setTimer env name userId time callback).timerIdMap.lookup userId =
      some (if name = .start then (env.createTimer name, (m.timerIds userId).2)
        else ((m.timerIds userId).1, env.createTimer name)) := by
  rw [setTimer_eq hw]
  exact AList.lookup_insert ..

theorem timerIds_setTimer (hw : Working env) :
    (m.setTimer env name userId time callback).timerIds userId =
      if name = .start then (env.createTimer name, (m.timerIds userId).2)
      else ((m.timerIds userId).1, env.createTimer name) := by
  unfold timerIds
  rw [lookup_setTimer hw]
  rfl

/-- The identifiers a key has are `0`, or those of its two running timers. -/
theorem HoldsSchedule.slot_ne {schedule : Option ((ℕ × ℕ) × γ × γ)} {id : ℕ} {name' : TimerName}
    {callback' : γ} (h : m.HoldsSchedule userId schedule) (hid : m.Running id name' callback')
    (hname : name' ≠ if name = .start then .start else .finish) :
    id ≠ slot name (m.timerIds userId) := by
  unfold slot timerIds
  cases schedule with
  | none =>
    rw [h.1]
    split_ifs <;> exact hid.1
  | some schedule =>
    obtain ⟨ids, hids, -, hstart, hfinish⟩ := h
    rw [hids]
    split_ifs at hname ⊢
    · exact hid.ne hstart hname
    · exact hid.ne hfinish hname

theorem HoldsSchedule.slot_ne_of_unused {schedule : Option ((ℕ × ℕ) × γ × γ)}
    (h : m.HoldsSchedule userId schedule) {name' : TimerName} (hw : Working env)
    (hunused : Unused env m name') : env.createTimer name' ≠ slot name (m.timerIds userId) := by
  unfold slot timerIds
  cases schedule with
  | none =>
    rw [h.1]
    split_ifs <;> exact hw.created name'
  | some schedule =>
    obtain ⟨ids, hids, -, hstart, hfinish⟩ := h
    rw [hids]
    split_ifs
    · exact (hstart.ne_of_fresh hunused).symm
    · exact (hfinish.ne_of_fresh hunused).symm

section Bounds

variable (env m userId) (startTime endTime : ℕ) (startCallback endCallback : γ)

/-- The bounds of a key are recorded and its start timer is set. -/
def withStartTimer : AlarmTimerManager γ :=
  (m.recordInitialSetupTime startTime endTime userId).setTimer env .start userId
    (setTimerTriggerTime env.clock startTime endTime).1 startCallback

def withTimers : AlarmTimerManager γ :=
  (m.withStartTimer env userId startTime endTime startCallback).setTimer env .finish userId
    (setTimerTriggerTime env.clock startTime endTime).2 endCallback

end Bounds

variable {startTime endTime : ℕ} {startCallback endCallback : γ}

theorem timerIds_withStartTimer (hw : Working env) :
    (m.withStartTimer env userId startTime endTime startCallback).timerIds userId =
      (env.createTimer .start, (m.timerIds userId).2) := timerIds_setTimer hw

theorem unused_withStartTimer (hw : Working env) {name : TimerName} (h : Unused env m name)
    (hname : name ≠ .start) :
    Unused env (m.withStartTimer env userId startTime endTime startCallback) name :=
  Unused.setTimer (m := m.recordInitialSetupTime startTime endTime userId) hw h hname

theorem setScheduleTime_eq (hw : Working env)
    (hvalid : isValidScheduleTime startTime endTime = true) :
    m.setScheduleTime env startTime endTime userId startCallback endCallback =
      (m.withTimers env userId startTime endTime startCallback endCallback, .ok) := by
  have hids : (m.withTimers env userId startTime endTime startCallback
      endCallback).timerIds userId =
      (env.createTimer .start, env.createTimer .finish) := by
    unfold withTimers
    rw [timerIds_setTimer hw, timerIds_withStartTimer hw]
    rfl
  have hboth : ¬(((m.withTimers env userId startTime endTime startCallback endCallback).timerIds
      userId).1 = 0 ∨ ((m.withTimers env userId startTime endTime startCallback
        endCallback).timerIds userId).2 = 0) := by
    rw [hids]
    exact not_or.mpr ⟨hw.created .start, hw.created .finish⟩
  unfold setScheduleTime
  rw [hvalid, if_neg (by decide)]
  exact if_neg hboth

/-- Accepted bounds arm both timers of the key, and leave the third one alone. -/
theorem holds_withTimers (hw : Working env) (hunused : ∀ name, Unused env m name)
    (h : m.Holds userId t) :
    (m.withTimers env userId startTime endTime startCallback endCallback).Holds userId
      { t with schedule := some ((startTime, endTime), startCallback, endCallback) } := by
  have hslot : slot .finish ((m.withStartTimer env userId startTime endTime
      startCallback).timerIds userId) = slot .finish (m.timerIds userId) := by
    rw [timerIds_withStartTimer hw]
    rfl
  have hunused₁ : Unused env
      (m.withStartTimer env userId startTime endTime startCallback) .finish :=
    unused_withStartTimer hw (hunused .finish) (by decide)
  refine ⟨⟨_, lookup_setTimer hw, ?_, ?_, running_setTimer hw⟩, ?_⟩
  · unfold withTimers withStartTimer
    rw [setTimer_eq hw, setTimer_eq hw]
    exact Table.put_self
  · rw [timerIds_withStartTimer hw]
    refine Running.setTimer hw (running_setTimer hw) ?_ hunused₁
    rw [hslot]
    exact h.schedule.slot_ne_of_unused hw (hunused .start)
  · have hrecalculation := h.recalculation
    have hmap : (m.withTimers env userId startTime endTime startCallback
        endCallback).recalculationTimerIdMap = m.recalculationTimerIdMap := by
      unfold withTimers withStartTimer
      rw [setTimer_eq hw, setTimer_eq hw]
      rfl
    cases hcallback : t.recalculation with
    | none =>
      rw [hcallback] at hrecalculation
      exact (congrFun hmap userId).trans hrecalculation
    | some callback =>
      rw [hcallback] at hrecalculation
      obtain ⟨id, hid, hrunning⟩ := hrecalculation
      refine ⟨id, (congrFun hmap userId).trans hid, ?_⟩
      have hfirst : (m.withStartTimer env userId startTime endTime startCallback).Running id
          .recalculation callback := by
        refine Running.setTimer (m := m.recordInitialSetupTime startTime endTime userId) hw hrunning
          ?_ (hunused .start)
        exact h.schedule.slot_ne hrunning (by decide)
      refine Running.setTimer hw hfirst ?_ hunused₁
      rw [hslot]
      exact h.schedule.slot_ne hrunning (by decide)

theorem unused_withTimers (hw : Working env) (h : Unused env m .recalculation) :
    Unused env (m.withTimers env userId startTime endTime startCallback endCallback)
      .recalculation :=
  Unused.setTimer hw (unused_withStartTimer hw h (by decide)) (by decide)

section Others

variable {userId' : ℕ} (h : userId' ≠ userId)

include h

theorem entries_setTimer_of_ne :
    (m.setTimer env name userId time callback).entries userId' = m.entries userId' := by
  obtain ⟨htimers, hsetup, hrecalculation⟩ :=
    maps_replaceTimer env m (slot name (m.timerIds userId)) name time callback
  unfold setTimer entries
  dsimp only
  rw [AList.lookup_insert_ne h, htimers, hsetup, hrecalculation]

theorem entries_withTimers_of_ne :
    (m.withTimers env userId startTime endTime startCallback endCallback).entries userId' =
      m.entries userId' := by
  unfold withTimers withStartTimer
  rw [entries_setTimer_of_ne h, entries_setTimer_of_ne h]
  exact congrArg (fun bounds => (_, bounds, _)) (Table.put_of_ne h)

end Others

end Arming

section Keeping

/-- The schedule of a key is kept while its entries are and its timers keep running. -/
theorem HoldsSchedule.of_running {schedule : Option ((ℕ × ℕ) × γ × γ)}
    (h : m.HoldsSchedule userId schedule)
    (hids : m'.timerIdMap.lookup userId = m.timerIdMap.lookup userId)
    (hbounds : m'.initialSetupTimeMap userId = m.initialSetupTimeMap userId)
    (hrunning : ∀ id name callback, name ≠ .recalculation → m.Running id name callback →
      m'.Running id name callback) : m'.HoldsSchedule userId schedule := by
  cases schedule with
  | none => exact ⟨hids.trans h.1, hbounds.trans h.2⟩
  | some schedule =>
    obtain ⟨ids, hlookup, hsetup, hstart, hfinish⟩ := h
    exact ⟨ids, hids.trans hlookup, hbounds.trans hsetup, hrunning _ _ _ (by decide) hstart,
      hrunning _ _ _ (by decide) hfinish⟩

theorem Holds.of_running (h : m.Holds userId t) (hentries : m'.entries userId = m.entries userId)
    (hrunning : ∀ id name callback, m.Running id name callback → m'.Running id name callback) :
    m'.Holds userId t := by
  obtain ⟨hids, hrest⟩ := Prod.mk.inj hentries
  obtain ⟨hbounds, hid⟩ := Prod.mk.inj hrest
  refine ⟨h.schedule.of_running hids hbounds ?_, ?_⟩
  · exact fun id name callback _ => hrunning id name callback
  have hrecalculation := h.recalculation
  cases hcallback : t.recalculation with
  | none =>
    rw [hcallback] at hrecalculation
    exact hid.trans hrecalculation
  | some callback =>
    rw [hcallback] at hrecalculation
    obtain ⟨id, hmap, hid'⟩ := hrecalculation
    exact ⟨id, hid.trans hmap, hrunning _ _ _ hid'⟩

end Keeping

section Clearing

theorem holds_clearRecalculationTimer (h : m.Holds userId t) :
    (m.clearRecalculationTimer env userId).Holds userId { t with recalculation := none } := by
  have hrecalculation := h.recalculation
  unfold clearRecalculationTimer
  cases hcallback : t.recalculation with
  | none =>
    rw [hcallback] at hrecalculation
    rw [hrecalculation]
    exact ⟨h.schedule, hrecalculation⟩
  | some callback =>
    rw [hcallback] at hrecalculation
    obtain ⟨id, hid, hrunning⟩ := hrecalculation
    rw [hid]
    obtain ⟨hids, hrest⟩ := Prod.mk.inj (congrFun (entries_clearTimer env m id) userId)
    refine ⟨h.schedule.of_running hids (Prod.mk.inj hrest).1 ?_, Function.update_self ..⟩
    intro id' name callback' hname hrunning'
    exact hrunning'.of_eq (timeService_clearTimer_of_ne (hrunning'.ne hrunning hname))

theorem entries_clearRecalculationTimer_of_ne (env : Env) (m : AlarmTimerManager γ) {userId' : ℕ}
    (h : userId' ≠ userId) :
    (m.clearRecalculationTimer env userId).entries userId' = m.entries userId' := by
  unfold clearRecalculationTimer
  split
  · rfl
  · next id hid =>
    have hcleared := congrFun (entries_clearTimer env m id) userId'
    obtain ⟨hids, hrest⟩ := Prod.mk.inj hcleared
    obtain ⟨hbounds, hid'⟩ := Prod.mk.inj hrest
    unfold entries
    dsimp only
    rw [hids, hbounds, ← hid']
    exact congrArg (fun recalculation => (_, _, recalculation)) (Function.update_of_ne h ..)

/-- The key as it is once its recalculation timer is cleared, whatever it had. -/
theorem entries_clearRecalculationTimer_self (env : Env) (m : AlarmTimerManager γ) (userId : ℕ) :
    (m.clearRecalculationTimer env userId).entries userId =
      (m.timerIdMap.lookup userId, m.initialSetupTimeMap userId, none) := by
  unfold clearRecalculationTimer
  split
  · next hnone =>
    unfold entries
    rw [hnone]
  · next id hid =>
    obtain ⟨hids, hrest⟩ := Prod.mk.inj (congrFun (entries_clearTimer env m id) userId)
    unfold entries
    dsimp only
    rw [hids, (Prod.mk.inj hrest).1]
    exact congrArg (fun recalculation => (_, _, recalculation)) (Function.update_self ..)

/-- The two timers of a key are destroyed and forgotten. -/
def withoutTimers (env : Env) (m : AlarmTimerManager γ) (userId : ℕ) : AlarmTimerManager γ :=
  match m.timerIdMap.lookup userId with
  | none => m
  | some ids =>
    let both := (m.clearTimer env ids.1).clearTimer env ids.2
    { both with timerIdMap := both.timerIdMap.erase userId }

theorem entries_withoutTimers (env : Env) (m : AlarmTimerManager γ) (userId userId' : ℕ) :
    (m.withoutTimers env userId).entries userId' =
      if userId' = userId then (none, (m.entries userId').2) else m.entries userId' := by
  unfold withoutTimers
  split
  · next hnone =>
    split_ifs with hsame
    · subst hsame
      unfold entries
      rw [hnone]
    · rfl
  · next ids hids =>
    have hcleared : ((m.clearTimer env ids.1).clearTimer env ids.2).entries userId' =
        m.entries userId' := by simp
    split_ifs with hsame
    · subst hsame
      rw [← hcleared]
      exact congrArg (fun ids => (ids, _)) (AList.lookup_erase _ _)
    · rw [← hcleared]
      exact congrArg (fun ids => (ids, _)) (AList.lookup_erase_ne hsame)

/-- Nothing is left of a key that is cleared. -/
theorem holds_clearTimerByUserId (m : AlarmTimerManager γ) (userId : ℕ) :
    (m.clearTimerByUserId env userId).Holds userId {} := by
  have hentries := entries_withoutTimers env m userId userId
  rw [if_pos rfl] at hentries
  have hcleared := entries_clearRecalculationTimer_self env (m.withoutTimers env userId) userId
  obtain ⟨hids, hrest⟩ := Prod.mk.inj hcleared
  refine ⟨⟨?_, Function.update_self ..⟩, (Prod.mk.inj hrest).2⟩
  exact hids.trans (Prod.mk.inj hentries).1

theorem entries_clearTimerByUserId_of_ne {userId' : ℕ} (h : userId' ≠ userId) :
    (m.clearTimerByUserId env userId).entries userId' = m.entries userId' := by
  have hentries := entries_withoutTimers env m userId userId'
  rw [if_neg h] at hentries
  have hcleared := entries_clearRecalculationTimer_of_ne env (m.withoutTimers env userId) h
  rw [← hentries, ← hcleared]
  exact congrArg (fun bounds => (_, bounds, _)) (Function.update_of_ne h ..)

/-- Clearing a key destroys its own timers only. -/
theorem timeService_clearRecalculationTimer_of_ne {id : ℕ}
    (h : id ≠ (m.recalculationTimerIdMap userId).getD 0) :
    (m.clearRecalculationTimer env userId).timeService id = m.timeService id := by
  unfold clearRecalculationTimer
  cases hid : m.recalculationTimerIdMap userId with
  | none => rfl
  | some old =>
    rw [hid] at h
    exact timeService_clearTimer_of_ne h

theorem timeService_clearTimerByUserId_of_ne {id : ℕ} (hstart : id ≠ (m.timerIds userId).1)
    (hfinish : id ≠ (m.timerIds userId).2)
    (hrecalculation : id ≠ (m.recalculationTimerIdMap userId).getD 0) :
    (m.clearTimerByUserId env userId).timeService id = m.timeService id := by
  have hwithout : (m.withoutTimers env userId).timeService id = m.timeService id := by
    unfold timerIds at hstart hfinish
    unfold withoutTimers
    cases hids : m.timerIdMap.lookup userId with
    | none => rfl
    | some ids =>
      rw [hids] at hstart hfinish
      exact (timeService_clearTimer_of_ne hfinish).trans (timeService_clearTimer_of_ne hstart)
  have hentries := entries_withoutTimers env m userId userId
  rw [if_pos rfl] at hentries
  have hsame : (m.withoutTimers env userId).recalculationTimerIdMap userId =
      m.recalculationTimerIdMap userId := congrArg (fun entries => entries.2.2) hentries
  rw [← hsame] at hrecalculation
  rw [← hwithout]
  exact timeService_clearRecalculationTimer_of_ne (m := m.withoutTimers env userId) hrecalculation

/-- Clearing creates no timer. -/
theorem Unused.clearRecalculationTimer {name : TimerName} (h : Unused env m name) :
    Unused env (m.clearRecalculationTimer env userId) name := by
  unfold Unused AlarmTimerManager.clearRecalculationTimer
  split
  · exact h
  · exact timeService_clearTimer_of_none h

theorem Unused.clearTimerByUserId {name : TimerName} (h : Unused env m name) :
    Unused env (m.clearTimerByUserId env userId) name := by
  have hwithout : Unused env (m.withoutTimers env userId) name := by
    unfold Unused withoutTimers
    split
    · exact h
    · exact timeService_clearTimer_of_none (timeService_clearTimer_of_none h)
  exact Unused.clearRecalculationTimer (m := m.withoutTimers env userId) hwithout

end Clearing

section Recalculation

theorem holds_setRecalculationTimer (hw : Working env) (hunused : Unused env m .recalculation)
    (h : m.Holds userId t) (callback : γ) :
    (m.setRecalculationTimer env userId callback).Holds userId (t.recalculated callback) := by
  have hrecalculation := h.recalculation
  unfold setRecalculationTimer KeyTimers.recalculated
  cases hcallback : t.recalculation with
  | some callback' =>
    rw [hcallback] at hrecalculation
    obtain ⟨id, hid, hrunning⟩ := hrecalculation
    have hpos : 0 < (some id).getD 0 := Nat.pos_of_ne_zero hrunning.1
    rw [hid, if_pos hpos]
    exact ⟨h.schedule, id, hid, hrunning⟩
  | none =>
    rw [hcallback] at hrecalculation
    have hzero : ¬0 < (none : Option ℕ).getD 0 := by simp
    dsimp only
    rw [show m.recalculationTimerIdMap userId = none from hrecalculation, if_neg hzero,
      initTimer_eq hw, if_neg (hw.created _)]
    refine ⟨h.schedule.of_running rfl rfl fun id name callback' _ hrunning => ?_, _,
      Table.put_self, hw.created _, _, Table.put_self⟩
    exact hrunning.of_eq (Table.put_of_ne (hrunning.ne_of_fresh hunused))

theorem entries_setRecalculationTimer_of_ne {userId' : ℕ} (h : userId' ≠ userId) (callback : γ) :
    (m.setRecalculationTimer env userId callback).entries userId' = m.entries userId' := by
  have hinit (time : ℕ) : (m.initTimer env .recalculation time callback).1.entries = m.entries := by
    obtain ⟨htimers, hsetup, hrecalculation⟩ := maps_initTimer env m .recalculation time callback
    unfold entries
    rw [htimers, hsetup, hrecalculation]
  unfold setRecalculationTimer
  dsimp only
  split_ifs
  · rfl
  · rw [hinit]
  · rw [← hinit]
    exact congrArg (fun recalculation => (_, _, recalculation)) (Table.put_of_ne h)

section Restart

theorem restartTimerByTimerId_keeps (m : AlarmTimerManager γ) (timerId time : ℕ) :
    (m.restartTimerByTimerId timerId time).entries = m.entries ∧
      ∀ id name callback, m.Running id name callback →
        (m.restartTimerByTimerId timerId time).Running id name callback := by
  unfold restartTimerByTimerId
  cases htimer : m.timeService timerId with
  | none => exact ⟨rfl, fun _ _ _ h => h⟩
  | some timer =>
    refine ⟨rfl, fun id name callback hrunning => ?_⟩
    obtain ⟨hid, time', htime'⟩ := hrunning
    by_cases hsame : id = timerId
    · subst hsame
      obtain rfl := Option.some.inj (htimer.symm.trans htime')
      exact ⟨hid, time, Table.put_self⟩
    · exact ⟨hid, time', (Table.put_of_ne hsame).trans htime'⟩

/-- Restarting a key restarts its two timers only. -/
theorem restartTimerByUserId_keeps (m : AlarmTimerManager γ) (userId : ℕ) :
    (m.restartTimerByUserId env userId).1.entries = m.entries ∧
      ∀ id, id ≠ (m.timerIds userId).1 → id ≠ (m.timerIds userId).2 →
        (m.restartTimerByUserId env userId).1.timeService id = m.timeService id := by
  have hother (m : AlarmTimerManager γ) (timerId time id : ℕ) (h : id ≠ timerId) :
      (m.restartTimerByTimerId timerId time).timeService id = m.timeService id := by
    unfold restartTimerByTimerId
    cases m.timeService timerId with
    | none => rfl
    | some timer => exact Table.put_of_ne h
  constructor
  · refine restartTimerByUserId_preserves (P := fun m' => m'.entries = m.entries) ?_ userId rfl
    intro m' timerId time h
    exact (m'.restartTimerByTimerId_keeps timerId time).1.trans h
  · intro id hstart hfinish
    unfold timerIds at hstart hfinish
    unfold restartTimerByUserId
    split_ifs
    · rfl
    · split
      · next ids setup hids hsetup =>
        rw [hids] at hstart hfinish
        exact (hother _ _ _ id hfinish).trans (hother _ _ _ id hstart)
      · rfl

/-- Restarting changes trigger times only. -/
theorem restartAllTimer_keeps (m : AlarmTimerManager γ) :
    (m.restartAllTimer env).1.entries = m.entries ∧
      ∀ id name callback, m.Running id name callback →
        (m.restartAllTimer env).1.Running id name callback := by
  refine restartAllTimer_preserves (P := fun m' => m'.entries = m.entries ∧
    ∀ id name callback, m.Running id name callback → m'.Running id name callback) ?_
    ⟨rfl, fun _ _ _ h => h⟩
  rintro m' timerId time ⟨hentries, hrunning⟩
  obtain ⟨hkept, hkept'⟩ := m'.restartTimerByTimerId_keeps timerId time
  exact ⟨hkept.trans hentries, fun id name callback h => hkept' _ _ _ (hrunning _ _ _ h)⟩

end Restart

end Recalculation

end AlarmTimerManager
end UiAppearance
