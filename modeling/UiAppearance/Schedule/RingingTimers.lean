import UiAppearance.Schedule.KeyTimers

/-!
# When the timers ring

Every timer is created to repeat with an interval of a day, so a live one rings
at its trigger time and at the same time of every later day. The manager may
have the two timers of a single key and no others but recalculation timers.
Arming the key and restarting all timers both leave these two, set to the
trigger times computed at that moment.
-/

namespace UiAppearance

/-- Instants are seconds; a timer rings in whole milliseconds. -/
def LiveTimer.Rings {γ : Type} (timer : LiveTimer γ) (instant : ℤ) : Prop :=
  ∃ n : ℕ, instant * 1000 = timer.triggerTime + n * AlarmTimerManager.dayToMilli

namespace AlarmTimerManager

variable {γ : Type}

/-- Some start or end timer rings. -/
def Sounds (m : AlarmTimerManager γ) (instant : ℤ) : Prop :=
  ∃ id timer, m.timeService id = some timer ∧ timer.name ≠ .recalculation ∧ timer.Rings instant

/-- No key has a start or an end timer, and the time service has none left over. -/
def Unarmed (m : AlarmTimerManager γ) : Prop :=
  m.timerIdMap.keys = [] ∧ ∀ id timer, m.timeService id = some timer → timer.name = .recalculation

/-- One key is armed, with these trigger times, and nothing else. -/
structure SoleAlarms (m : AlarmTimerManager γ) (userId : ℕ) (bounds triggers : ℕ × ℕ)
    (callback : γ) : Prop where
  keys : m.timerIdMap.keys = [userId]
  setup : m.initialSetupTimeMap userId = some bounds
  timers : ∃ ids, m.timerIdMap.lookup userId = some ids ∧ ids.1 ≠ ids.2 ∧
    m.timeService ids.1 = some ⟨.start, triggers.1, callback⟩ ∧
    m.timeService ids.2 = some ⟨.finish, triggers.2, callback⟩ ∧
    ∀ id timer, m.timeService id = some timer →
      id = ids.1 ∨ id = ids.2 ∨ timer.name = .recalculation

variable {env : Env} {m : AlarmTimerManager γ} {userId : ℕ} {bounds triggers : ℕ × ℕ} {callback : γ}

theorem SoleAlarms.sounds_iff (h : m.SoleAlarms userId bounds triggers callback) (instant : ℤ) :
    m.Sounds instant ↔
      (∃ n : ℕ, instant * 1000 = triggers.1 + n * dayToMilli) ∨
        ∃ n : ℕ, instant * 1000 = triggers.2 + n * dayToMilli := by
  obtain ⟨ids, -, -, hstart, hfinish, hothers⟩ := h.timers
  constructor
  · rintro ⟨id, timer, htimer, hname, hrings⟩
    rcases hothers id timer htimer with rfl | rfl | hrecalculation
    · rw [hstart] at htimer
      obtain rfl := Option.some.inj htimer
      exact .inl hrings
    · rw [hfinish] at htimer
      obtain rfl := Option.some.inj htimer
      exact .inr hrings
    · exact absurd hrecalculation hname
  · rintro (hrings | hrings)
    · refine ⟨ids.1, _, hstart, ?_, hrings⟩
      intro hname
      cases hname
    · refine ⟨ids.2, _, hfinish, ?_, hrings⟩
      intro hname
      cases hname

theorem Unarmed.timerIdMap_eq (h : m.Unarmed) : m.timerIdMap = ∅ := by
  have hlength : m.timerIdMap.entries.length = 0 := by
    have hkeys := congrArg List.length h.1
    simpa [AList.keys, List.keys] using hkeys
  exact AList.ext (List.length_eq_zero_iff.mp hlength)

/-- Arming a key where none is armed. -/
theorem soleAlarms_withTimers (hw : Working env) (hnone : m.Unarmed) (startTime endTime : ℕ) :
    (m.withTimers env userId startTime endTime callback callback).SoleAlarms userId
      (startTime, endTime) (setTimerTriggerTime env.clock startTime endTime) callback := by
  have hids : m.timerIds userId = (0, 0) := by
    unfold timerIds
    rw [hnone.timerIdMap_eq]
    rfl
  have hfirst : (m.withStartTimer env userId startTime endTime callback).timeService =
      m.timeService.put (env.createTimer .start)
        ⟨.start, (setTimerTriggerTime env.clock startTime endTime).1, callback⟩ := by
    have hslot : slot .start ((m.recordInitialSetupTime startTime endTime userId).timerIds
        userId) = 0 := congrArg Prod.fst hids
    unfold withStartTimer
    rw [setTimer_eq hw, hslot, clearTimer_zero]
    rfl
  have hboth : (m.withTimers env userId startTime endTime callback callback).timeService =
      (m.timeService.put (env.createTimer .start)
        ⟨.start, (setTimerTriggerTime env.clock startTime endTime).1, callback⟩).put
        (env.createTimer .finish)
        ⟨.finish, (setTimerTriggerTime env.clock startTime endTime).2, callback⟩ := by
    have hslot : slot .finish ((m.withStartTimer env userId startTime endTime callback).timerIds
        userId) = 0 := by
      rw [timerIds_withStartTimer hw]
      exact congrArg Prod.snd hids
    unfold withTimers
    rw [setTimer_eq hw, hslot, clearTimer_zero, hfirst]
  have hdistinct : env.createTimer .start ≠ env.createTimer .finish := fun hsame => by
    cases hw.distinct _ _ hsame
  refine ⟨?_, ?_, (env.createTimer .start, env.createTimer .finish), ?_, hdistinct, ?_, ?_, ?_⟩
  · unfold withTimers withStartTimer
    rw [setTimer_eq hw, setTimer_eq hw]
    change (AList.insert userId _ (AList.insert userId _ m.timerIdMap)).keys = _
    rw [hnone.timerIdMap_eq, AList.keys_insert, AList.keys_insert]
    simp
  · unfold withTimers withStartTimer
    rw [setTimer_eq hw, setTimer_eq hw]
    exact Table.put_self
  · refine (lookup_setTimer hw).trans ?_
    rw [timerIds_withStartTimer hw]
    rfl
  · rw [hboth]
    exact (Table.put_of_ne hdistinct).trans Table.put_self
  · rw [hboth]
    exact Table.put_self
  · intro id timer htimer
    rw [hboth] at htimer
    by_cases hfinish : id = env.createTimer .finish
    · exact .inr (.inl hfinish)
    · rw [Table.put_of_ne hfinish] at htimer
      by_cases hstart : id = env.createTimer .start
      · exact .inl hstart
      · rw [Table.put_of_ne hstart] at htimer
        exact .inr (.inr (hnone.2 id timer htimer))

theorem restartTimerByTimerId_of_some {timer : LiveTimer γ} {timerId : ℕ} (time : ℕ)
    (h : m.timeService timerId = some timer) :
    m.restartTimerByTimerId timerId time =
      { m with timeService := m.timeService.put timerId { timer with triggerTime := time } } := by
  unfold restartTimerByTimerId
  rw [h]

/-- A restart sets both timers to the trigger times of this moment. -/
theorem SoleAlarms.restartAllTimer (h : m.SoleAlarms userId bounds triggers callback)
    (hkey : userId ≠ 0) :
    (m.restartAllTimer env).1.SoleAlarms userId bounds
      (setTimerTriggerTime env.clock bounds.1 bounds.2) callback := by
  obtain ⟨ids, hlookup, hdistinct, hstart, hfinish, hothers⟩ := h.timers
  let triggers' := setTimerTriggerTime env.clock bounds.1 bounds.2
  let started := m.timeService.put ids.1 ⟨.start, triggers'.1, callback⟩
  let timeService' := started.put ids.2 ⟨.finish, triggers'.2, callback⟩
  have hrestarted : (m.restartAllTimer env).1 = { m with timeService := timeService' } := by
    have hfinish' : ({ m with timeService := started } : AlarmTimerManager γ).timeService ids.2 =
        some ⟨.finish, triggers.2, callback⟩ := (Table.put_of_ne hdistinct.symm).trans hfinish
    unfold AlarmTimerManager.restartAllTimer
    rw [h.keys, List.mergeSort_singleton]
    simp only [List.foldl_cons, List.foldl_nil, if_neg hkey, if_true]
    unfold restartTimerByUserId
    rw [if_neg hkey, hlookup, h.setup]
    dsimp only
    rw [restartTimerByTimerId_of_some _ hstart]
    exact restartTimerByTimerId_of_some _ hfinish'
  rw [hrestarted]
  refine ⟨h.keys, h.setup, ids, hlookup, hdistinct, ?_, Table.put_self, ?_⟩
  · exact (Table.put_of_ne hdistinct).trans Table.put_self
  · intro id timer htimer
    change started.put ids.2 _ id = some timer at htimer
    by_cases hid₂ : id = ids.2
    · exact .inr (.inl hid₂)
    · rw [Table.put_of_ne hid₂] at htimer
      by_cases hid₁ : id = ids.1
      · exact .inl hid₁
      · unfold started at htimer
        rw [Table.put_of_ne hid₁] at htimer
        exact hothers id timer htimer

end AlarmTimerManager
end UiAppearance
