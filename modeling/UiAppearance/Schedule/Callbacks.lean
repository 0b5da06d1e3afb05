import UiAppearance.Schedule.AlarmTimerManager

/-!
# What the timers call back

The time service holds no callback but those it was given, and it is given a
schedule callback only once the bounds have passed the check.
-/

namespace UiAppearance
namespace AlarmTimerManager

variable {γ : Type} {env : Env} {m : AlarmTimerManager γ} {c : γ}

/-- Some live timer carries the callback. -/
def Calls (m : AlarmTimerManager γ) (c : γ) : Prop :=
  ∃ id timer, m.timeService id = some timer ∧ timer.callback = c

theorem calls_of_callback {i : ℕ} (h : (m.timeService i).map LiveTimer.callback = some c) :
    m.Calls c := by
  obtain ⟨timer, htimer, hc⟩ := Option.map_eq_some_iff.mp h
  exact ⟨i, timer, htimer, hc⟩

theorem calls_remove {m' : AlarmTimerManager γ} {id : ℕ}
    (hservice : m'.timeService = m.timeService.remove id) (h : m'.Calls c) : m.Calls c := by
  obtain ⟨id', timer, htimer, hc⟩ := h
  rw [hservice] at htimer
  by_cases hid : id' = id
  · rw [hid, Table.remove, Function.update_self] at htimer
    cases htimer
  · rw [Table.remove, Function.update_of_ne hid] at htimer
    exact ⟨id', timer, htimer, hc⟩

theorem calls_put {m' : AlarmTimerManager γ} {id : ℕ} {timer : LiveTimer γ}
    (hservice : m'.timeService = m.timeService.put id timer) (h : m'.Calls c) :
    m.Calls c ∨ c = timer.callback := by
  obtain ⟨id', timer', htimer, hc⟩ := h
  rw [hservice] at htimer
  by_cases hid : id' = id
  · rw [hid, Table.put_self] at htimer
    exact .inr (by rw [← hc, Option.some.inj htimer])
  · rw [Table.put_of_ne hid] at htimer
    exact .inl ⟨id', timer', htimer, hc⟩

theorem calls_clearTimer (id : ℕ) (h : (m.clearTimer env id).Calls c) : m.Calls c := by
  unfold clearTimer at h
  split_ifs at h
  · exact h
  · exact calls_remove rfl h
  · exact h

theorem calls_initTimer {name : TimerName} {time : ℕ} {callback : γ}
    (h : (m.initTimer env name time callback).1.Calls c) : m.Calls c ∨ c = callback := by
  unfold initTimer at h
  dsimp only at h
  split_ifs at h
  · exact .inl h
  · exact calls_put (m := m) rfl h
  · exact calls_put (m := m) rfl (calls_clearTimer _ h)

theorem calls_replaceTimer (old : ℕ) {name : TimerName} {time : ℕ} {callback : γ}
    (h : (m.replaceTimer env old name time callback).1.Calls c) : m.Calls c ∨ c = callback := by
  rw [replaceTimer_eq_initTimer] at h
  exact (calls_initTimer h).imp_left (calls_clearTimer old)

theorem calls_setTimer {name : TimerName} {userId time : ℕ} {callback : γ}
    (h : (m.setTimer env name userId time callback).Calls c) : m.Calls c ∨ c = callback :=
  calls_replaceTimer (slot name (m.timerIds userId)) h

/-- Rejected bounds never become a timer. -/
theorem calls_setScheduleTime {startTime endTime userId : ℕ} {callback : γ}
    (h : (m.setScheduleTime env startTime endTime userId callback callback).1.Calls c) :
    m.Calls c ∨ (c = callback ∧ isValidScheduleTime startTime endTime = true) := by
  unfold setScheduleTime at h
  cases hvalid : isValidScheduleTime startTime endTime with
  | false =>
    rw [hvalid] at h
    exact .inl h
  | true =>
    simp only [hvalid, Bool.not_true, Bool.false_eq_true, if_false] at h
    have hset : (((m.recordInitialSetupTime startTime endTime userId).setTimer env .start userId
        (setTimerTriggerTime env.clock startTime endTime).1 callback).setTimer env .finish userId
        (setTimerTriggerTime env.clock startTime endTime).2 callback).Calls c := by
      split_ifs at h
      · exact h
      · exact h
    rcases calls_setTimer hset with hfirst | hc
    · rcases calls_setTimer hfirst with hbefore | hc
      · exact .inl hbefore
      · exact .inr ⟨hc, rfl⟩
    · exact .inr ⟨hc, rfl⟩

theorem calls_clearRecalculationTimer (userId : ℕ)
    (h : (m.clearRecalculationTimer env userId).Calls c) : m.Calls c := by
  unfold clearRecalculationTimer at h
  cases hid : m.recalculationTimerIdMap userId with
  | none =>
    rw [hid] at h
    exact h
  | some id =>
    rw [hid] at h
    exact calls_clearTimer id h

theorem calls_clearTimerByUserId {userId : ℕ} (h : (m.clearTimerByUserId env userId).Calls c) :
    m.Calls c := by
  unfold clearTimerByUserId at h
  have hcleared := calls_clearRecalculationTimer userId h
  cases hids : m.timerIdMap.lookup userId with
  | none =>
    rw [hids] at hcleared
    exact hcleared
  | some ids =>
    rw [hids] at hcleared
    exact calls_clearTimer _ (calls_clearTimer _ hcleared)

theorem calls_setRecalculationTimer {userId : ℕ} {callback : γ}
    (h : (m.setRecalculationTimer env userId callback).Calls c) : m.Calls c ∨ c = callback := by
  unfold setRecalculationTimer at h
  dsimp only at h
  split_ifs at h
  · exact .inl h
  · exact calls_initTimer h
  · exact calls_initTimer h

theorem calls_restartTimerByTimerId {timerId time : ℕ}
    (h : (m.restartTimerByTimerId timerId time).Calls c) : m.Calls c := by
  unfold restartTimerByTimerId at h
  cases htimer : m.timeService timerId with
  | none =>
    rw [htimer] at h
    exact h
  | some timer =>
    rw [htimer] at h
    rcases calls_put (m := m) rfl h with hbefore | hc
    · exact hbefore
    · exact ⟨timerId, timer, htimer, hc.symm⟩

/-- Restarting changes trigger times only. -/
theorem calls_restartAllTimer (h : (m.restartAllTimer env).1.Calls c) : m.Calls c :=
  restartAllTimer_preserves (P := fun m' => m'.Calls c → m.Calls c)
    (fun _ _ _ hbefore hcalls => hbefore (calls_restartTimerByTimerId hcalls)) id h

end AlarmTimerManager
end UiAppearance
