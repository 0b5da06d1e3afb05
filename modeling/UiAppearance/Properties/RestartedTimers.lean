import UiAppearance.Ability.ScheduleRuns
import UiAppearance.DarkMode.RestartResult

/-!
# Restarted timers

The bounds that the timer manager has recorded for a key are those of the
context that set its timers, as long as that context has a schedule. A restart
therefore arms every timer for the settings in memory, and the code it returns
is that of a failure.
-/

namespace UiAppearance
namespace RestartedTimers

open Service Transition Scenario

/-- Contexts that have a state have timer keys of their own. -/
def KeysApart (s : Service) : Prop :=
  ∀ context context', (s.darkModeStates context).isSome = true →
    (s.darkModeStates context').isSome = true →
    context.buildTimerKey = context'.buildTimerKey → context = context'

/-- The restart starts the timers of every key at the trigger times, as of now, of a pair of
bounds, which is the schedule of the context with this key if it has one. -/
def Rearmed (env : Env) (s : Service) : Prop :=
  ∀ userId ids, userId ≠ 0 → s.alarmTimerManager.timerIdMap.lookup userId = some ids →
    ∃ bounds, AlarmTimerManager.startsFor env ids bounds ⊆ (s.restartTimerResult env).starts ∧
      ∀ context : AccountContext, context.buildTimerKey = userId →
        (s.stateOf context).settingMode.isSchedule = true →
        bounds = (s.stateOf context).timerBounds

/-- Every timer is armed again, and the code is `ERR_OK` exactly when that is so. -/
def RearmsAndSaysSo (env : Env) (s : Service) : Prop :=
  Rearmed env s ∧ ((s.restartTimerResult env).code = errOk ↔ Rearmed env s)

/-- Bounds go with timers, and are those of the context that set them while it has a schedule. -/
structure Accounted (s : Service) (userId : ℕ) (record : Option (ℕ × ℕ) × Bool) : Prop where
  sameKeys : record.1.isSome = record.2
  current : ∀ bounds, record.1 = some bounds →
    ∃ context : AccountContext, context.buildTimerKey = userId ∧
      (s.darkModeStates context).isSome = true ∧
      ((s.stateOf context).settingMode.isSchedule = true →
        bounds = (s.stateOf context).timerBounds)

def Recorded (s : Service) : Prop :=
  ∀ userId, Accounted s userId (s.alarmTimerManager.records userId)

section Invariant

variable {env : Env} {s s' : Service} {context : AccountContext} {state : DarkModeState}
  {userId : ℕ} {record : Option (ℕ × ℕ) × Bool}

theorem accounted_nothing (s : Service) (userId : ℕ) : Accounted s userId (none, false) :=
  ⟨rfl, nofun⟩

theorem Accounted.congr (h : Accounted s userId record) (hstates : KeepsStates s s') :
    Accounted s' userId record := by
  refine ⟨h.sameKeys, fun bounds hbounds => ?_⟩
  obtain ⟨context, hkey, hsome, hcurrent⟩ := h.current bounds hbounds
  refine ⟨context, hkey, hstates.isSome context hsome, ?_⟩
  rw [hstates.stateOf]
  exact hcurrent

/-- A record outlives a new state of a context unless it is for a schedule of that context. -/
theorem Accounted.put (h : Accounted s userId record)
    (hstates : s'.darkModeStates = s.darkModeStates.put context state)
    (hfree : userId = context.buildTimerKey → state.settingMode = .invalid) :
    Accounted s' userId record := by
  refine ⟨h.sameKeys, fun bounds hbounds => ?_⟩
  obtain ⟨context', hkey, hsome, hcurrent⟩ := h.current bounds hbounds
  refine ⟨context', hkey, ?_⟩
  unfold Service.stateOf
  rw [hstates]
  by_cases hsame : context' = context
  · subst hsame
    rw [Table.put_self, Table.valueAt_put_self]
    refine ⟨rfl, fun hmode => ?_⟩
    rw [hfree hkey.symm] at hmode
    cases hmode
  · rw [Table.put_of_ne hsame, Table.valueAt_put_of_ne hsame]
    exact ⟨hsome, hcurrent⟩

/-- The timers of a context are set for the state it has. -/
theorem accounted_set (hstates : s'.darkModeStates = s.darkModeStates.put context state) :
    Accounted s' context.buildTimerKey (some state.timerBounds, true) := by
  refine ⟨rfl, fun bounds hbounds => ⟨context, rfl, ?_, fun _ => ?_⟩⟩
  · rw [hstates, Table.put_self]
    rfl
  · unfold Service.stateOf
    rw [hstates, Table.valueAt_put_self]
    exact (Option.some.inj hbounds).symm

theorem recorded_of_update
    (hrecords : s'.alarmTimerManager.records =
      Function.update s.alarmTimerManager.records userId record)
    (hother : ∀ userId', userId' ≠ userId →
      Accounted s' userId' (s.alarmTimerManager.records userId'))
    (hself : Accounted s' userId record) : Recorded s' := by
  intro userId'
  rw [hrecords]
  by_cases hsame : userId' = userId
  · rw [hsame, Function.update_self]
    exact hself
  · rw [Function.update_of_ne hsame]
    exact hother userId' hsame

theorem Recorded.congr (h : Recorded s) (hstates : KeepsStates s s')
    (hrecords : s'.alarmTimerManager.records = s.alarmTimerManager.records) : Recorded s' := by
  intro userId
  rw [hrecords]
  exact (h userId).congr hstates

/-- A new state of a context, and what a reaction to it leaves for the key. -/
theorem Recorded.react (h : Recorded s) (env : Env)
    (hstates : s'.darkModeStates = s.darkModeStates.put context state)
    (hrecords : s'.alarmTimerManager.records =
      (timersFor env context s.alarmTimerManager state).records) : Recorded s' := by
  have hother (userId : ℕ) (hne : userId ≠ context.buildTimerKey) :
      Accounted s' userId (s.alarmTimerManager.records userId) :=
    (h userId).put hstates fun hsame => absurd hsame hne
  rcases records_timersFor env context s.alarmTimerManager state with
    ⟨hinvalid, hkept⟩ | hset | hcleared
  · intro userId
    rw [hrecords, hkept]
    exact (h userId).put hstates fun _ => hinvalid
  · exact recorded_of_update (hrecords.trans hset) hother (accounted_set hstates)
  · exact recorded_of_update (hrecords.trans hcleared) hother (accounted_nothing ..)

end Invariant

/-- Observers and loads react to a state they store; whatever else there is only forgets. -/
theorem recorded_invariant : ScheduleInvariant Recorded where
  congr h hstates htimers := h.congr hstates (by rw [htimers])
  observes env s observer key h := by
    refine h.react env (darkModeStates_observerUpdateFunc env s observer key) ?_
    rw [alarmTimerManager_observerUpdateFunc]
    dsimp only
    split_ifs
    · rfl
    · exact AlarmTimerManager.records_setRecalculationTimer _
    · exact AlarmTimerManager.records_clearRecalculationTimer
  loads env s context needUpdateCallback isDarkMode bootLoadFlag h := by
    refine h.react env (darkModeStates_loadUserSettingData ..) ?_
    rw [alarmTimerManager_loadUserSettingData]
    dsimp only
    split_ifs
    · exact AlarmTimerManager.records_setRecalculationTimer _
    · rfl
  clears env s context h :=
    recorded_of_update AlarmTimerManager.records_clearTimerByUserId
      (fun userId _ => (h userId).congr (keepsStates_of_eq rfl)) (accounted_nothing ..)
  restarts env s h := by
    refine h.congr (keepsStates_of_eq rfl) (funext fun userId => ?_)
    exact AlarmTimerManager.records_of_entries
      (congrFun (AlarmTimerManager.restartAllTimer_keeps s.alarmTimerManager).1 userId)
  starts parameters tables userId := accounted_nothing ..

section Restart

variable {env : Env} {s : Service}

theorem isSome_of_lookup (h : Recorded s) (userId : ℕ)
    (htimers : (s.alarmTimerManager.timerIdMap.lookup userId).isSome = true) :
    (s.alarmTimerManager.initialSetupTimeMap userId).isSome = true :=
  (h userId).sameKeys.trans htimers

/-- In a schedule mode every timer is started, for the settings of its context. -/
theorem rearmed_of_recorded (h : Recorded s) (hapart : KeysApart s)
    (hmode : (s.stateOf s.observedContext).settingMode.isSchedule = true) : Rearmed env s := by
  intro userId ids hzero hids
  obtain ⟨bounds, hbounds⟩ := Option.isSome_iff_exists.mp
    (isSome_of_lookup h userId (by rw [hids]; rfl))
  refine ⟨bounds, ?_, ?_⟩
  · rw [restartTimerResult_eq, if_pos hmode]
    exact AlarmTimerManager.startsFor_subset (isSome_of_lookup h) hzero hids hbounds
  · intro context hkey hschedule
    obtain ⟨owner, hownerKey, hsome, hcurrent⟩ := (h userId).current bounds hbounds
    have hstate : (s.darkModeStates context).isSome = true := by
      rw [Option.isSome_iff_ne_none]
      intro hnone
      unfold Service.stateOf at hschedule
      rw [Table.valueAt_of_none hnone] at hschedule
      cases hschedule
    obtain rfl := hapart owner context hsome hstate (hownerKey.trans hkey.symm)
    exact hcurrent hschedule

/-- No key stops the restart, and what it returns for that is not `ERR_OK`. -/
theorem code_of_recorded (h : Recorded s)
    (hmode : (s.stateOf s.observedContext).settingMode.isSchedule = true) :
    (s.restartTimerResult env).code ≠ errOk := by
  rw [restartTimerResult_eq, if_pos hmode, AlarmTimerManager.restartAllTimer_eq,
    AlarmTimerManager.restartStarts_eq (isSome_of_lookup h)]
  exact Int.one_ne_zero

end Restart

/-- After any run, a restart in a schedule mode arms every timer for the settings in memory, and
never says so. -/
theorem restartTimer_rearms_unsaid (parameters : Table String String)
    (tables : ℤ → Table String String) (es : Run) (env : Env) :
    let s := exec step (start parameters tables) es
    (s.stateOf s.observedContext).settingMode.isSchedule = true →
      (KeysApart s → Rearmed env s) ∧ ¬RearmsAndSaysSo env s := by
  intro s hmode
  have hrecorded : Recorded s := recorded_invariant.exec parameters tables es
  refine ⟨fun hapart => rearmed_of_recorded hrecorded hapart hmode, ?_⟩
  rintro ⟨hrearmed, hcode⟩
  exact code_of_recorded hrecorded hmode (hcode.mpr hrearmed)

/-- An hour after the boot. -/
def oneOClock : Env := { clock := ⟨1003600, 46800, 956800, by decide⟩ }

theorem bootRun_rearms_unsaid :
    let s := exec step (start Table.empty customRow) bootRun
    (KeysApart s → Rearmed oneOClock s) ∧ ¬RearmsAndSaysSo oneOClock s :=
  restartTimer_rearms_unsaid Table.empty customRow bootRun oneOClock (by decide)

/-- Both timers are started again for the next day, and `RestartTimer` returns `1`. -/
theorem bootRun_restart :
    let s := exec step (start Table.empty customRow) bootRun
    (s.stateOf s.observedContext).settingMode = .customAuto ∧
      s.alarmTimerManager.timerIdMap.lookup account.buildTimerKey = some (1, 2) ∧
      s.restartTimerResult oneOClock = ⟨[(1, 1082800000), (2, 1090000000)], 1⟩ ∧
      ¬RearmsAndSaysSo oneOClock s := by
  intro s
  have hcode : (s.restartTimerResult oneOClock).code ≠ errOk := by decide +kernel
  refine ⟨by decide, by decide, by decide +kernel, ?_⟩
  rintro ⟨hrearmed, hiff⟩
  exact hcode (hiff.mpr hrearmed)

end RestartedTimers
end UiAppearance
