import UiAppearance.Properties.OverrideWindow

/-!
# Timers that fire early

The callback of a timer tests the second of the day against the interval moved
forward by five seconds. Over the circle of the day this moves the whole
interval, except for the schedule that starts at midnight: its first four
seconds would lie before midnight, where the plain comparison misses them. Apart
from the seconds the tolerance is about, the test agrees with the one of whole
minutes that a load or a restart makes.
-/

namespace UiAppearance
namespace EarlyTimers

open AlarmTimerManager DailyInterval OverrideWindow Scenario Transition

/-- The second of the day, five seconds on, is inside the interval on some day. -/
def DarkEarly (times : ℤ × ℤ) (currentTimeSeconds : ℤ) : Prop :=
  ∃ k : ℤ, times.1 * 60 < currentTimeSeconds + 5 + 86400 * k ∧
    currentTimeSeconds + 5 + 86400 * k < times.2 * 60

/-- The last `n` seconds before a minute of some day. -/
def InLastSeconds (n minute second : ℤ) : Prop :=
  ∃ k : ℤ, minute * 60 - n ≤ second + 86400 * k ∧ second + 86400 * k < minute * 60

/-- The schedule that a timer of the context has to have captured. -/
def InForce (s : Service) (context : AccountContext) (times : ℤ × ℤ) : Prop :=
  (s.stateOf context).settingMode.isSchedule = true ∧ (s.stateOf context).scheduleTime = times

section Seconds

variable {times : ℤ × ℤ} {second n minute : ℤ}

theorem inLastSeconds_iff (hn : n ≤ 86400) :
    InLastSeconds n minute second ↔ (minute * 60 - 1 - second) % 86400 < n := by
  constructor
  · rintro ⟨k, hlow, hhigh⟩
    omega
  · intro h
    refine ⟨(minute * 60 - 1 - second) / 86400, ?_, ?_⟩ <;> omega

theorem checkCurrentTimeInDarkInterval_iff :
    checkCurrentTimeInDarkInterval times.1 times.2 second = true ↔
      (times.2 ≤ 1440 ∧ times.1 * 60 - 5 < second ∧ second < times.2 * 60 - 5) ∨
        (1440 < times.2 ∧
          (second < (times.2 - 1440) * 60 - 5 ∨ times.1 * 60 - 5 < second)) := by
  unfold checkCurrentTimeInDarkInterval
  split_ifs with hday
  · simp only [Bool.and_eq_true, decide_eq_true_eq]
    omega
  · simp only [Bool.or_eq_true, decide_eq_true_eq]
    omega

/-- The day before and the day after matter where the interval reaches them. -/
theorem darkEarly_iff (h : Proper times) (hsecond : 0 ≤ second ∧ second < 86400) :
    DarkEarly times second ↔
      (times.1 * 60 < second + 5 ∧ second + 5 < times.2 * 60) ∨
        second + 5 + 86400 < times.2 * 60 ∨ (times.1 = 0 ∧ 86396 ≤ second) := by
  obtain ⟨h₀, hlt, hstart, hend⟩ := h
  constructor
  · rintro ⟨k, hlow, hhigh⟩
    have hk : k = -1 ∨ k = 0 ∨ k = 1 := by omega
    rcases hk with rfl | rfl | rfl
    · right; right
      omega
    · left
      omega
    · right; left
      omega
  · rintro (htoday | hnext | hprevious)
    · exact ⟨0, by omega, by omega⟩
    · exact ⟨1, by omega, by omega⟩
    · exact ⟨-1, by omega, by omega⟩

/-- The test of the callbacks is the moved interval, but for the seconds before midnight of a
schedule that starts there. -/
theorem check_iff_darkEarly_iff (h : Proper times) (hsecond : 0 ≤ second ∧ second < 86400) :
    (checkCurrentTimeInDarkInterval times.1 times.2 second = true ↔ DarkEarly times second) ↔
      ¬(times.1 = 0 ∧ 86396 ≤ second) := by
  rw [checkCurrentTimeInDarkInterval_iff, darkEarly_iff h hsecond]
  obtain ⟨h₀, hlt, hstart, hend⟩ := h
  omega

end Seconds

section Instants

variable {times : ℤ × ℤ} {offset T now : ℤ}

/-- From four seconds before a start until five seconds before the end. -/
theorem check_near_start (h : Proper times)
    (hT : secondOfDay offset T = 60 * leavingMinute times false) (hlow : T - 4 ≤ now)
    (hhigh : now < T + (times.2 - times.1) * 60 - 5) :
    checkCurrentTimeInDarkInterval times.1 times.2 (secondOfDay offset now) = true ↔
      ¬(times.1 = 0 ∧ now < T) := by
  obtain ⟨h₀, hlt, hstart, hend⟩ := h
  rw [checkCurrentTimeInDarkInterval_iff]
  simp only [leavingMinute, Bool.false_eq_true, if_false] at hT
  unfold secondOfDay at *
  omega

/-- From five seconds before an end until five seconds before the next start. -/
theorem check_near_end (h : Proper times)
    (hT : secondOfDay offset T = 60 * leavingMinute times true) (hlow : T - 5 ≤ now)
    (hhigh : now ≤ T + (1440 - (times.2 - times.1)) * 60 - 5) :
    checkCurrentTimeInDarkInterval times.1 times.2 (secondOfDay offset now) = false := by
  obtain ⟨h₀, hlt, hstart, hend⟩ := h
  rw [← Bool.not_eq_true, checkCurrentTimeInDarkInterval_iff]
  simp only [leavingMinute, if_true] at hT
  unfold secondOfDay at *
  omega

end Instants

section Callbacks

variable {offset T : ℤ} {env : Env} {s : Service} {context : AccountContext} {times : ℤ × ℤ}

theorem checkTimerCallbackParams_eq (hforce : InForce s context times)
    (hclock : KeepsTime offset env.clock) :
    s.checkTimerCallbackParams env times.1 times.2 context =
      some (.ofColor (checkCurrentTimeInDarkInterval times.1 times.2
        (secondOfDay offset env.clock.timestamp))) := by
  obtain ⟨hmode, htimes⟩ := hforce
  obtain ⟨hread, -, hlocal⟩ := hclock
  unfold Service.checkTimerCallbackParams
  simp [hmode, htimes, hread, hlocal]

/-- The colour computed early is the one the timer is for, but for a start at midnight. -/
theorem earlyTimers_iff (h : AcceptedTimes times) :
    (∀ second : ℤ, 0 ≤ second → second < 86400 →
      ((checkCurrentTimeInDarkInterval times.1 times.2 second = true ↔ DarkEarly times second) ↔
        ¬(times.1 = 0 ∧ 86396 ≤ second))) ∧
    ∀ (offset T : ℤ) (env : Env) (s : Service) (context : AccountContext),
      InForce s context times → KeepsTime offset env.clock →
      (LeavesAt offset times false T → T - 4 ≤ env.clock.timestamp →
        env.clock.timestamp < T + (times.2 - times.1) * 60 - 5 →
        (s.checkTimerCallbackParams env times.1 times.2 context = some .alwaysDark ↔
          ¬(times.1 = 0 ∧ env.clock.timestamp < T))) ∧
      (LeavesAt offset times true T → T - 5 ≤ env.clock.timestamp →
        env.clock.timestamp ≤ T + (1440 - (times.2 - times.1)) * 60 - 5 →
        s.checkTimerCallbackParams env times.1 times.2 context = some .alwaysLight) := by
  refine ⟨fun second hlow hhigh => check_iff_darkEarly_iff h.bounds ⟨hlow, hhigh⟩, ?_⟩
  intro offset T env s context hforce hclock
  rw [checkTimerCallbackParams_eq hforce hclock]
  constructor
  · intro hleaves hlow hhigh
    rw [← check_near_start h.bounds ((leavesAt_iff h.bounds).mp hleaves) hlow hhigh]
    cases checkCurrentTimeInDarkInterval times.1 times.2
      (secondOfDay offset env.clock.timestamp) <;> decide
  · intro hleaves hlow hhigh
    rw [check_near_end h.bounds ((leavesAt_iff h.bounds).mp hleaves) hlow hhigh]
    rfl

/-- Four seconds before a sunset at 18:00 the night has begun for the timers. -/
theorem earlyTimers_sunset :
    checkCurrentTimeInDarkInterval 1080 1860 64796 = true ↔ DarkEarly (1080, 1860) 64796 := by
  have haccepted : AcceptedTimes (1080, 1860) := by decide
  exact ((earlyTimers_iff haccepted).1 64796 (by decide) (by decide)).mpr (by decide)

/-- The schedule is dark from midnight to 8:00. -/
def midnightStart : Service :=
  exec Service.step (Service.start Table.empty (scheduleRow "0" "480"))
    [(clockAt 1 43380 (by decide), .onAddSystemAbility),
      (clockAt 1 43380 (by decide), .bootCompleted)]

/-- Its start timer fires two seconds early, at 23:59:58, and computes light. -/
theorem earlyTimers_midnight :
    AcceptedTimes (0, 480) ∧ InForce midnightStart account (0, 480) ∧
      LeavesAt 0 (0, 480) false (2 * 86400) ∧
      (clockAt 1 86398 (by decide)).clock.timestamp = 2 * 86400 - 2 ∧
      checkCurrentTimeInDarkInterval 0 480 86398 = false ∧ DarkEarly (0, 480) 86398 ∧
      midnightStart.checkTimerCallbackParams (clockAt 1 86398 (by decide)) 0 480 account =
        some .alwaysLight := by
  refine ⟨by decide, ⟨by decide, by decide⟩, by decide, by decide, by decide, ?_, by decide⟩
  exact ⟨-1, by decide, by decide⟩

/-- The two tests of the interval differ in the seconds of the tolerance only. -/
theorem isWithinTimeInterval_eq_check (h : AcceptedTimes times) {clock : Clock}
    (hread : clock.failed = false) (hstart : ¬InLastSeconds 4 times.1 clock.secondOfDay)
    (hend : ¬InLastSeconds 5 times.2 clock.secondOfDay) :
    isWithinTimeInterval clock (toUInt64 times.1) (toUInt64 times.2) =
      checkCurrentTimeInDarkInterval times.1 times.2 clock.secondOfDay := by
  have hminute : clock.minuteOfDay = clock.secondOfDay / 60 := rfl
  have hsecond := clock.secondOfDay_lt
  rw [inLastSeconds_iff (by decide)] at hstart hend
  change DarkModeState.within clock times = _
  rw [within_eq_covers hread h, Bool.eq_iff_iff, covers_eq_true,
    checkCurrentTimeInDarkInterval_iff]
  obtain ⟨h₀, hlt, hbefore, hspan⟩ := h.bounds
  omega

theorem isWithinTimeInterval_eq_check_atSunset :
    isWithinTimeInterval (clockAt 1 64801 (by decide)).clock (toUInt64 1080) (toUInt64 1860) =
      checkCurrentTimeInDarkInterval 1080 1860 64801 := by
  have haccepted : AcceptedTimes (1080, 1860) := by decide
  have hread : (clockAt 1 64801 (by decide)).clock.failed = false := by decide
  refine isWithinTimeInterval_eq_check haccepted hread ?_ ?_
  · rw [inLastSeconds_iff (by decide)]
    decide
  · rw [inLastSeconds_iff (by decide)]
    decide

/-- The timer that ends an override finds it over, unless it fires early by two seconds or more
while the override lasts, and the colour is not the missed one of a start at midnight. -/
theorem boundaryTimer_iff (h : AcceptedTimes times) (hclock : KeepsTime offset env.clock)
    {info : TempColorModeInfo} (hinfo : s.multiUserTempColorModeMap context = some info)
    (htemp : info.tempColorMode = .colorModeTemp) {isDarkMode : Bool}
    (hT : LeavesAt offset times isDarkMode (info.keepTemporaryStateEndTime + 1))
    (hearly : info.keepTemporaryStateEndTime + 1 - 4 ≤ env.clock.timestamp) :
    (checkCurrentTimeInDarkInterval times.1 times.2 env.clock.secondOfDay = !isDarkMode →
        s.checkTemporaryStateEffective env context = false) ↔
      info.keepTemporaryStateEndTime ≤ env.clock.timestamp ∨
        env.clock.timestamp ≤ info.keepTemporaryStateStartTime ∨
        (isDarkMode = false ∧ times.1 = 0) := by
  obtain ⟨hread, -, hlocal⟩ := hclock
  have heffective : s.checkTemporaryStateEffective env context = false ↔
      info.keepTemporaryStateEndTime ≤ env.clock.timestamp ∨
        env.clock.timestamp ≤ info.keepTemporaryStateStartTime := by
    simp only [Service.checkTemporaryStateEffective, hinfo, htemp, hread, decide_true,
      Bool.not_false, Bool.true_and, Bool.and_eq_false_iff, decide_eq_false_iff_not]
    omega
  rw [heffective, hlocal]
  by_cases hlate : info.keepTemporaryStateEndTime ≤ env.clock.timestamp
  · simp only [hlate, true_or, implies_true]
  · have hspan := h.bounds
    have hcheck : checkCurrentTimeInDarkInterval times.1 times.2
        (secondOfDay offset env.clock.timestamp) = !isDarkMode ↔
          ¬(isDarkMode = false ∧ times.1 = 0) := by
      cases isDarkMode with
      | true =>
        rw [check_near_end h.bounds ((leavesAt_iff h.bounds).mp hT) (by omega) (by omega)]
        simp
      | false =>
        refine (check_near_start h.bounds ((leavesAt_iff h.bounds).mp hT) hearly
          (by omega)).trans ?_
        simp only [true_and]
        omega
    rw [hcheck]
    tauto

/-- The light evening ends at 18:00: a timer one second early finds it over. -/
theorem boundaryTimer_oneSecond :
    checkCurrentTimeInDarkInterval 1080 1860 64799 = true ∧
      (after []).checkTemporaryStateEffective (clockAt 1 64799 (by decide)) account = false := by
  have haccepted : AcceptedTimes (1080, 1860) := by decide
  have hclock : KeepsTime 0 (clockAt 1 64799 (by decide)).clock := by decide
  have hinfo : (after []).multiUserTempColorModeMap account =
      some ⟨.colorModeTemp, 72000, 151199⟩ := by decide
  have hT : LeavesAt 0 (1080, 1860) false (151199 + 1) := by decide
  have hcheck : checkCurrentTimeInDarkInterval 1080 1860 64799 = true := by decide
  exact ⟨hcheck, (boundaryTimer_iff haccepted hclock hinfo rfl hT (by decide)).mpr
    (.inl (by decide)) hcheck⟩

/-- Three seconds early it computes dark, finds the override effective, and does nothing. -/
theorem boundaryTimer_threeSeconds :
    let s := after []
    let env := clockAt 1 64797 (by decide)
    AcceptedTimes (1080, 1860) ∧ InForce s account (1080, 1860) ∧
      s.multiUserTempColorModeMap account = some ⟨.colorModeTemp, 72000, 151199⟩ ∧
      LeavesAt 0 (1080, 1860) false (151199 + 1) ∧ env.clock.timestamp = 151200 - 3 ∧
      checkCurrentTimeInDarkInterval 1080 1860 env.clock.secondOfDay = true ∧
      s.checkTemporaryStateEffective env account = true ∧
      (s.step (env, .timerFired (.schedule 1080 1860 account))).core.decisions =
        s.core.decisions := by
  refine ⟨by decide, ⟨by decide, by decide⟩, by decide, by decide, by decide, by decide, by decide,
    by decide⟩

end Callbacks

end EarlyTimers
end UiAppearance
