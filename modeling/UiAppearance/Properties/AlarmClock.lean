import UiAppearance.Schedule.RingingTimers
import UiAppearance.Ability.Callbacks
import UiAppearance.Properties.FollowedSchedule
import UiAppearance.Properties.TriggerTimes

/-!
# The timers close the loop

Between two events nobody looks at the schedule but the time service, and it
knows no boundaries, only the trigger times it was given. They are the
boundaries: once a schedule is armed, the timers ring, day after day and also
after the time was changed, when the schedule is entered or left, and at no
other moment. It is therefore enough that no timer rings unheard.
-/

namespace UiAppearance
namespace AlarmClock

open Transition AlarmTimerManager DailyInterval FollowedSchedule Periodic
open OverrideWindow (KeepsTime clockAt)
open TriggerTimes (InRange)

/-- After `since`, the timers ring at the boundaries of the schedule and only there. -/
def RingsAtBoundaries (offset : ℤ) (times : ℤ × ℤ) (m : AlarmTimerManager TimerCallback)
    (since : ℤ) : Prop :=
  ∀ t, since < t → (m.Sounds t ↔ ∃ inside, LeavesAt offset times inside t)

/-- Trigger times can be computed without leaving the range. -/
def Datable (clock : Clock) : Prop := 86400 ≤ clock.midnight ∧ InRange clock

instance (clock : Clock) : Decidable (Datable clock) := inferInstanceAs (Decidable (_ ∧ _))

/-- The clock does not go back, and no timer rings up to the instant. -/
def Quiet (w : Watch) (instant : ℤ) : Prop :=
  w.now ≤ instant ∧
    ∀ t, w.now < t → t ≤ instant → ¬w.service.alarmTimerManager.Sounds t

/-- The schedule of the context is armed, and nothing else. -/
structure Armed (offset : ℤ) (context : AccountContext) (times : ℤ × ℤ) (w : Watch) : Prop where
  alarms : ∃ triggers, w.service.alarmTimerManager.SoleAlarms context.buildTimerKey
    (toUInt64 times.1, toUInt64 times.2) triggers (.schedule times.1 times.2 context)
  rings : RingsAtBoundaries offset times w.service.alarmTimerManager w.now

section Triggers

variable {offset : ℤ} {times : ℤ × ℤ} {clock : Clock} {m : AlarmTimerManager TimerCallback}
  {userId : ℕ} {callback : TimerCallback}

/-- A side is left at the instants that lie whole days from the time it is left today. -/
theorem leavesAt_iff_modEq (hclock : KeepsTime offset clock) (h : AcceptedTimes times)
    (inside : Bool) (t : ℤ) :
    LeavesAt offset times inside t ↔
      t ≡ clock.midnight + (if inside then times.2 else times.1) * 60 [ZMOD 86400] := by
  obtain ⟨-, hregular, hlocal⟩ := hclock
  unfold Clock.Regular at hregular
  unfold secondOfDay at hlocal
  rw [leavesAt_iff h.bounds]
  unfold leavingMinute secondOfDay Int.ModEq
  obtain ⟨h₀, hlt, hstart, hend⟩ := h.bounds
  cases inside with
  | true =>
    simp only [if_true]
    omega
  | false =>
    simp only [Bool.false_eq_true, if_false]
    omega

theorem ringsAtBoundaries_of_triggers (hclock : KeepsTime offset clock) (hdate : Datable clock)
    (h : AcceptedTimes times)
    (halarms : m.SoleAlarms userId (toUInt64 times.1, toUInt64 times.2)
      (setTimerTriggerTime clock (toUInt64 times.1) (toUInt64 times.2)) callback) :
    RingsAtBoundaries offset times m clock.timestamp := by
  have hregular : clock.timestamp = clock.midnight + clock.secondOfDay := hclock.2.1
  have hbounds := h.bounds
  have hstartCast : (toUInt64 times.1 : ℤ) = times.1 := by
    rw [toUInt64_of_nonneg hbounds.1 h.1]
    omega
  have hendCast : (toUInt64 times.2 : ℤ) = times.2 := by
    rw [toUInt64_of_nonneg (by omega) h.2.1]
    omega
  obtain ⟨hstart, hend⟩ := TriggerTimes.setTimerTriggerTime_cast h.2.2 (by have := hdate.1; omega)
    (by omega) hdate.2 fun _ => by have := hdate.1; omega
  obtain ⟨hfrom, hafter⟩ := TriggerTimes.triggerSeconds_next h.2.2 hclock.2.1
  rw [hstartCast] at hfrom
  rw [hendCast] at hafter
  have hmilli (t T : ℤ) : (∃ n : ℕ, t * 1000 = T * 1000 + n * dayToMilli) ↔
      ∃ n : ℕ, t = T + n * 86400 := by
    refine exists_congr fun n => ?_
    unfold dayToMilli
    omega
  intro t ht
  rw [halarms.sounds_iff, hstart, hend, hmilli, hmilli, hfrom.exists_add_mul_iff (by decide),
    hafter.exists_add_mul_iff (by decide), Bool.exists_bool, leavesAt_iff_modEq hclock h,
    leavesAt_iff_modEq hclock h]
  simp only [Bool.false_eq_true, if_false, if_true, ht, ht.le, true_and]

/-- Where nothing is armed, arming an accepted schedule arms it. -/
theorem soleAlarms_scheduleTimers {env : Env} {context : AccountContext} (hworking : Working env)
    (h : AcceptedTimes times) (hnone : m.Unarmed) :
    (Service.scheduleTimers env context m times).SoleAlarms context.buildTimerKey
      (toUInt64 times.1, toUInt64 times.2)
      (setTimerTriggerTime env.clock (toUInt64 times.1) (toUInt64 times.2))
      (.schedule times.1 times.2 context) := by
  unfold Service.scheduleTimers
  dsimp only
  rw [setScheduleTime_eq hworking h.2.2, if_pos rfl]
  exact soleAlarms_withTimers hworking hnone ..

end Triggers

/-- As before, but what has to be handled first is what rings. -/
def Delivered (offset : ℤ) (context : AccountContext) (times : ℤ × ℤ) (w : Watch)
    (e : Env × Event) : Prop :=
  Admits (Quiet w e.1.clock.timestamp) offset context times w e

section Runs

variable {offset : ℤ} {context : AccountContext} {times : ℤ × ℤ} {w : Watch}

/-- Where nothing rings, no boundary is passed. -/
theorem Armed.calm (h : Armed offset context times w) (hproper : Proper times) {instant : ℤ}
    (hquiet : Quiet w instant) : Calm offset times w.now instant := by
  refine ⟨hquiet.1, fun inside => ?_⟩
  by_contra hpassed
  obtain ⟨hleaves, hlow, -⟩ := @leavesAt_leavingAfter offset times hproper inside w.now
  exact hquiet.2 _ hlow (Int.not_lt.mp hpassed) ((h.rings _ hlow).mpr ⟨inside, hleaves⟩)

/-- Later on, the timers that are left as they are still ring at the boundaries. -/
theorem Armed.of_same (h : Armed offset context times w) {w' : Watch} (hnow : w.now ≤ w'.now)
    (htimers : w'.service.alarmTimerManager = w.service.alarmTimerManager) :
    Armed offset context times w' := by
  refine ⟨?_, fun t ht => ?_⟩
  · rw [htimers]
    exact h.alarms
  · rw [htimers]
    exact h.rings t (hnow.trans_lt ht)

/-- An admitted event leaves the timers alone, or is a change of the time. -/
theorem alarmTimerManager_of_admits {calm : Prop} {e : Env × Event}
    (h : Admits calm offset context times w e) :
    e.2 = .timeChanged ∨ (w.next e).service.alarmTimerManager = w.service.alarmTimerManager := by
  obtain ⟨env, event⟩ := e
  cases event with
  | timeChanged => exact .inl rfl
  | timerFired callback => exact .inr (Service.alarmTimerManager_timerFired ..)
  | setDarkMode mode => exact .inr (Service.alarmTimerManager_setDarkMode ..)
  | setFontScale fontScale => exact .inr (Service.alarmTimerManager_setFont ..)
  | setFontWeightScale fontWeightScale => exact .inr (Service.alarmTimerManager_setFont ..)
  | screenOff => exact .inr (Service.alarmTimerManager_screenOffCallback ..)
  | screenOn => exact .inr rfl
  | setSettingData key value => exact .inr rfl
  | settingWritten userId key value => exact .inr rfl
  | onRemoveSystemAbility => exact .inr rfl
  | _ => exact h.elim

/-- Only a change of the time may move the clock back. -/
theorem Admits.now_le {calm : Prop} {e : Env × Event} (h : Admits calm offset context times w e)
    (hcalm : calm → w.now ≤ e.1.clock.timestamp) (hevent : e.2 ≠ .timeChanged) :
    w.now ≤ e.1.clock.timestamp := by
  obtain ⟨env, event⟩ := e
  cases event with
  | timeChanged => exact absurd rfl hevent
  | timerFired callback =>
    cases callback with
    | recalculation context' => exact hcalm h
    | schedule startTime endTime context' =>
      have hrest := h.2
      split_ifs at hrest
      · exact hrest.1
      · exact hcalm hrest
  | setDarkMode mode => exact hcalm h.1
  | screenOn => exact hcalm h
  | screenOff => exact hcalm h
  | setFontScale fontScale => exact hcalm h
  | setFontWeightScale fontWeightScale => exact hcalm h
  | setSettingData key value => exact hcalm h
  | settingWritten userId key value => exact hcalm h
  | onRemoveSystemAbility => exact hcalm h
  | _ => exact h.elim

theorem armed_next (hproper : AcceptedTimes times) (hkey : context.buildTimerKey ≠ 0)
    (h : Armed offset context times w)
    (hmode : (w.service.stateOf context).settingMode.isSchedule = true) {e : Env × Event}
    (hclock : KeepsTime offset e.1.clock) (hdate : Datable e.1.clock)
    (he : Delivered offset context times w e) : Armed offset context times (w.next e) := by
  by_cases hevent : e.2 = .timeChanged
  · obtain ⟨env, event⟩ := e
    obtain rfl : event = .timeChanged := hevent
    obtain ⟨triggers, halarms⟩ := h.alarms
    have hrestarted := @SoleAlarms.restartAllTimer _ env _ _ _ _ _ halarms hkey
    have htimers : (w.service.restartTimer env).alarmTimerManager =
        (w.service.alarmTimerManager.restartAllTimer env).1 := by
      rw [Service.alarmTimerManager_restartTimer, he.1, if_pos hmode]
    rw [← htimers] at hrestarted
    exact ⟨⟨_, hrestarted⟩, ringsAtBoundaries_of_triggers hclock hdate hproper hrestarted⟩
  · have hkept := (alarmTimerManager_of_admits he).resolve_left hevent
    exact h.of_same (Admits.now_le he (fun hquiet => hquiet.1) hevent) hkept

/-- In every run in which no timer of the armed schedule rings unheard, every boundary is handled
in time, and the timers go on to ring at the boundaries. -/
theorem alarms_punctual {m : AlarmTimerManager TimerCallback} {env : Env}
    (hproper : AcceptedTimes times) (hkey : context.buildTimerKey ≠ 0) (hnone : m.Unarmed)
    (hworking : Working env) (hclock : KeepsTime offset env.clock) (hdate : Datable env.clock)
    (hw : InOrder offset context times w) (hnow : w.now = env.clock.timestamp)
    (harmed : w.service.alarmTimerManager = Service.scheduleTimers env context m times) {es : Run}
    (hok : Along Watch.next (fun w e => Attends offset context e.1 ∧ Datable e.1.clock ∧
      Delivered offset context times w e) w es) :
    Along Watch.next (fun w e => Attends offset context e.1 ∧ Punctual offset context times w e)
        w es ∧
      RingsAtBoundaries offset times (exec Watch.next w es).service.alarmTimerManager
        (exec Watch.next w es).now := by
  have hstart : Armed offset context times w := by
    have halarms := @soleAlarms_scheduleTimers _ m env context hworking hproper hnone
    rw [← harmed] at halarms
    refine ⟨⟨_, halarms⟩, ?_⟩
    rw [hnow]
    exact ringsAtBoundaries_of_triggers hclock hdate hproper halarms
  have hpunctual (w : Watch) (e : Env × Event) (h : Armed offset context times w)
      (he : Delivered offset context times w e) : Punctual offset context times w e :=
    Admits.mono he (h.calm hproper.bounds)
  have hstep (w : Watch) (e : Env × Event)
      (h : (∃ d, Shows offset context times w d) ∧ Armed offset context times w)
      (he : Attends offset context e.1 ∧ Datable e.1.clock ∧
        Delivered offset context times w e) :
      (∃ d, Shows offset context times (w.next e) d) ∧ Armed offset context times (w.next e) := by
    obtain ⟨⟨d, hshows⟩, harmed⟩ := h
    obtain ⟨hattends, hdate, hdelivered⟩ := he
    refine ⟨⟨_, shows_next hproper w d e hshows ⟨hattends, hpunctual w e harmed hdelivered⟩⟩, ?_⟩
    exact armed_next hproper hkey harmed hshows.follows.mode hattends.time hdate hdelivered
  refine ⟨along_of_invariant hstep ?_ ⟨⟨_, hw.shows⟩, hstart⟩ hok, ?_⟩
  · intro w e h he
    exact ⟨he.1, hpunctual w e h.2 he.2.2⟩
  · exact (exec_invariant hstep ⟨⟨_, hw.shows⟩, hstart⟩ hok).2.rings

end Runs

open Scenario

/-- The first night begins and ends, and in the next afternoon the time is changed. -/
def nightAndDay : Run :=
  [(clockAt 1 72001 (by decide), .timerFired (.schedule 1200 1920 account)),
    (clockAt 2 28802 (by decide), .timerFired (.schedule 1200 1920 account)),
    (clockAt 2 50400 (by decide), .timeChanged)]

theorem nightAndDay_punctual :
    RingsAtBoundaries 0 (1200, 1920) (exec Watch.next afternoon nightAndDay).service.alarmTimerManager
      223200 := by
  have hlast {n minute second : ℤ} (hn : n ≤ 86400) (h : n ≤ (minute * 60 - 1 - second) % 86400) :
      ¬EarlyTimers.InLastSeconds n minute second :=
    (EarlyTimers.inLastSeconds_iff hn).not.mpr (Int.not_lt.mpr h)
  have hproper : AcceptedTimes (1200, 1920) := by decide
  have hw : InOrder 0 account (1200, 1920) afternoon :=
    ⟨by decide, by decide, by decide, by decide, by decide, by decide⟩
  have hworking : Working (clockAt 1 43740 (by decide)) := by
    refine ⟨?_, ?_, fun _ => rfl, fun _ => rfl⟩
    · intro name
      exact Nat.succ_ne_zero _
    · intro name name' hsame
      cases name <;> cases name' <;> first | rfl | cases hsame
  have hnone : ({} : AlarmTimerManager TimerCallback).Unarmed :=
    ⟨rfl, fun _ _ h => by cases h⟩
  have harmed : afternoon.service.alarmTimerManager =
      Service.scheduleTimers (clockAt 1 43740 (by decide)) account {} (1200, 1920) := rfl
  have hok : Along Watch.next (fun w e => Attends 0 account e.1 ∧ Datable e.1.clock ∧
      Delivered 0 account (1200, 1920) w e) afternoon nightAndDay :=
    ⟨⟨attends_clockAt .., by decide, rfl, by decide, by decide, hlast (by decide) (by decide),
        hlast (by decide) (by decide)⟩,
      ⟨attends_clockAt .., by decide, rfl, by decide, by decide, hlast (by decide) (by decide),
        hlast (by decide) (by decide)⟩,
      ⟨attends_clockAt .., by decide, by decide, by decide, by decide⟩, trivial⟩
  exact (alarms_punctual hproper (by decide) hnone hworking (attends_clockAt ..).time (by decide) hw
    (by decide) harmed hok).2

end AlarmClock
end UiAppearance
