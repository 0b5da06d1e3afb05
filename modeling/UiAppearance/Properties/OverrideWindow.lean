import UiAppearance.Ability.Simulation
import UiAppearance.DarkMode.Overrides
import UiAppearance.Foundations.DailyInterval

/-!
# The window of an override and the schedule in force

The window is computed once, from the schedule at the time of the choice, and
ends where that schedule leaves the chosen colour. It stays in step with the
schedule in force as long as every event that replaces the schedule either ends
the override as well or keeps the minute at which the chosen colour is left.
Sun notifications do neither: they move that minute and leave the window.
-/

namespace UiAppearance
namespace OverrideWindow

open Transition AlarmTimerManager DailyInterval Scenario

/-- The clock can be read, and local time is at a fixed offset from it. -/
def KeepsTime (offset : ℤ) (clock : Clock) : Prop :=
  clock.failed = false ∧ clock.Regular ∧
    (clock.secondOfDay : ℤ) = secondOfDay offset clock.timestamp

instance (offset : ℤ) (clock : Clock) : Decidable (KeepsTime offset clock) :=
  inferInstanceAs (Decidable (_ ∧ clock.timestamp = clock.midnight + clock.secondOfDay ∧ _))

section Window

variable {offset : ℤ} {clock : Clock} {times : ℤ × ℤ}

theorem within_eq_covers (hread : clock.failed = false) (h : AcceptedTimes times) :
    DarkModeState.within clock times = covers times clock.minuteOfDay := by
  obtain ⟨h₀, hlt, -, -⟩ := h.bounds
  exact DarkModeState.within_eq_covers hread ⟨h₀, h.1⟩ ⟨by omega, h.2.1⟩

/-- From inside, the window ends at the start, today or tomorrow, from outside at the end. -/
theorem windowEndMinute_eq (hread : clock.failed = false) (times : ℤ × ℤ) :
    TemporaryColorMode.windowEndMinute clock times.1 times.2 =
      if DarkModeState.within clock times then
        if 1440 < times.2 ∧ (clock.minuteOfDay : ℤ) ≤ times.1 then times.1 else times.1 + 1440
      else if 1440 < times.2 ∨ (clock.minuteOfDay : ℤ) ≤ times.1 then times.2
      else times.2 + 1440 := by
  have hbefore : TemporaryColorMode.isWithInPreInterval clock times.1 =
      decide ((clock.minuteOfDay : ℤ) ≤ times.1) := by
    simp [TemporaryColorMode.isWithInPreInterval, hread]
  have hsame : isWithinTimeInterval clock (toUInt64 times.1) (toUInt64 times.2) =
      DarkModeState.within clock times := rfl
  unfold TemporaryColorMode.windowEndMinute
  simp only [hsame, hbefore]
  cases DarkModeState.within clock times with
  | true => by_cases hday : 1440 < times.2 <;> simp [hday]
  | false => by_cases hday : 1440 < times.2 <;> simp [hday]

/-- The minute the window ends at is one at which the schedule leaves the chosen colour, and
it is at most a day away. -/
theorem windowEndMinute_leaves (hread : clock.failed = false) (h : AcceptedTimes times) :
    TemporaryColorMode.windowEndMinute clock times.1 times.2 % 1440 =
        leavingMinute times (!DarkModeState.within clock times) ∧
      TemporaryColorMode.windowEndMinute clock times.1 times.2 ≤ clock.minuteOfDay + 1440 := by
  obtain ⟨h₀, hlt, hstart, hend⟩ := h.bounds
  have hm := clock.minuteOfDay_lt
  have hwithin : covers times clock.minuteOfDay = true ↔ _ := covers_eq_true
  rw [← within_eq_covers hread h] at hwithin
  rw [windowEndMinute_eq hread]
  unfold leavingMinute
  cases hw : DarkModeState.within clock times with
  | true =>
    simp only [hw, true_iff] at hwithin
    simp only [Bool.not_true, Bool.false_eq_true, if_false, if_true]
    split_ifs <;> omega
  | false =>
    simp only [hw, Bool.false_eq_true, false_iff] at hwithin
    simp only [Bool.not_false, Bool.false_eq_true, if_false, if_true]
    split_ifs <;> omega

theorem overrideRecord_end (hread : clock.failed = false) (times : ℤ × ℤ) (oldEnd : ℤ) :
    (Core.overrideRecord clock times oldEnd).keepTemporaryStateEndTime =
      clock.midnight + TemporaryColorMode.windowEndMinute clock times.1 times.2 * 60 - 1 := by
  simp [Core.overrideRecord, TemporaryColorMode.getTempColorModeTimeInfo,
    TemporaryColorMode.calcEndTimestamp, hread]

/-- The record of an override ends just before the schedule leaves the chosen colour, and no
such instant lies between its start and its end. -/
theorem overrideRecord_leaves (hclock : KeepsTime offset clock) (h : AcceptedTimes times)
    {isDarkMode : Bool} (hagainst : DarkModeState.within clock times ≠ isDarkMode) (oldEnd : ℤ) :
    let r := Core.overrideRecord clock times oldEnd
    LeavesAt offset times isDarkMode (r.keepTemporaryStateEndTime + 1) ∧
      r.keepTemporaryStateEndTime < r.keepTemporaryStateStartTime + 86400 := by
  obtain ⟨hread, hregular, hlocal⟩ := hclock
  have hside : (!DarkModeState.within clock times) = isDarkMode := by
    cases hd : DarkModeState.within clock times <;> cases isDarkMode <;> simp_all
  have hleaves := windowEndMinute_leaves hread h
  rw [hside] at hleaves
  have hend := overrideRecord_end hread times oldEnd
  have hstart : (Core.overrideRecord clock times oldEnd).keepTemporaryStateStartTime =
      clock.timestamp := rfl
  have hminute : clock.minuteOfDay = clock.secondOfDay / 60 := rfl
  unfold Clock.Regular at hregular
  unfold secondOfDay at hlocal
  simp only [hend, hstart]
  rw [leavesAt_iff h.bounds]
  unfold secondOfDay
  constructor <;> omega

end Window

/-- The window of a record ends where an accepted schedule first leaves the given colour. -/
structure WindowFits (offset : ℤ) (r : TempColorModeInfo) (isDarkMode : Bool)
    (state : DarkModeState) : Prop where
  schedule : state.settingMode.isSchedule = true
  accepted : AcceptedTimes state.scheduleTime
  leaves : LeavesAt offset state.scheduleTime isDarkMode (r.keepTemporaryStateEndTime + 1)
  first : r.keepTemporaryStateEndTime < r.keepTemporaryStateStartTime + 86400

/-- A recorded override is in step with the settings in memory. -/
def InStep (offset : ℤ) (context : AccountContext) (k : Core) : Prop :=
  (k.overrideOf context).isTemporary = true →
    ∃ isDarkMode ∈ Core.lastChosen context k.decisions,
      WindowFits offset (k.overrideOf context) isDarkMode (k.stateOf context)

/-- A notification with these settings ends an override of its context. -/
def Ends (k : Core) (env : Env) (item : SettingItem) (context : AccountContext)
    (state : DarkModeState) : Prop :=
  k.hasUpdateCallback = true ∧ state.actionable env = true ∧
    (item.resets = true ∨
      k.follows env.clock context = true ∧ k.screen.isScreenOff = true)

/-- New settings leave the chosen colour at the same minute as the old ones. -/
def SameLeaving (k : Core) (context : AccountContext) (state : DarkModeState) : Prop :=
  state.settingMode.isSchedule = true ∧ AcceptedTimes state.scheduleTime ∧
    ∀ isDarkMode ∈ Core.lastChosen context k.decisions,
      leavingMinute state.scheduleTime isDarkMode =
        leavingMinute (k.stateOf context).scheduleTime isDarkMode

/-- The move keeps the window and the schedule of the context together: a notification ends
the override or keeps the minute, a load finds settings that fit the saved window, and a
choice is made against an accepted schedule with a clock that can be read. -/
def Follows (offset : ℤ) (context : AccountContext) (k : Core) : Move → Prop
  | .observe env item context' state =>
    context' = context → (k.overrideOf context).isTemporary = true →
      Ends k env item context state ∨ SameLeaving k context state
  | .load env context' state info _ _ =>
    context' = context → info.effective env.clock = true →
      ∃ isDarkMode ∈ Core.lastChosen context k.decisions, WindowFits offset info isDarkMode state
  | .choose clock isDarkMode contexts =>
    context ∈ contexts → (k.stateOf context).settingMode.isSchedule = true →
      DarkModeState.within clock (k.stateOf context).scheduleTime ≠ isDarkMode →
        AcceptedTimes (k.stateOf context).scheduleTime ∧ KeepsTime offset clock
  | _ => True

section Decidable

variable (offset : ℤ) (context : AccountContext) (k : Core)

instance (r : TempColorModeInfo) (isDarkMode : Bool) (state : DarkModeState) :
    Decidable (WindowFits offset r isDarkMode state) :=
  decidable_of_iff (state.settingMode.isSchedule = true ∧ AcceptedTimes state.scheduleTime ∧
      LeavesAt offset state.scheduleTime isDarkMode (r.keepTemporaryStateEndTime + 1) ∧
      r.keepTemporaryStateEndTime < r.keepTemporaryStateStartTime + 86400)
    ⟨fun h => ⟨h.1, h.2.1, h.2.2.1, h.2.2.2⟩, fun h => ⟨h.1, h.2, h.3, h.4⟩⟩

instance (env : Env) (item : SettingItem) (state : DarkModeState) :
    Decidable (Ends k env item context state) :=
  inferInstanceAs (Decidable (_ ∧ _ ∧ (_ ∨ _ ∧ _)))

instance (state : DarkModeState) : Decidable (SameLeaving k context state) :=
  inferInstanceAs (Decidable (_ ∧ _ ∧ ∀ isDarkMode ∈ Core.lastChosen context k.decisions, _))

instance : ∀ m, Decidable (Follows offset context k m)
  | .observe .. => inferInstanceAs (Decidable (_ → _ → _ ∨ _))
  | .load .. => inferInstanceAs (Decidable (_ → _ → ∃ isDarkMode ∈ Core.lastChosen context k.decisions, _))
  | .choose .. => inferInstanceAs (Decidable (_ → _ → _ → _ ∧ _))
  | .idle => isTrue trivial
  | .update .. => isTrue trivial
  | .screenOn => isTrue trivial
  | .screenOff => isTrue trivial
  | .install => isTrue trivial
  | .restart => isTrue trivial

end Decidable

section Moves

variable {offset : ℤ} {context context' : AccountContext} {k k' : Core}

/-- A window that fits is over whenever the schedule leaves the chosen colour. -/
theorem WindowFits.not_effective {r : TempColorModeInfo} {isDarkMode : Bool}
    {state : DarkModeState} (h : WindowFits offset r isDarkMode state) {clock : Clock}
    (hleaves : LeavesAt offset state.scheduleTime isDarkMode clock.timestamp) :
    r.effective clock = false := by
  by_contra heffective
  simp only [Bool.not_eq_false, TempColorModeInfo.effective, Bool.and_eq_true,
    decide_eq_true_eq] at heffective
  obtain ⟨⟨-, hstart⟩, hend⟩ := heffective
  have hday := hleaves.day_apart h.accepted.bounds h.leaves (by omega)
  have hfirst := h.first
  omega

theorem InStep.of_endsAtMost (hk : InStep offset context k) (h : Core.EndsAtMost context k k') :
    InStep offset context k' := by
  intro htemp
  rcases h.override with hsame | hended
  · rw [hsame] at htemp ⊢
    rw [h.state, h.chosen]
    exact hk htemp
  · rw [hended] at htemp
    cases htemp

/-- A notification that ends the override does so. -/
theorem Ends.observe {env : Env} {item : SettingItem} {state : DarkModeState}
    (h : Ends k env item context state) :
    ((k.observe env item context state).overrideOf context).isTemporary = false := by
  obtain ⟨hcallback, hactionable, hway⟩ := h
  have hstate : (k.setState context state).stateOf context = state := by simp [Core.setState]
  have hfollows : (k.setState context state).follows env.clock context =
      k.follows env.clock context := rfl
  have hscreen : (k.setState context state).screen.isScreenOff = k.screen.isScreenOff := rfl
  have hcallback' : (k.setState context state).reset.hasUpdateCallback = true := hcallback
  unfold Core.observe Core.react Core.update
  rw [hstate, hactionable, hfollows, hscreen]
  simp only [Bool.and_self, if_true]
  rcases hway with hresets | ⟨hfollow, hoff⟩
  · rw [if_pos hresets]
    exact Core.change_ends hcallback' _
  · split_ifs
    · exact Core.change_ends hcallback' _
    · simp_all
    · exact Core.change_ends hcallback' _
    · simp_all

theorem inStep_setState {state : DarkModeState} (hk : InStep offset context k)
    (hsame : (k.overrideOf context).isTemporary = true → SameLeaving k context state) :
    InStep offset context (k.setState context state) := by
  intro htemp
  obtain ⟨isDarkMode, hchosen, hfits⟩ := hk htemp
  obtain ⟨hschedule, haccepted, hminute⟩ := hsame htemp
  have hstate : (k.setState context state).stateOf context = state := by simp [Core.setState]
  refine ⟨isDarkMode, hchosen, ?_⟩
  rw [hstate]
  refine ⟨hschedule, haccepted, ?_, hfits.first⟩
  rw [leavesAt_iff haccepted.bounds, hminute isDarkMode hchosen]
  exact (leavesAt_iff hfits.accepted.bounds).mp hfits.leaves

theorem inStep_observe {env : Env} {item : SettingItem} {state : DarkModeState}
    (hk : InStep offset context k)
    (hm : Follows offset context k (.observe env item context' state)) :
    InStep offset context (k.observe env item context' state) := by
  by_cases hsame : context' = context
  · subst hsame
    by_cases hends : Ends k env item context' state
    · intro htemp
      rw [hends.observe] at htemp
      cases htemp
    · have hset : InStep offset context' (k.setState context' state) :=
        inStep_setState hk fun htemp => (hm rfl htemp).resolve_left hends
      exact hset.of_endsAtMost (Core.endsAtMost_react ..)
  · have hset := Core.endsAtMost_setState_of_ne (Ne.symm hsame) k state
    exact hk.of_endsAtMost (hset.trans (Core.endsAtMost_react ..))

theorem inStep_load {env : Env} {state : DarkModeState} {info : TempColorModeInfo}
    {needUpdateCallback bootLoadFlag : Bool} (hk : InStep offset context k)
    (hm : Follows offset context k
      (.load env context' state info needUpdateCallback bootLoadFlag)) :
    InStep offset context (k.load env context' state info needUpdateCallback bootLoadFlag) := by
  have hrest (k' : Core) : Core.EndsAtMost context k'
      (k'.reset.react env context' needUpdateCallback false bootLoadFlag) :=
    (Core.endsAtMost_reset k').trans (Core.endsAtMost_react ..)
  unfold Core.load
  by_cases hsame : context' = context
  · subst hsame
    refine InStep.of_endsAtMost ?_ (hrest _)
    intro htemp
    simp only [Core.setOverride, Core.setState, Function.update_self] at htemp ⊢
    unfold Core.loadedRecord at htemp ⊢
    split_ifs at htemp ⊢ with hdropped
    · cases htemp
    · simp only [htemp, Bool.true_and, Bool.not_eq_true', Bool.not_eq_false] at hdropped
      exact hm rfl hdropped
  · have hset := Core.endsAtMost_setState_of_ne (Ne.symm hsame) k state
    have hoverride := Core.endsAtMost_setOverride_of_ne (Ne.symm hsame) (k.setState context' state)
      (Core.loadedRecord env.clock info)
    exact hk.of_endsAtMost ((hset.trans hoverride).trans (hrest _))

theorem inStep_choose {clock : Clock} {isDarkMode : Bool} (hk : InStep offset context k)
    (hm : context' = context → (k.stateOf context).settingMode.isSchedule = true →
      DarkModeState.within clock (k.stateOf context).scheduleTime ≠ isDarkMode →
        AcceptedTimes (k.stateOf context).scheduleTime ∧ KeepsTime offset clock) :
    InStep offset context (k.choose clock context' isDarkMode) := by
  unfold Core.choose
  dsimp only
  split_ifs with hmode hagrees
  · exact hk
  · have hreset : Core.EndsAtMost context k k.reset := Core.endsAtMost_reset k
    exact hk.of_endsAtMost (hreset.trans (Core.endsAtMost_setOverride_normal _ context'))
  · by_cases hsame : context' = context
    · subst hsame
      have hschedule : (k.stateOf context').settingMode.isSchedule = true := by simpa using hmode
      obtain ⟨haccepted, hclock⟩ := hm rfl hschedule hagrees
      have hleaves := overrideRecord_leaves hclock haccepted hagrees
        (k.overrideOf context').keepTemporaryStateEndTime
      intro _
      refine ⟨isDarkMode, ?_, ?_⟩
      · simp [Core.emit, Core.lastChosen]
      · simp only [Core.emit, Core.setOverride, Core.reset, Function.update_self]
        exact ⟨hschedule, haccepted, hleaves.1, hleaves.2⟩
    · have hoverride := (Core.endsAtMost_reset k).trans
        (Core.endsAtMost_setOverride_of_ne (Ne.symm hsame) k.reset (Core.overrideRecord clock
          (k.stateOf context').scheduleTime (k.overrideOf context').keepTemporaryStateEndTime))
      have hemit (k' : Core) : Core.EndsAtMost context k'
          (k'.emit (.setColorModeTemporary isDarkMode context')) :=
        ⟨rfl, by simp [Core.emit, Core.lastChosen, hsame], .inl rfl⟩
      exact hk.of_endsAtMost (hoverride.trans (hemit _))

/-- One event keeps the window in step under the stated condition. -/
theorem inStep_next (offset : ℤ) (context : AccountContext) (k : Core) (m : Move)
    (hk : InStep offset context k) (hm : Follows offset context k m) :
    InStep offset context (k.next m) := by
  cases m with
  | idle => exact hk
  | observe env item context' state => exact inStep_observe hk hm
  | update clock isDarkMode context' => exact hk.of_endsAtMost (Core.endsAtMost_update ..)
  | load env context' state info needUpdateCallback bootLoadFlag => exact inStep_load hk hm
  | choose clock isDarkMode contexts =>
    simp only [Core.next]
    induction contexts generalizing k with
    | nil => exact hk
    | cons head rest ih =>
      refine ih _ (inStep_choose hk ?_) ?_
      · rintro rfl
        exact hm List.mem_cons_self
      · intro hmem
        rw [Core.stateOf_choose]
        exact hm (List.mem_cons_of_mem head hmem)
  | screenOn => exact hk
  | screenOff => exact hk.of_endsAtMost (Core.endsAtMost_screenOff k)
  | install => exact hk
  | restart =>
    intro htemp
    cases htemp

end Moves

/-- In every run whose events keep window and schedule together, a recorded override ends where
the schedule in force first leaves the chosen colour, and it is over whenever that happens. -/
theorem window_inStep (offset : ℤ) (context : AccountContext)
    {parameters : Table String String} {tables : ℤ → Table String String} {es : Run}
    (hok : Along Service.step (fun s e => Follows offset context s.core (s.moveOf e))
      (Service.start parameters tables) es) :
    let k := (exec Service.step (Service.start parameters tables) es).core
    (k.overrideOf context).isTemporary = true →
      ∃ isDarkMode ∈ Core.lastChosen context k.decisions,
        LeavesAt offset (k.stateOf context).scheduleTime isDarkMode
            ((k.overrideOf context).keepTemporaryStateEndTime + 1) ∧
          ∀ clock : Clock,
            LeavesAt offset (k.stateOf context).scheduleTime isDarkMode clock.timestamp →
              (k.overrideOf context).effective clock = false := by
  intro k htemp
  have hstart : InStep offset context (Service.start parameters tables).core := by
    intro h
    cases h
  obtain ⟨isDarkMode, hchosen, hfits⟩ :=
    Service.core_exec_invariant (inStep_next offset context) hstart hok htemp
  exact ⟨isDarkMode, hchosen, hfits.leaves, fun clock => hfits.not_effective⟩

/-- Local time is universal time here; day 0 starts at instant 0. -/
def clockAt (day secondOfDay : ℕ) (h : secondOfDay < 86400) : Env :=
  { clock := ⟨day * 86400 + secondOfDay, secondOfDay, day * 86400, h⟩ }

def sunRow (userId : ℤ) (key : String) : Option String :=
  if userId ≠ 100 then none
  else if key = SettingItem.mode.key then some "3"
  else if key = SettingItem.sunset.key then some "1080"
  else if key = SettingItem.sunrise.key then some "1860"
  else none

/-- At eight in the evening the user chooses light, until sunset at 18:00 the next day. -/
def lightEvening : Run :=
  [(clockAt 0 72000 (by decide), .onAddSystemAbility),
    (clockAt 0 72000 (by decide), .bootCompleted),
    (clockAt 0 72000 (by decide), .setDarkMode 1)]

/-- Just after noon of the next day one of the two times is recalculated. -/
def recalculated (item : SettingItem) (value : String) : Run :=
  [(clockAt 1 43260 (by decide), .settingWritten 100 item.key (some value)),
    (clockAt 1 43260 (by decide), .settingChanged ⟨item, account⟩)]

def after (es : Run) : Service :=
  exec Service.step (Service.start Table.empty sunRow) (lightEvening ++ es)

/-- With the sunset two minutes earlier, the timer at 17:58 finds the override effective and
nothing happens, although the schedule turns dark at that instant and not at 18:00. -/
theorem earlierSunset_dropped :
    let s := after (recalculated .sunset "1078")
    (s.stateOf account).settingMode = .sunriseSunset ∧
      (s.stateOf account).scheduleTime = (1078, 1860) ∧ AcceptedTimes (1078, 1860) ∧
      (s.tempInfoOf account).isTemporary = true ∧
      ¬LeavesAt 0 (1078, 1860) false ((s.tempInfoOf account).keepTemporaryStateEndTime + 1) ∧
      LeavesAt 0 (1078, 1860) false (clockAt 1 64680 (by decide)).clock.timestamp ∧
      s.checkTemporaryStateEffective (clockAt 1 64680 (by decide)) account = true ∧
      (s.step (clockAt 1 64680 (by decide),
        .timerFired (.schedule 1078 1860 account))).core.decisions = s.core.decisions := by
  decide

/-- A new sunrise does not concern an override that ends at sunset. -/
theorem laterSunrise_inStep :
    ∃ isDarkMode ∈ Core.lastChosen account (after (recalculated .sunrise "1870")).core.decisions,
      LeavesAt 0 (1080, 1870) isDarkMode 151200 ∧
        ∀ clock : Clock, LeavesAt 0 (1080, 1870) isDarkMode clock.timestamp →
          ((after (recalculated .sunrise "1870")).core.overrideOf account).effective clock =
            false := by
  have hok : Along Service.step (fun s e => Follows 0 account s.core (s.moveOf e))
      (Service.start Table.empty sunRow) (lightEvening ++ recalculated .sunrise "1870") := by
    decide
  exact window_inStep 0 account hok (by decide)

end OverrideWindow
end UiAppearance
