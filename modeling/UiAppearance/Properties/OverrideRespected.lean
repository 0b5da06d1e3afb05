import UiAppearance.Ability.Simulation

/-!
# An effective override is respected

While the clock is strictly inside the window of a recorded override, boundary
timers, restarts, sun notifications, loads and the screen leave the colour of
its user and the record alone. The window is open at its start: an event that
reads the same second in which the override was recorded finds it not
effective, follows the schedule and ends it.
-/

namespace UiAppearance
namespace OverrideRespected

open Transition Scenario

/-- The callback is called with the user only. -/
def isUpdateOf (userId : ℤ) : Effect → Bool
  | .updateCallback _ context => context.userId = userId
  | .setScreenOffOperateInfo .. => false
  | .setColorModeTemporary .. => false
  | .updateConfiguration .. => false

/-- The calls of the update callback for the user of a context. -/
def updatesOf (context : AccountContext) (k : Core) : List Effect :=
  k.decisions.filter (isUpdateOf context.userId)

/-- The record is there, nothing is pending for its user, and the calls are the given ones. -/
structure Kept (context : AccountContext) (r : TempColorModeInfo) (updates : List Effect)
    (k : Core) : Prop where
  recorded : k.overrideOf context = r
  notPending : k.screen.haveScreenOffOperate = true → k.screen.userId ≠ context.userId
  calls : updatesOf context k = updates

/-- The event works on this context, or on one of another user. -/
def Apart (context context' : AccountContext) : Prop :=
  context' = context ∨ context'.userId ≠ context.userId

/-- The clock can be read, strictly after `lo` and before `hi`. -/
def Between (lo hi : ℤ) (clock : Clock) : Prop :=
  clock.failed = false ∧ lo < clock.timestamp ∧ clock.timestamp < hi

instance (context context' : AccountContext) : Decidable (Apart context context') :=
  inferInstanceAs (Decidable (_ ∨ _))

instance (lo hi : ℤ) (clock : Clock) : Decidable (Between lo hi clock) :=
  inferInstanceAs (Decidable (_ ∧ _ ∧ _))

/-- The events the window has to withstand. Those that consult the record read the clock
inside the window, and a load finds the record among the saved parameters. -/
def Withstood (context : AccountContext) (r : TempColorModeInfo) : Move → Prop
  | .idle => True
  | .observe env item context' _ =>
    Apart context context' ∧ (context' = context → item.resets = false ∧
      Between r.keepTemporaryStateStartTime r.keepTemporaryStateEndTime env.clock)
  | .update clock _ context' =>
    Apart context context' ∧ (context' = context →
      Between r.keepTemporaryStateStartTime r.keepTemporaryStateEndTime clock)
  | .load env context' _ info _ _ =>
    Apart context context' ∧ (context' = context → info = r ∧
      Between r.keepTemporaryStateStartTime r.keepTemporaryStateEndTime env.clock)
  | .choose _ _ contexts => ∀ context' ∈ contexts, context'.userId ≠ context.userId
  | .screenOn => True
  | .screenOff => True
  | .install => True
  | .restart => False

instance (context : AccountContext) (r : TempColorModeInfo) : ∀ m, Decidable (Withstood context r m)
  | .idle => isTrue trivial
  | .observe .. => inferInstanceAs (Decidable (_ ∧ (_ → _ ∧ _)))
  | .update .. => inferInstanceAs (Decidable (_ ∧ (_ → _)))
  | .load .. => inferInstanceAs (Decidable (_ ∧ (_ → _ ∧ _)))
  | .choose _ _ contexts => inferInstanceAs (Decidable (∀ context' ∈ contexts, _))
  | .screenOn => isTrue trivial
  | .screenOff => isTrue trivial
  | .install => isTrue trivial
  | .restart => isFalse id

section Moves

variable {context context' : AccountContext} {r : TempColorModeInfo} {updates : List Effect}
  {k : Core}

theorem effective_of_between {clock : Clock} (htemp : r.isTemporary = true)
    (h : Between r.keepTemporaryStateStartTime r.keepTemporaryStateEndTime clock) :
    r.effective clock = true := by
  obtain ⟨hread, hlo, hhi⟩ := h
  simp [TempColorModeInfo.effective, htemp, hread, hlo, hhi]

theorem Kept.reset (hk : Kept context r updates k) : Kept context r updates k.reset := by
  refine ⟨hk.recorded, ?_, hk.calls⟩
  intro hhave
  cases hhave

theorem Kept.setState (hk : Kept context r updates k) (state : DarkModeState) :
    Kept context r updates (k.setState context' state) :=
  ⟨hk.recorded, hk.notPending, hk.calls⟩

theorem Kept.setOverride_of_ne (hk : Kept context r updates k)
    (hother : context'.userId ≠ context.userId) (info : TempColorModeInfo) :
    Kept context r updates (k.setOverride context' info) := by
  have hne : context ≠ context' := fun h => hother (by rw [h])
  refine ⟨?_, hk.notPending, hk.calls⟩
  rw [← hk.recorded]
  simp [Core.setOverride, hne]

theorem Kept.setOverride_self (hk : Kept context r updates k) :
    Kept context r updates (k.setOverride context r) := by
  refine ⟨?_, hk.notPending, hk.calls⟩
  simp [Core.setOverride]

/-- A colour for another user. -/
theorem Kept.change_of_ne (hk : Kept context r updates k)
    (hother : context'.userId ≠ context.userId) (isDarkMode : Bool) :
    Kept context r updates (k.change isDarkMode context') := by
  have hemit : Kept context r updates (k.emit (.updateCallback isDarkMode context')) := by
    refine ⟨hk.recorded, hk.notPending, ?_⟩
    rw [← hk.calls]
    simp [updatesOf, Core.emit, isUpdateOf, hother]
  unfold Core.change Core.normal
  split_ifs
  · exact hemit.setOverride_of_ne hother {}
  · exact hemit
  · exact hk

theorem Kept.queue_of_ne (hk : Kept context r updates k)
    (hother : context'.userId ≠ context.userId) (isDarkMode : Bool) :
    Kept context r updates (k.queue isDarkMode context') := by
  refine ⟨hk.recorded, fun _ => hother, ?_⟩
  rw [← hk.calls]
  simp [updatesOf, Core.queue, Core.emit, isUpdateOf]

/-- A schedule of the context finds the override effective; one of another user does not matter. -/
theorem Kept.update (hk : Kept context r updates k) (htemp : r.isTemporary = true)
    {clock : Clock} {isDarkMode resetTempColorModeFlag bootLoadFlag : Bool}
    (hapart : Apart context context')
    (hinside : context' = context → resetTempColorModeFlag = false ∧
      Between r.keepTemporaryStateStartTime r.keepTemporaryStateEndTime clock) :
    Kept context r updates
      (k.update clock isDarkMode context' resetTempColorModeFlag bootLoadFlag) := by
  unfold Core.update
  rcases hapart with rfl | hother
  · obtain ⟨hflag, hbetween⟩ := hinside rfl
    have hfollows : k.follows clock context' = false := by
      unfold Core.follows
      rw [hk.recorded, effective_of_between htemp hbetween]
      rfl
    simp only [hflag, hfollows, Bool.false_eq_true, if_false, Bool.not_false, if_true]
    exact hk.reset
  · split_ifs
    · exact hk.reset.change_of_ne hother isDarkMode
    · exact hk.reset
    · exact hk.reset.change_of_ne hother isDarkMode
    · exact hk.reset.queue_of_ne hother isDarkMode

theorem Kept.react (hk : Kept context r updates k) (htemp : r.isTemporary = true) {env : Env}
    {needUpdateCallback resetTempColorModeFlag bootLoadFlag : Bool}
    (hapart : Apart context context')
    (hinside : context' = context → resetTempColorModeFlag = false ∧
      Between r.keepTemporaryStateStartTime r.keepTemporaryStateEndTime env.clock) :
    Kept context r updates
      (k.react env context' needUpdateCallback resetTempColorModeFlag bootLoadFlag) := by
  unfold Core.react
  split_ifs
  · exact hk.update htemp hapart hinside
  · exact hk

theorem Kept.load (hk : Kept context r updates k) (htemp : r.isTemporary = true) {env : Env}
    {state : DarkModeState} {info : TempColorModeInfo} {needUpdateCallback bootLoadFlag : Bool}
    (hapart : Apart context context')
    (hinside : context' = context → info = r ∧
      Between r.keepTemporaryStateStartTime r.keepTemporaryStateEndTime env.clock) :
    Kept context r updates
      (k.load env context' state info needUpdateCallback bootLoadFlag) := by
  have hloaded : Kept context r updates ((k.setState context' state).setOverride context'
      (Core.loadedRecord env.clock info)) := by
    rcases hapart with rfl | hother
    · obtain ⟨rfl, hbetween⟩ := hinside rfl
      rw [Core.loadedRecord_of_effective (effective_of_between htemp hbetween)]
      exact (hk.setState state).setOverride_self
    · exact (hk.setState state).setOverride_of_ne hother _
  unfold Core.load
  exact hloaded.reset.react htemp hapart fun h => ⟨rfl, (hinside h).2⟩

theorem Kept.choose_of_ne (hk : Kept context r updates k)
    (hother : context'.userId ≠ context.userId) (clock : Clock) (isDarkMode : Bool) :
    Kept context r updates (k.choose clock context' isDarkMode) := by
  unfold Core.choose
  dsimp only
  split_ifs
  · exact hk
  · exact hk.reset.setOverride_of_ne hother _
  · have hrecord := hk.reset.setOverride_of_ne hother (Core.overrideRecord clock
      (k.stateOf context').scheduleTime (k.overrideOf context').keepTemporaryStateEndTime)
    refine ⟨hrecord.recorded, hrecord.notPending, ?_⟩
    rw [← hrecord.calls]
    simp [updatesOf, Core.emit, isUpdateOf]

/-- The pending colour that is applied belongs to another user. -/
theorem Kept.screenOff (hk : Kept context r updates k) : Kept context r updates k.screenOff := by
  have hoff : Kept context r updates { k with screen := k.screen.setScreenOff } :=
    ⟨hk.recorded, hk.notPending, hk.calls⟩
  unfold Core.screenOff
  dsimp only
  split_ifs with hhave
  · exact (hoff.change_of_ne (hk.notPending hhave) _).reset
  · exact hoff

/-- One event of the listed kinds keeps the override. -/
theorem kept_next (htemp : r.isTemporary = true) (k : Core) (m : Move)
    (hk : Kept context r updates k) (hm : Withstood context r m) :
    Kept context r updates (k.next m) := by
  cases m with
  | idle => exact hk
  | observe env item context' state =>
    exact (hk.setState state).react htemp hm.1 hm.2
  | update clock isDarkMode context' =>
    exact hk.update htemp hm.1 fun h => ⟨rfl, hm.2 h⟩
  | load env context' state info needUpdateCallback bootLoadFlag =>
    exact hk.load htemp hm.1 hm.2
  | choose clock isDarkMode contexts =>
    simp only [Core.next]
    induction contexts generalizing k with
    | nil => exact hk
    | cons head rest ih =>
      refine ih _ (hk.choose_of_ne (hm head List.mem_cons_self) clock isDarkMode) ?_
      intro context' hmem
      exact hm context' (List.mem_cons_of_mem head hmem)
  | screenOn => exact ⟨hk.recorded, hk.notPending, hk.calls⟩
  | screenOff => exact hk.screenOff
  | install => exact ⟨hk.recorded, hk.notPending, hk.calls⟩
  | restart => exact hm.elim

end Moves

section Recording

variable {context context' : AccountContext} {clock : Clock} {isDarkMode : Bool} {k : Core}

theorem overrideRecord_of_read (hread : clock.failed = false) (times : ℤ × ℤ) (oldEnd : ℤ) :
    Core.overrideRecord clock times oldEnd = Core.overrideRecord clock times 0 := by
  simp [Core.overrideRecord, TemporaryColorMode.getTempColorModeTimeInfo,
    TemporaryColorMode.calcEndTimestamp, hread]

/-- A choice against the schedule records an override and leaves nothing pending. -/
theorem kept_choose (hread : clock.failed = false)
    (hmode : (k.stateOf context).settingMode.isSchedule = true)
    (hagainst : DarkModeState.within clock (k.stateOf context).scheduleTime ≠ isDarkMode) :
    Kept context (Core.overrideRecord clock (k.stateOf context).scheduleTime 0)
      (updatesOf context k) (k.choose clock context isDarkMode) := by
  unfold Core.choose
  dsimp only
  rw [hmode, if_neg (by decide), if_neg hagainst]
  refine ⟨?_, ?_, ?_⟩
  · simp only [Core.emit, Core.setOverride, Function.update_self]
    exact overrideRecord_of_read hread _ _
  · intro hhave
    cases hhave
  · simp [updatesOf, Core.emit, Core.setOverride, Core.reset, isUpdateOf]

theorem updatesOf_choose :
    updatesOf context (k.choose clock context' isDarkMode) = updatesOf context k := by
  unfold Core.choose
  dsimp only
  split_ifs
  · rfl
  · rfl
  · simp [updatesOf, Core.emit, Core.setOverride, Core.reset, isUpdateOf]

/-- The same for a choice that reaches several users, this context among them. -/
theorem kept_chooseAll (hread : clock.failed = false) {state : DarkModeState}
    (hmode : state.settingMode.isSchedule = true)
    (hagainst : DarkModeState.within clock state.scheduleTime ≠ isDarkMode)
    {contexts : List AccountContext}
    (hown : ∀ context' ∈ contexts, context'.userId = context.userId → context' = context)
    {updates : List Effect} (k : Core) (hstate : k.stateOf context = state)
    (hcalls : updatesOf context k = updates)
    (hk : context ∈ contexts ∨
      Kept context (Core.overrideRecord clock state.scheduleTime 0) updates k) :
    Kept context (Core.overrideRecord clock state.scheduleTime 0) updates
      (contexts.foldl (fun k context' => k.choose clock context' isDarkMode) k) := by
  induction contexts generalizing k with
  | nil => exact hk.resolve_left List.not_mem_nil
  | cons head rest ih =>
    have hrest := fun context' hmem => hown context' (List.mem_cons_of_mem head hmem)
    rw [List.foldl_cons]
    refine ih hrest _ ?_ ?_ ?_
    · rw [Core.stateOf_choose]
      exact hstate
    · rw [updatesOf_choose]
      exact hcalls
    · by_cases hhead : head.userId = context.userId
      · obtain rfl := hown head List.mem_cons_self hhead
        subst hstate hcalls
        exact .inr (kept_choose hread hmode hagainst)
      · rcases hk with hmem | hk
        · rcases List.mem_cons.mp hmem with rfl | hmem
          · exact absurd rfl hhead
          · exact .inl hmem
        · exact .inr (hk.choose_of_ne hhead clock isDarkMode)

end Recording

/-- An override recorded by `SetDarkMode` withstands every run of the listed events, as long as
those that consult it read the clock after the second of the recording and before the end. -/
theorem override_kept {s : Service} {env₀ : Env} {mode : ℤ} {context : AccountContext}
    (hchosen : context ∈ s.contextsOfSetDarkMode env₀ mode) (hread : env₀.clock.failed = false)
    (hmode : (s.stateOf context).settingMode.isSchedule = true)
    (hagainst : DarkModeState.within env₀.clock (s.stateOf context).scheduleTime ≠
      decide (DarkMode.ofInt mode = .alwaysDark)) {es : Run}
    (hok : Along Service.step
      (fun s' e => Withstood context
        (Core.overrideRecord env₀.clock (s.stateOf context).scheduleTime 0) (s'.moveOf e))
      (s.setDarkMode env₀ mode).1 es) :
    Kept context (Core.overrideRecord env₀.clock (s.stateOf context).scheduleTime 0)
      (updatesOf context s.core) (exec Service.step (s.setDarkMode env₀ mode).1 es).core := by
  have hstart : Kept context (Core.overrideRecord env₀.clock (s.stateOf context).scheduleTime 0)
      (updatesOf context s.core) (s.setDarkMode env₀ mode).1.core := by
    rw [Service.core_setDarkMode]
    exact kept_chooseAll hread hmode hagainst
      (fun context' hmem => Service.contextsOfSetDarkMode_own hchosen hmem) s.core rfl rfl
      (.inl hchosen)
  exact Service.core_exec_invariant (kept_next rfl) hstart hok

/-- Noon, and the seconds after it. -/
def noonAnd (seconds : ℕ) (h : 43200 + seconds < 86400) : Env :=
  { clock := ⟨1000000 + seconds, 43200 + seconds, 956800, h⟩ }

/-- The boot at noon turns the account dark. -/
def booted : Service :=
  exec Service.step (Service.start Table.empty customRow)
    [(noonAnd 0 (by decide), .onAddSystemAbility), (noonAnd 0 (by decide), .bootCompleted)]

/-- The user chooses light three seconds later. -/
def overridden : Service := (booted.setDarkMode (noonAnd 3 (by decide)) 1).1

/-- A time change in the same second turns the account dark again and ends the override. -/
theorem sameSecond_overruled :
    (booted.setDarkMode (noonAnd 3 (by decide)) 1).2 = .succeeded ∧
      (overridden.tempInfoOf account).isTemporary = true ∧
      (overridden.tempInfoOf account).keepTemporaryStateStartTime = 1000003 ∧
      ((overridden.step (noonAnd 3 (by decide), .timeChanged)).tempInfoOf account).isTemporary =
        false ∧
      (overridden.step (noonAnd 3 (by decide), .timeChanged)).core.decisions =
        .updateCallback true account :: overridden.core.decisions := by
  decide

/-- One second later the same event, a timer, the screen and a load change nothing. -/
theorem nextSecond_kept :
    Kept account (Core.overrideRecord (noonAnd 3 (by decide)).clock (660, 780) 0)
      (updatesOf account booted.core)
      (exec Service.step overridden
        [(noonAnd 4 (by decide), .timeChanged), (noonAnd 5 (by decide), .screenOn),
          (noonAnd 6 (by decide), .timerFired (.schedule 660 780 account)),
          (noonAnd 7 (by decide), .screenOff),
          (noonAnd 8 (by decide), .loadUserSettingData account true true)]).core := by
  have hchosen : account ∈ booted.contextsOfSetDarkMode (noonAnd 3 (by decide)) 1 := by decide
  exact override_kept hchosen (by decide) (by decide) (by decide) (by decide)

end OverrideRespected
end UiAppearance
