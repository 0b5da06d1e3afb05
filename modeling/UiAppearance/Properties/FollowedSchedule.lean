import UiAppearance.Ability.AppliedColor
import UiAppearance.Foundations.OverriddenSignal
import UiAppearance.Properties.EarlyTimers
import UiAppearance.Properties.OverrideEnd

/-!
# The schedule is followed

Seen from outside, a context with a schedule is a display that follows the
schedule whenever the screen is off. The service gets there with timers that
fire at the boundaries, a cell for the colour that waits for the screen to go
off, and a window for the override. As long as the first thing handled after a
boundary is a timer of the schedule or a change of the time, it shows at every
event what the display shows.
-/

namespace UiAppearance
namespace FollowedSchedule

open Transition AlarmTimerManager DailyInterval OverriddenSignal
open OverrideWindow (KeepsTime clockAt)
open EarlyTimers (InLastSeconds inLastSeconds_iff)

/-- The service with the instant of the last event. -/
structure Watch where
  service : Service
  now : ℤ

namespace Watch

def next (w : Watch) (e : Env × Event) : Watch := ⟨w.service.step e, e.1.clock.timestamp⟩

end Watch

/-- What an event is to the display: a manual choice counts if it names a colour and its caller
is permitted. -/
def inputOf (env : Env) : Event → Input Bool
  | .screenOn => .uncover
  | .screenOff => .cover
  | .setDarkMode mode =>
    if env.accessGranted && decide (DarkMode.ofInt mode ≠ .unknown) then
      .choose (DarkMode.ofInt mode = .alwaysDark)
    else .wait
  | _ => .wait

def label (e : Env × Event) : ℤ × Input Bool := (e.1.clock.timestamp, inputOf e.1 e.2)

/-- The colour in memory. -/
def shownColor (s : Service) (context : AccountContext) : Option DarkMode :=
  (s.heldColor context).1.map (·.darkMode)

/-- A recorded override that is not over, as a choice: its colour is the one the schedule has just
before the end of the window. -/
def standing (offset : ℤ) (times : ℤ × ℤ) (info : TempColorModeInfo) (now : ℤ) :
    Option (Bool × ℤ) :=
  if info.isTemporary = true ∧ now ≤ info.keepTemporaryStateEndTime then
    some (coversAt offset times info.keepTemporaryStateEndTime, info.keepTemporaryStateEndTime + 1)
  else none

/-- No boundary of the schedule lies between two instants. -/
def Calm (offset : ℤ) (times : ℤ × ℤ) (now instant : ℤ) : Prop :=
  now ≤ instant ∧ ∀ inside, instant < leavingAfter offset times inside now

/-- The instant is neither the second in which an override was chosen nor the last one of its
window, the two in which it does not count as effective. -/
def Clear (info : TempColorModeInfo) (instant : ℤ) : Prop :=
  info.isTemporary = true →
    info.keepTemporaryStateStartTime < instant ∧ instant ≠ info.keepTemporaryStateEndTime

instance (offset : ℤ) (times : ℤ × ℤ) (now instant : ℤ) :
    Decidable (Calm offset times now instant) := inferInstanceAs (Decidable (_ ∧ _))

instance (info : TempColorModeInfo) (instant : ℤ) : Decidable (Clear info instant) :=
  inferInstanceAs (Decidable (_ → _))

/-- The clock keeps local time, the context is the foreground context of the one effective user,
and the calls to the outside that a colour takes succeed. -/
structure Attends (offset : ℤ) (context : AccountContext) (env : Env) : Prop where
  time : KeepsTime offset env.clock
  foreground : AccountContext.getForegroundContext env context.userId = context
  oneUser : env.foregroundOsAccounts.length ≤ 1
  accepts : Service.acceptsConfiguration env context.userId (Service.getMultipleUsers env) = true
  written : ∀ value, env.setParameter (darkModeParamAssignUser context) value = true

/-- What may happen next. Timers of the schedule fire on time, or late but not in the last seconds
before the next boundary; a change of the time may move the clock anywhere but back into a window
that is over; everything else comes at a moment that is calm. -/
def Admits (calm : Prop) (offset : ℤ) (context : AccountContext) (times : ℤ × ℤ) (w : Watch) :
    Env × Event → Prop
  | (env, .timerFired (.schedule startTime endTime context')) =>
    context' = context ∧
      if (startTime, endTime) = times then
        w.now ≤ env.clock.timestamp ∧ Clear (w.service.tempInfoOf context) env.clock.timestamp ∧
          ¬InLastSeconds 4 startTime env.clock.secondOfDay ∧
          ¬InLastSeconds 5 endTime env.clock.secondOfDay
      else calm
  | (env, .timeChanged) =>
    w.service.observedContext = context ∧
      Clear (w.service.tempInfoOf context) env.clock.timestamp ∧
      ((w.service.tempInfoOf context).isTemporary = true →
        env.clock.timestamp ≤ (w.service.tempInfoOf context).keepTemporaryStateEndTime →
        w.now ≤ (w.service.tempInfoOf context).keepTemporaryStateEndTime)
  | (env, .setDarkMode mode) =>
    calm ∧ Service.getCallingAccountContext env = context ∧
      (coversAt offset times env.clock.timestamp ≠ decide (DarkMode.ofInt mode = .alwaysDark) →
        ¬(1440 < times.2 ∧ (env.clock.minuteOfDay : ℤ) = times.1))
  | (_, .screenOn) => calm
  | (_, .screenOff) => calm
  | (_, .timerFired (.recalculation _)) => calm
  | (_, .setFontScale _) => calm
  | (_, .setFontWeightScale _) => calm
  | (_, .setSettingData _ _) => calm
  | (_, .settingWritten _ _ _) => calm
  | (_, .onRemoveSystemAbility) => calm
  | _ => False

/-- A moment is calm if every boundary before it has been handled. -/
def Punctual (offset : ℤ) (context : AccountContext) (times : ℤ × ℤ) (w : Watch)
    (e : Env × Event) : Prop :=
  Admits (Calm offset times w.now e.1.clock.timestamp) offset context times w e

theorem Admits.mono {calm calm' : Prop} {offset : ℤ} {context : AccountContext} {times : ℤ × ℤ}
    {w : Watch} {e : Env × Event} (h : Admits calm offset context times w e) (hcalm : calm → calm') :
    Admits calm' offset context times w e := by
  obtain ⟨env, event⟩ := e
  cases event with
  | timerFired callback =>
    cases callback with
    | recalculation context' => exact hcalm h
    | schedule startTime endTime context' =>
      refine ⟨h.1, ?_⟩
      have hrest := h.2
      split_ifs at hrest ⊢
      · exact hrest
      · exact hcalm hrest
  | timeChanged => exact h
  | setDarkMode mode => exact ⟨hcalm h.1, h.2⟩
  | screenOn => exact hcalm h
  | screenOff => exact hcalm h
  | setFontScale fontScale => exact hcalm h
  | setFontWeightScale fontWeightScale => exact hcalm h
  | setSettingData key value => exact hcalm h
  | settingWritten userId key value => exact hcalm h
  | onRemoveSystemAbility => exact hcalm h
  | _ => exact h.elim

/-- The decisions of the service are those of the display: a colour waits in the cell only while
the screen is on, and is the one the display is asked for. -/
structure Follows (offset : ℤ) (context : AccountContext) (times : ℤ × ℤ) (k : Core) (now : ℤ)
    (d : Display ℤ Bool) : Prop where
  mode : (k.stateOf context).settingMode.isSchedule = true
  schedule : (k.stateOf context).scheduleTime = times
  callback : k.hasUpdateCallback = true
  covered : d.covered = k.screen.isScreenOff
  choice : d.choice = standing offset times (k.overrideOf context) now
  leaves : (k.overrideOf context).isTemporary = true → ∃ inside,
    LeavesAt offset times inside ((k.overrideOf context).keepTemporaryStateEndTime + 1)
  settled : k.screen.haveScreenOffOperate = false → d.shown = d.asked (coversAt offset times) now
  pending : k.screen.haveScreenOffOperate = true → d.covered = false ∧ d.choice = none ∧
    k.screen.getScreenOffOperateInfo = (coversAt offset times now, context.userId)

section Clock

variable {offset : ℤ} {times : ℤ × ℤ} {clock : Clock} {now instant : ℤ}

theorem within_eq_coversAt (hclock : KeepsTime offset clock) (h : AcceptedTimes times) :
    DarkModeState.within clock times = coversAt offset times clock.timestamp := by
  unfold coversAt
  rw [← hclock.2.2]
  exact OverrideWindow.within_eq_covers hclock.1 h

/-- Away from the tolerances a timer computes the colour of the schedule. -/
theorem check_eq_coversAt (hclock : KeepsTime offset clock) (h : AcceptedTimes times)
    (hstart : ¬InLastSeconds 4 times.1 clock.secondOfDay)
    (hend : ¬InLastSeconds 5 times.2 clock.secondOfDay) :
    checkCurrentTimeInDarkInterval times.1 times.2 clock.secondOfDay =
      coversAt offset times clock.timestamp := by
  have hsecond := clock.secondOfDay_lt
  rw [inLastSeconds_iff (by decide)] at hstart hend
  unfold coversAt
  rw [← hclock.2.2, Bool.eq_iff_iff, covers_eq_true, EarlyTimers.checkCurrentTimeInDarkInterval_iff]
  obtain ⟨h₀, hlt, hbefore, hspan⟩ := h.bounds
  omega

theorem Calm.not_leavesAt (h : Calm offset times now instant) (hproper : Proper times) {t : ℤ}
    (hlow : now < t) (hhigh : t ≤ instant) (inside : Bool) : ¬LeavesAt offset times inside t := by
  intro hleaves
  have hbefore := h.2 inside
  obtain ⟨-, -, hsoon⟩ := @leavesAt_leavingAfter offset times hproper inside now
  rw [leavingAfter_eq hproper hleaves hlow (by omega)] at hbefore
  omega

theorem Calm.coversAt_eq (h : Calm offset times now instant) (hproper : Proper times) :
    coversAt offset times instant = coversAt offset times now :=
  coversAt_eq_of_stays h.1 fun _ hlow hhigh inside => h.not_leavesAt hproper hlow hhigh inside

end Clock

section Standing

variable {offset : ℤ} {times : ℤ × ℤ} {info : TempColorModeInfo} {clock : Clock} {now instant : ℤ}

/-- Away from its two ends a window counts as effective exactly while it stands. -/
theorem effective_eq (hread : clock.failed = false) (hclear : Clear info clock.timestamp) :
    info.effective clock = (standing offset times info clock.timestamp).isSome := by
  unfold TempColorModeInfo.effective standing
  rw [hread]
  by_cases htemp : info.isTemporary = true
  · obtain ⟨hstart, hend⟩ := hclear htemp
    rw [htemp, decide_eq_true hstart]
    by_cases hstands : clock.timestamp ≤ info.keepTemporaryStateEndTime
    · have hlt : clock.timestamp < info.keepTemporaryStateEndTime := by omega
      simp [hstands, hlt]
    · have hlt : ¬clock.timestamp < info.keepTemporaryStateEndTime := by omega
      simp [hstands, hlt]
  · rw [Bool.not_eq_true] at htemp
    simp [htemp]

theorem standing_calm (hcalm : Calm offset times now instant) (hproper : Proper times)
    (hleaves : info.isTemporary = true →
      ∃ inside, LeavesAt offset times inside (info.keepTemporaryStateEndTime + 1)) :
    standing offset times info instant = standing offset times info now := by
  have hle := hcalm.1
  unfold standing
  by_cases htemp : info.isTemporary = true
  · obtain ⟨inside, hleave⟩ := hleaves htemp
    have hsame : instant ≤ info.keepTemporaryStateEndTime ↔
        now ≤ info.keepTemporaryStateEndTime := by
      refine ⟨fun h => by omega, fun h => ?_⟩
      by_contra hover
      exact hcalm.not_leavesAt hproper (by omega) (by omega) inside hleave
    simp only [hsame]
  · simp [htemp]

/-- Time that passes leaves of a standing choice what still stands. -/
theorem standing_filter (hkept : info.isTemporary = true →
      instant ≤ info.keepTemporaryStateEndTime → now ≤ info.keepTemporaryStateEndTime) :
    ((standing offset times info now).filter fun choice => instant < choice.2) =
      standing offset times info instant := by
  unfold standing
  by_cases htemp : info.isTemporary = true
  · by_cases hstands : instant ≤ info.keepTemporaryStateEndTime
    · rw [if_pos ⟨htemp, hkept htemp hstands⟩, if_pos ⟨htemp, hstands⟩]
      exact Option.filter_some_pos (decide_eq_true (by dsimp only; omega))
    · have hover : ¬(info.isTemporary = true ∧ instant ≤ info.keepTemporaryStateEndTime) :=
        fun h => hstands h.2
      rw [if_neg hover]
      split_ifs
      · exact Option.filter_some_neg (decide_eq_false (by dsimp only; omega))
      · rfl
  · rw [if_neg fun h => htemp h.1, if_neg fun h => htemp h.1]
    rfl

theorem standing_of_normal (h : info.isTemporary = false) :
    standing offset times info now = none := if_neg (by simp [h])

end Standing

section Moves

variable {offset : ℤ} {context : AccountContext} {times : ℤ × ℤ} {k : Core} {now instant : ℤ}
  {d : Display ℤ Bool}

theorem Follows.isSettled (h : Follows offset context times k now d) :
    d.Settled (coversAt offset times) now := by
  intro hcovered
  cases hhave : k.screen.haveScreenOffOperate with
  | false => exact h.settled hhave
  | true =>
    have hopen := (h.pending hhave).1
    rw [hcovered] at hopen
    cases hopen

/-- Between two boundaries neither of the two changes. -/
theorem Follows.calm (h : Follows offset context times k now d) (hproper : Proper times)
    (hcalm : Calm offset times now instant) :
    Follows offset context times k instant d ∧ d.pass (coversAt offset times) instant = d := by
  have hsignal := hcalm.coversAt_eq hproper
  have hstanding := standing_calm hcalm hproper h.leaves
  have hasked : d.asked (coversAt offset times) instant = d.asked (coversAt offset times) now := by
    unfold Display.asked
    rw [hsignal]
  refine ⟨⟨h.mode, h.schedule, h.callback, h.covered, ?_, h.leaves, ?_, ?_⟩, ?_⟩
  · rw [hstanding]
    exact h.choice
  · rw [hasked]
    exact h.settled
  · rw [hsignal]
    exact h.pending
  · refine Display.pass_eq h.isSettled hsignal ?_
    intro choice hchoice
    rw [h.choice, ← hstanding] at hchoice
    unfold standing at hchoice
    split_ifs at hchoice with hstands
    · obtain rfl := Option.some.inj hchoice
      have := hstands.2
      dsimp only
      omega
    · cases hchoice

/-- A colour that is dropped: the choice stands in for the schedule. -/
theorem Follows.drop (h : Follows offset context times k now d) {choice : Bool × ℤ}
    (hkept : d.choice = some choice) (hstands : instant < choice.2)
    (hchoice : d.choice = standing offset times (k.overrideOf context) instant) :
    Follows offset context times k.reset instant (d.pass (coversAt offset times) instant) ∧
      (d.pass (coversAt offset times) instant).shown = d.shown := by
  have hhave : k.screen.haveScreenOffOperate = false := by
    rw [← Bool.not_eq_true]
    intro hhave
    rw [(h.pending hhave).2.1] at hkept
    cases hkept
  have hasked (t : ℤ) : d.asked (coversAt offset times) t = choice.1 := by
    unfold Display.asked
    rw [hkept]
  have hshown := h.settled hhave
  have hfilter : (d.choice.filter fun choice => instant < choice.2) = d.choice := by
    rw [hkept]
    exact Option.filter_some_pos (by simpa using hstands)
  have hpass : d.pass (coversAt offset times) instant = d := by
    unfold Display.pass Display.follow
    rw [hfilter]
    split_ifs
    · change { d with shown := d.asked (coversAt offset times) instant } = d
      rw [hasked, ← hasked now, ← hshown]
    · rfl
  rw [hpass]
  refine ⟨⟨h.mode, h.schedule, h.callback, h.covered, hchoice, h.leaves, ?_, ?_⟩, rfl⟩
  · intro _
    rw [hasked, ← hasked now]
    exact hshown
  · intro hhave'
    cases hhave'

theorem haveScreenOffOperate_queue (k : Core) (isDarkMode : Bool) (context : AccountContext) :
    (k.queue isDarkMode context).screen.haveScreenOffOperate = true := by
  cases isDarkMode <;> rfl

theorem getScreenOffOperateInfo_queue (k : Core) (isDarkMode : Bool) (context : AccountContext) :
    (k.queue isDarkMode context).screen.getScreenOffOperateInfo = (isDarkMode, context.userId) := by
  cases isDarkMode <;> rfl

/-- Where no choice stands, an override may end at any move. -/
theorem Follows.of_endsAtMost {k' : Core} {d' : Display ℤ Bool}
    (h : Follows offset context times k now d) (hends : Core.EndsAtMost context k k')
    (hover : standing offset times (k.overrideOf context) instant = none)
    (hcallback : k'.hasUpdateCallback = true) (hcovered : d'.covered = k'.screen.isScreenOff)
    (hchoice : d'.choice = none)
    (hsettled : k'.screen.haveScreenOffOperate = false →
      d'.shown = coversAt offset times instant)
    (hpending : k'.screen.haveScreenOffOperate = true → d'.covered = false ∧
      k'.screen.getScreenOffOperateInfo = (coversAt offset times instant, context.userId)) :
    Follows offset context times k' instant d' := by
  have hasked : d'.asked (coversAt offset times) instant = coversAt offset times instant := by
    unfold Display.asked
    rw [hchoice]
  refine ⟨?_, ?_, hcallback, hcovered, ?_, ?_, ?_, ?_⟩
  · rw [hends.state]
    exact h.mode
  · rw [hends.state]
    exact h.schedule
  · rw [hchoice]
    rcases hends.override with hsame | hnormal
    · rw [hsame, hover]
    · rw [standing_of_normal hnormal]
  · intro htemp
    rcases hends.override with hsame | hnormal
    · rw [hsame] at htemp ⊢
      exact h.leaves htemp
    · rw [hnormal] at htemp
      cases htemp
  · rw [hasked]
    exact hsettled
  · intro hhave
    exact ⟨(hpending hhave).1, hchoice, (hpending hhave).2⟩

/-- What a schedule asks for at an instant, be it a timer that fires or the time that changes. -/
theorem Follows.update (h : Follows offset context times k now d) {clock : Clock}
    (hread : clock.failed = false) (hclear : Clear (k.overrideOf context) clock.timestamp)
    (hkept : (k.overrideOf context).isTemporary = true →
      clock.timestamp ≤ (k.overrideOf context).keepTemporaryStateEndTime →
      now ≤ (k.overrideOf context).keepTemporaryStateEndTime) :
    Follows offset context times
        (k.update clock (coversAt offset times clock.timestamp) context false false)
        clock.timestamp (d.pass (coversAt offset times) clock.timestamp) ∧
      (d.pass (coversAt offset times) clock.timestamp).shown =
        (k.applied clock (coversAt offset times clock.timestamp) context false false).getD
          d.shown := by
  have hfilter := @standing_filter offset times _ _ _ hkept
  have heffective := @effective_eq offset times _ _ hread hclear
  rw [← h.choice] at hfilter
  cases hstanding : standing offset times (k.overrideOf context) clock.timestamp with
  | some choice =>
    rw [hstanding] at hfilter heffective
    obtain ⟨hchoice, hstands⟩ := Option.filter_eq_some_iff.mp hfilter
    have hfollows : k.follows clock context = false := by
      unfold Core.follows
      rw [heffective]
      rfl
    have hdrop := h.drop hchoice (of_decide_eq_true hstands) (hchoice.trans hstanding.symm)
    unfold Core.update Core.applied
    rw [hfollows]
    simpa using hdrop
  | none =>
    rw [hstanding] at hfilter heffective
    have hfollows : k.follows clock context = true := by
      unfold Core.follows
      rw [heffective]
      rfl
    have hends : Core.EndsAtMost context k (k.update clock
        (coversAt offset times clock.timestamp) context false false) :=
      Core.endsAtMost_update ..
    have hcallback : (k.update clock (coversAt offset times clock.timestamp) context false
        false).hasUpdateCallback = true := by
      rw [Core.hasUpdateCallback_update]
      exact h.callback
    have hpass : d.pass (coversAt offset times) clock.timestamp =
        if d.covered then ⟨none, coversAt offset times clock.timestamp, d.covered⟩
        else ⟨none, d.shown, d.covered⟩ := by
      unfold Display.pass Display.follow
      rw [hfilter]
      rfl
    have hcovered := h.covered
    rw [hpass]
    unfold Core.update Core.applied at *
    rw [hfollows] at hends hcallback ⊢
    rw [h.callback]
    cases hoff : k.screen.isScreenOff with
    | true =>
      rw [hoff] at hcovered hends hcallback
      rw [hcovered]
      refine ⟨h.of_endsAtMost hends hstanding hcallback ?_ rfl (fun _ => rfl) ?_, rfl⟩
      · change true = (k.reset.change _ context).screen.isScreenOff
        rw [Core.screen_change]
        exact hoff.symm
      · intro hhave
        change (k.reset.change _ context).screen.haveScreenOffOperate = true at hhave
        rw [Core.screen_change] at hhave
        cases hhave
    | false =>
      rw [hoff] at hcovered hends hcallback
      rw [hcovered]
      refine ⟨h.of_endsAtMost hends hstanding hcallback hoff.symm rfl ?_ fun _ => ⟨rfl, ?_⟩, rfl⟩
      · intro hhave
        change (k.reset.queue _ context).screen.haveScreenOffOperate = false at hhave
        rw [haveScreenOffOperate_queue] at hhave
        cases hhave
      · exact getScreenOffOperateInfo_queue ..

theorem Follows.screenOn (h : Follows offset context times k now d) :
    Follows offset context times k.screenOn now { d with covered := false } where
  mode := h.mode
  schedule := h.schedule
  callback := h.callback
  covered := rfl
  choice := h.choice
  leaves := h.leaves
  settled := h.settled
  pending hhave := ⟨rfl, (h.pending hhave).2⟩

/-- The colour that waits is the one that the display is asked for. -/
theorem Follows.screenOff (h : Follows offset context times k now d) :
    Follows offset context times k.screenOff now
        (Display.follow (coversAt offset times) { d with covered := true } now) ∧
      (Display.follow (coversAt offset times) { d with covered := true } now).shown =
        k.pendingColor.getD d.shown := by
  have hfollow : Display.follow (coversAt offset times) { d with covered := true } now =
      { d with covered := true, shown := d.asked (coversAt offset times) now } := rfl
  have hoff : k.screen.setScreenOff.haveScreenOffOperate = k.screen.haveScreenOffOperate := rfl
  rw [hfollow]
  unfold Core.pendingColor
  rw [h.callback]
  cases hhave : k.screen.haveScreenOffOperate with
  | false =>
    have hshown := h.settled hhave
    have hmove : k.screenOff = { k with screen := k.screen.setScreenOff } := by
      unfold Core.screenOff
      dsimp only
      rw [hoff, hhave, if_neg (by decide)]
    rw [hmove, ← hshown]
    refine ⟨⟨h.mode, h.schedule, h.callback, rfl, h.choice, h.leaves, fun _ => ?_, ?_⟩, rfl⟩
    · exact hshown
    · intro hhave'
      change k.screen.haveScreenOffOperate = true at hhave'
      rw [hhave] at hhave'
      cases hhave'
  | true =>
    obtain ⟨hopen, hnone, hinfo⟩ := h.pending hhave
    have hasked : d.asked (coversAt offset times) now = coversAt offset times now := by
      unfold Display.asked
      rw [hnone]
    have hmove : k.screenOff = (({ k with screen := k.screen.setScreenOff } : Core).change
        (coversAt offset times now) (.createBaseContext context.userId)).reset := by
      have hinfo' : k.screen.setScreenOff.getScreenOffOperateInfo =
          (coversAt offset times now, context.userId) := hinfo
      unfold Core.screenOff
      dsimp only
      rw [hoff, hhave, if_pos rfl, hinfo']
    have hends : Core.EndsAtMost context k k.screenOff := Core.endsAtMost_screenOff k
    have hover := h.choice.symm.trans hnone
    rw [hasked, hinfo]
    rw [hmove] at hends ⊢
    refine ⟨h.of_endsAtMost hends hover ?_ ?_ hnone (fun _ => rfl) ?_, rfl⟩
    · exact (Core.hasUpdateCallback_change ..).trans h.callback
    · change true = (Core.change _ _ _).screen.isScreenOff
      rw [Core.screen_change]
      rfl
    · intro hhave'
      cases hhave'

/-- A choice against the schedule stands until the schedule leaves the chosen colour. -/
theorem standing_overrideRecord {clock : Clock} (hclock : KeepsTime offset clock)
    (h : AcceptedTimes times) {isDarkMode : Bool}
    (hagainst : DarkModeState.within clock times ≠ isDarkMode)
    (hminute : ¬(1440 < times.2 ∧ (clock.minuteOfDay : ℤ) = times.1)) (oldEnd : ℤ) :
    standing offset times (Core.overrideRecord clock times oldEnd) clock.timestamp =
        some (isDarkMode, leavingAfter offset times isDarkMode clock.timestamp) ∧
      LeavesAt offset times isDarkMode
        ((Core.overrideRecord clock times oldEnd).keepTemporaryStateEndTime + 1) := by
  obtain ⟨hleaves, hsoon⟩ := OverrideWindow.overrideRecord_leaves hclock h hagainst oldEnd
  obtain ⟨-, hstands⟩ :=
    (OverrideEnd.overrideRecord_next_iff hclock.1 hclock.2.1 h hagainst oldEnd).mpr hminute
  have hstart : (Core.overrideRecord clock times oldEnd).keepTemporaryStateStartTime =
      clock.timestamp := rfl
  have hcolor := hleaves.1
  rw [Int.add_sub_cancel] at hcolor
  refine ⟨?_, hleaves⟩
  unfold standing
  rw [if_pos ⟨rfl, hstands⟩, hcolor,
    leavingAfter_eq h.bounds hleaves (by omega) (by omega)]

/-- A choice that differs from what is shown. -/
theorem Follows.choose (h : Follows offset context times k now d) {clock : Clock}
    (hnow : now = clock.timestamp) (hclock : KeepsTime offset clock) (hproper : AcceptedTimes times)
    {isDarkMode : Bool} (hdiffers : isDarkMode ≠ d.shown)
    (hminute : coversAt offset times clock.timestamp ≠ isDarkMode →
      ¬(1440 < times.2 ∧ (clock.minuteOfDay : ℤ) = times.1)) :
    Follows offset context times (k.choose clock context isDarkMode) clock.timestamp
      (d.choose (coversAt offset times) (leavingAfter offset times) clock.timestamp
        isDarkMode) := by
  have hwithin := within_eq_coversAt hclock hproper
  have hcovered := h.covered
  have hmode := h.mode
  subst hnow
  unfold Core.choose Display.choose
  dsimp only
  rw [h.schedule, hwithin, hmode, if_neg hdiffers, Bool.not_true, if_neg Bool.false_ne_true]
  by_cases hagrees : coversAt offset times clock.timestamp = isDarkMode
  · have hnormal : ((k.reset.setOverride context {}).overrideOf context) = {} :=
      Function.update_self ..
    rw [if_pos hagrees, if_pos hagrees]
    refine ⟨hmode, h.schedule, h.callback, hcovered, ?_, ?_, fun _ => ?_, ?_⟩
    · rw [hnormal]
      rfl
    · rw [hnormal]
      intro htemp
      cases htemp
    · exact hagrees.symm
    · intro hhave
      cases hhave
  · rw [← hwithin] at hagrees
    obtain ⟨hstanding, hleaves⟩ := standing_overrideRecord hclock hproper hagrees
      (hminute (by rwa [← hwithin])) (k.overrideOf context).keepTemporaryStateEndTime
    have hrecord (info : TempColorModeInfo) : ((k.reset.setOverride context info).emit
        (.setColorModeTemporary isDarkMode context)).overrideOf context = info :=
      Function.update_self ..
    rw [hwithin] at hagrees
    rw [if_neg hagrees, if_neg hagrees]
    refine ⟨hmode, h.schedule, h.callback, hcovered, ?_, ?_, fun _ => rfl, ?_⟩
    · rw [hrecord]
      exact hstanding.symm
    · intro _
      rw [hrecord]
      exact ⟨isDarkMode, hleaves⟩
    · intro hhave
      cases hhave

end Moves

/-- The service shows what the display shows, and decides like it. -/
structure Shows (offset : ℤ) (context : AccountContext) (times : ℤ × ℤ) (w : Watch)
    (d : Display ℤ Bool) : Prop where
  follows : Follows offset context times w.service.core w.now d
  shown : shownColor w.service context = some (.ofColor d.shown)

section Events

open Service

variable {offset : ℤ} {context : AccountContext} {times : ℤ × ℤ} {w : Watch} {d : Display ℤ Bool}
  {env : Env} {s : Service}

theorem Attends.affected (h : Attends offset context env) :
    affectedContexts env context = [context] := if_neg (Nat.not_lt.mpr h.oneUser)

theorem Attends.reached (h : Attends offset context env) :
    context ∈ callbackReached env context.userId := by
  unfold callbackReached callbackContexts
  rw [if_pos h.accepts, h.foreground, h.affected]
  exact List.mem_singleton_self context

/-- A colour that is applied shows, and without one the colour stays. -/
theorem shown_heldAfter (h : Attends offset context env) {shown : Bool}
    (hshown : shownColor s context = some (.ofColor shown)) (color : Option Bool) :
    (s.heldAfter env context.userId context color).1.map (·.darkMode) =
      some (.ofColor (color.getD shown)) := by
  cases color with
  | none => exact hshown
  | some isDarkMode =>
    unfold heldAfter
    dsimp only
    rw [if_pos h.reached]
    rfl

theorem shownColor_of_heldColor {s' : Service} (h : s'.heldColor context = s.heldColor context) :
    shownColor s' context = shownColor s context := by
  unfold shownColor
  rw [h]

/-- The fields of an entry that a font request writes are none of the colour. -/
theorem shownColor_font (r : Request) (hr : ∀ param, (r.assign param).darkMode = param.darkMode)
    (hentry : (shownColor s context).isSome = true) :
    shownColor (r.call env s).1 context = shownColor s context := by
  have hassigned := r.assigned_call env s
  have hsome : (s.usersParam context).isSome = true := by
    simpa [shownColor, heldColor] using hentry
  obtain ⟨param, hparam⟩ := Option.isSome_iff_exists.mp hsome
  change ((r.call env s).1.usersParam context).map _ = (s.usersParam context).map _
  by_cases hmem : context ∈ r.reached env s
  · rw [hassigned.entries context hmem, Table.valueAt_of_some hparam, hparam]
    exact congrArg some (hr param)
  · rw [hassigned.others context hmem]

/-- What is neither an input nor an update finds the display as it was. -/
theorem Shows.idle (h : Shows offset context times w d) (hproper : Proper times)
    {e : Env × Event} (hcalm : Calm offset times w.now e.1.clock.timestamp)
    (hinput : inputOf e.1 e.2 = .wait) (hcore : (w.service.step e).core = w.service.core)
    (hshown : shownColor (w.service.step e) context = shownColor w.service context) :
    Shows offset context times (w.next e)
      (d.next (coversAt offset times) (leavingAfter offset times) (label e)) := by
  obtain ⟨hfollows, hpass⟩ := h.follows.calm hproper hcalm
  have hlabel : label e = (e.1.clock.timestamp, .wait) := by
    unfold label
    rw [hinput]
  have hnext : d.next (coversAt offset times) (leavingAfter offset times) (label e) = d := by
    rw [hlabel]
    exact hpass
  rw [hnext]
  refine ⟨?_, hshown.trans h.shown⟩
  change Follows offset context times (w.service.step e).core e.1.clock.timestamp d
  rw [hcore]
  exact hfollows

/-- An update for the context, whatever event makes it. -/
theorem Shows.updated (h : Shows offset context times w d)
    {e : Env × Event} (hattends : Attends offset context e.1)
    (hclear : Clear (w.service.tempInfoOf context) e.1.clock.timestamp)
    (hkept : (w.service.tempInfoOf context).isTemporary = true →
      e.1.clock.timestamp ≤ (w.service.tempInfoOf context).keepTemporaryStateEndTime →
      w.now ≤ (w.service.tempInfoOf context).keepTemporaryStateEndTime)
    (hinput : inputOf e.1 e.2 = .wait)
    (hcore : (w.service.step e).core = w.service.core.update e.1.clock
      (coversAt offset times e.1.clock.timestamp) context false false)
    (hheld : (w.service.step e).heldColor context = w.service.heldAfter e.1 context.userId context
      (w.service.core.applied e.1.clock (coversAt offset times e.1.clock.timestamp) context false
        false)) :
    Shows offset context times (w.next e)
      (d.next (coversAt offset times) (leavingAfter offset times) (label e)) := by
  obtain ⟨hfollows, hshown⟩ := h.follows.update hattends.time.1 hclear hkept
  have hlabel : label e = (e.1.clock.timestamp, .wait) := by
    unfold label
    rw [hinput]
  rw [hlabel]
  refine ⟨?_, ?_⟩
  · change Follows offset context times (w.service.step e).core e.1.clock.timestamp _
    rw [hcore]
    exact hfollows
  · change shownColor (w.service.step e) context = some (.ofColor (Display.pass _ d _).shown)
    unfold shownColor
    rw [hheld, hshown]
    exact shown_heldAfter hattends h.shown _

theorem shows_timerFired (h : Shows offset context times w d) (hproper : AcceptedTimes times)
    (hattends : Attends offset context env) (callback : TimerCallback)
    (hpunctual : Punctual offset context times w (env, .timerFired callback)) :
    Shows offset context times (w.next (env, .timerFired callback))
      (d.next (coversAt offset times) (leavingAfter offset times)
        (label (env, .timerFired callback))) := by
  have hheld := heldColor_timerFired env w.service context callback
  have hcore := core_timerFired env w.service callback
  cases callback with
  | recalculation context' =>
    exact h.idle hproper.bounds hpunctual rfl hcore (shownColor_of_heldColor hheld)
  | schedule startTime endTime context' =>
    obtain ⟨rfl, hpunctual⟩ := hpunctual
    have hmode : (w.service.stateOf context').settingMode.isSchedule = true := h.follows.mode
    have htimes : (w.service.stateOf context').scheduleTime = times := h.follows.schedule
    by_cases hsame : (startTime, endTime) = times
    · rw [if_pos hsame] at hpunctual
      obtain ⟨hle, hclear, hstart, hend⟩ := hpunctual
      have hcheck := check_eq_coversAt hattends.time hproper (by rwa [← hsame]) (by rwa [← hsame])
      rw [← hsame] at hcheck htimes
      refine h.updated hattends hclear (fun _ hlow => hle.trans hlow) rfl ?_ ?_
      · refine hcore.trans ?_
        unfold timerMove
        dsimp only
        rw [hmode, htimes, hattends.time.1]
        simp only [decide_true, Bool.not_false, Bool.and_self, if_true, hcheck, hsame]
        rfl
      · refine hheld.trans ?_
        unfold firedColor checkTimerCallbackParams
        dsimp only
        rw [hmode, htimes, hattends.time.1]
        simp only [decide_true, Bool.not_false, Bool.and_self, if_true, hcheck, hsame,
          Option.bind_some, ofColor_eq_alwaysDark]
        rfl
    · rw [if_neg hsame] at hpunctual
      rw [← htimes] at hsame
      refine h.idle hproper.bounds hpunctual rfl (hcore.trans ?_) (shownColor_of_heldColor ?_)
      · unfold timerMove
        dsimp only
        rw [decide_eq_false (Ne.symm hsame), Bool.and_false, Bool.false_and]
        rfl
      · refine hheld.trans ?_
        unfold firedColor checkTimerCallbackParams
        dsimp only
        rw [decide_eq_false (Ne.symm hsame), Bool.and_false, Bool.false_and]
        rfl

theorem shows_timeChanged (h : Shows offset context times w d) (hproper : AcceptedTimes times)
    (hattends : Attends offset context env)
    (hpunctual : Punctual offset context times w (env, .timeChanged)) :
    Shows offset context times (w.next (env, .timeChanged))
      (d.next (coversAt offset times) (leavingAfter offset times) (label (env, .timeChanged))) := by
  obtain ⟨hobserved, hclear, hkept⟩ := hpunctual
  have hmode : (w.service.stateOf context).settingMode.isSchedule = true := h.follows.mode
  have htimes : (w.service.stateOf context).scheduleTime = times := h.follows.schedule
  have hwants : (w.service.stateOf context).wantsDark env.clock =
      coversAt offset times env.clock.timestamp := by
    rw [DarkModeState.wantsDark_of_isSchedule env.clock hmode, htimes,
      within_eq_coversAt hattends.time hproper]
  refine h.updated hattends hclear hkept rfl ?_ ?_
  · refine (core_restartTimer env w.service).trans ?_
    rw [hobserved, if_pos hmode, hwants]
  · refine (heldColor_restartTimer env w.service context).trans ?_
    unfold restartedColor
    rw [hobserved, if_pos hmode, hwants]

theorem shows_screenOff (h : Shows offset context times w d) (hproper : AcceptedTimes times)
    (hattends : Attends offset context env)
    (hcalm : Calm offset times w.now env.clock.timestamp) :
    Shows offset context times (w.next (env, .screenOff))
      (d.next (coversAt offset times) (leavingAfter offset times) (label (env, .screenOff))) := by
  obtain ⟨hfollows, hpass⟩ := h.follows.calm hproper.bounds hcalm
  obtain ⟨hoff, hshown⟩ := hfollows.screenOff
  have hnext : d.next (coversAt offset times) (leavingAfter offset times)
      (label (env, .screenOff)) = Display.follow (coversAt offset times) { d with covered := true }
        env.clock.timestamp := by
    change Display.follow _ { d.pass (coversAt offset times) env.clock.timestamp with
      covered := true } _ = _
    rw [hpass]
    rfl
  have hheld := heldColor_screenOffCallback env w.service context
  have huser (isDarkMode : Bool) (hpending : w.service.core.pendingColor = some isDarkMode) :
      w.service.screenSwitchOperatorMgr.getScreenOffOperateInfo.2 = context.userId := by
    unfold Core.pendingColor at hpending
    split_ifs at hpending with hhave
    rw [Bool.and_eq_true] at hhave
    exact congrArg Prod.snd (h.follows.pending hhave.2).2.2
  rw [hnext]
  refine ⟨?_, ?_⟩
  · change Follows offset context times (w.service.screenOffCallback env).core env.clock.timestamp _
    rw [core_screenOffCallback]
    exact hoff
  · change shownColor (w.service.screenOffCallback env) context = some _
    rw [hshown]
    unfold shownColor
    rw [hheld]
    cases hpending : w.service.core.pendingColor with
    | none => exact h.shown
    | some isDarkMode =>
      rw [huser isDarkMode hpending]
      exact shown_heldAfter hattends h.shown (some isDarkMode)

/-- A permitted caller whose choice is a colour that is not shown is admitted. -/
theorem admitsSetDarkMode_iff (hattends : Attends offset context env)
    (hcaller : getCallingAccountContext env = context) {shown : Bool}
    (hshown : shownColor s context = some (.ofColor shown)) (mode : ℤ) :
    s.admitsSetDarkMode env mode = true ↔ env.accessGranted = true ∧
      DarkMode.ofInt mode ≠ .unknown ∧ decide (DarkMode.ofInt mode = .alwaysDark) ≠ shown := by
  have hcurrent : s.currentDarkMode context = .ofColor shown := by
    unfold shownColor heldColor at hshown
    unfold currentDarkMode
    cases hparam : s.usersParam context with
    | none =>
      rw [hparam] at hshown
      cases hshown
    | some param =>
      rw [hparam] at hshown
      exact Option.some.inj hshown
  unfold admitsSetDarkMode
  rw [updateConfiguration_accepted, hcaller, hattends.accepts, hcurrent]
  simp only [Bool.and_true, Bool.and_eq_true, decide_eq_true_eq]
  cases DarkMode.ofInt mode <;> cases shown <;> simp [DarkMode.ofColor]

theorem contextsOfSetDarkMode_eq (hattends : Attends offset context env)
    (hcaller : getCallingAccountContext env = context) {mode : ℤ}
    (hadmitted : s.admitsSetDarkMode env mode = true) :
    s.contextsOfSetDarkMode env mode = [context] := by
  unfold contextsOfSetDarkMode
  rw [if_pos hadmitted, hcaller, hattends.affected]
  unfold chosenContexts
  rw [if_pos (hattends.written _)]
  rfl

theorem shownColor_setDarkMode (hattends : Attends offset context env)
    (hcaller : getCallingAccountContext env = context) {mode : ℤ}
    (hadmitted : s.admitsSetDarkMode env mode = true) :
    shownColor (s.setDarkMode env mode).1 context = some (DarkMode.ofInt mode) := by
  have hassigned := (Request.setDarkMode mode).assigned_call env s
  have hone : ¬1 < (getMultipleUsers env).length := Nat.not_lt.mpr hattends.oneUser
  have hreached : context ∈ (Request.setDarkMode mode).reached env s := by
    have htargets : (Request.setDarkMode mode).targets env = [context] := by
      rw [← hcaller]
      exact if_neg hone
    have hadmitted' : (Request.setDarkMode mode).admitted env s = true := hadmitted
    unfold Request.reached
    rw [if_pos hadmitted', htargets]
    exact List.mem_cons_self
  change (((Request.setDarkMode mode).call env s).1.usersParam context).map _ = _
  rw [hassigned.entries context hreached]
  rfl

theorem shows_setDarkMode (h : Shows offset context times w d) (hproper : AcceptedTimes times)
    (hattends : Attends offset context env) {mode : ℤ}
    (hpunctual : Punctual offset context times w (env, .setDarkMode mode)) :
    Shows offset context times (w.next (env, .setDarkMode mode))
      (d.next (coversAt offset times) (leavingAfter offset times)
        (label (env, .setDarkMode mode))) := by
  obtain ⟨hcalm, hcaller, hminute⟩ := hpunctual
  have hadmits := admitsSetDarkMode_iff hattends hcaller h.shown mode
  have hcore := core_setDarkMode env w.service mode
  by_cases hadmitted : w.service.admitsSetDarkMode env mode = true
  · obtain ⟨hgranted, hknown, hdiffers⟩ := hadmits.mp hadmitted
    obtain ⟨hfollows, hpass⟩ := h.follows.calm hproper.bounds hcalm
    have hinput : label (env, .setDarkMode mode) = (env.clock.timestamp,
        .choose (DarkMode.ofInt mode = .alwaysDark)) := by
      simp [label, inputOf, hgranted, hknown]
    have hcolor : DarkMode.ofInt mode = .ofColor (DarkMode.ofInt mode = .alwaysDark) := by
      cases hmode : DarkMode.ofInt mode with
      | unknown => exact absurd hmode hknown
      | _ => rfl
    have hchosen := hfollows.choose rfl hattends.time hproper hdiffers hminute
    have hshown := shownColor_setDarkMode hattends hcaller hadmitted
    rw [contextsOfSetDarkMode_eq hattends hcaller hadmitted] at hcore
    unfold Display.next
    rw [hinput]
    dsimp only
    rw [hpass]
    refine ⟨?_, ?_⟩
    · change Follows offset context times (w.service.setDarkMode env mode).1.core _ _
      rw [hcore]
      exact hchosen
    · change shownColor (w.service.setDarkMode env mode).1 context = some _
      unfold Display.choose
      rw [hshown, if_neg hdiffers]
      exact congrArg some hcolor
  · have hcalled : (w.service.setDarkMode env mode).1 = w.service := by
      rw [setDarkMode_eq, if_neg hadmitted]
    by_cases hinput : env.accessGranted = true ∧ DarkMode.ofInt mode ≠ .unknown
    · -- the colour that is asked for is shown already
      obtain ⟨hfollows, hpass⟩ := h.follows.calm hproper.bounds hcalm
      have hsame : decide (DarkMode.ofInt mode = .alwaysDark) = d.shown := by
        by_contra hdiffers
        exact hadmitted (hadmits.mpr ⟨hinput.1, hinput.2, hdiffers⟩)
      have hlabel : label (env, .setDarkMode mode) = (env.clock.timestamp,
          .choose (DarkMode.ofInt mode = .alwaysDark)) := by
        simp [label, inputOf, hinput.1, hinput.2]
      have hnext : d.next (coversAt offset times) (leavingAfter offset times)
          (label (env, .setDarkMode mode)) = d := by
        unfold Display.next
        rw [hlabel]
        dsimp only
        rw [hpass]
        exact if_pos hsame
      rw [hnext]
      refine ⟨?_, ?_⟩
      · change Follows offset context times (w.service.setDarkMode env mode).1.core _ _
        rw [hcalled]
        exact hfollows
      · change shownColor (w.service.setDarkMode env mode).1 context = _
        rw [hcalled]
        exact h.shown
    · refine h.idle hproper.bounds hcalm ?_ (congrArg core hcalled) ?_
      · exact if_neg (by simpa using hinput)
      · exact congrArg (shownColor · context) hcalled

end Events

/-- One event keeps the service and the display together. -/
theorem shows_next {offset : ℤ} {context : AccountContext} {times : ℤ × ℤ}
    (hproper : AcceptedTimes times) (w : Watch) (d : Display ℤ Bool) (e : Env × Event)
    (h : Shows offset context times w d)
    (he : Attends offset context e.1 ∧ Punctual offset context times w e) :
    Shows offset context times (w.next e)
      (d.next (coversAt offset times) (leavingAfter offset times) (label e)) := by
  obtain ⟨env, event⟩ := e
  obtain ⟨hattends, hpunctual⟩ := he
  have hentry : (shownColor w.service context).isSome = true := by
    rw [h.shown]
    rfl
  cases event with
  | timerFired callback => exact shows_timerFired h hproper hattends callback hpunctual
  | timeChanged => exact shows_timeChanged h hproper hattends hpunctual
  | setDarkMode mode => exact shows_setDarkMode h hproper hattends hpunctual
  | screenOff => exact shows_screenOff h hproper hattends hpunctual
  | screenOn =>
    obtain ⟨hfollows, hpass⟩ := h.follows.calm hproper.bounds hpunctual
    have hnext : d.next (coversAt offset times) (leavingAfter offset times)
        (label (env, .screenOn)) = { d with covered := false } := by
      change { d.pass (coversAt offset times) env.clock.timestamp with covered := false } = _
      rw [hpass]
    rw [hnext]
    exact ⟨hfollows.screenOn, h.shown⟩
  | setFontScale fontScale =>
    exact h.idle hproper.bounds hpunctual rfl (Service.core_setFont ..)
      (shownColor_font (.setFontScale fontScale) (fun _ => rfl) hentry)
  | setFontWeightScale fontWeightScale =>
    exact h.idle hproper.bounds hpunctual rfl (Service.core_setFont ..)
      (shownColor_font (.setFontWeightScale fontWeightScale) (fun _ => rfl) hentry)
  | setSettingData key value => exact h.idle hproper.bounds hpunctual rfl rfl rfl
  | settingWritten userId key value => exact h.idle hproper.bounds hpunctual rfl rfl rfl
  | onRemoveSystemAbility => exact h.idle hproper.bounds hpunctual rfl rfl rfl
  | _ => exact hpunctual.elim

/-- A context with this schedule in force, its colour, and nothing chosen or left to do. -/
structure InOrder (offset : ℤ) (context : AccountContext) (times : ℤ × ℤ) (w : Watch) : Prop where
  mode : (w.service.stateOf context).settingMode.isSchedule = true
  schedule : (w.service.stateOf context).scheduleTime = times
  callback : w.service.hasUpdateCallback = true
  normal : (w.service.tempInfoOf context).isTemporary = false
  nothing : w.service.screenSwitchOperatorMgr.haveScreenOffOperate = false
  shown : shownColor w.service context = some (.ofColor (coversAt offset times w.now))

/-- The display that shows what the service shows then. -/
def InOrder.display (offset : ℤ) (times : ℤ × ℤ) (w : Watch) : Display ℤ Bool where
  shown := coversAt offset times w.now
  covered := w.service.screenSwitchOperatorMgr.isScreenOff

theorem InOrder.shows {offset : ℤ} {context : AccountContext} {times : ℤ × ℤ} {w : Watch}
    (h : InOrder offset context times w) :
    Shows offset context times w (InOrder.display offset times w) := by
  refine ⟨⟨h.mode, h.schedule, h.callback, rfl, ?_, ?_, fun _ => rfl, ?_⟩, h.shown⟩
  · exact (standing_of_normal h.normal).symm
  · intro htemp
    rw [show (w.service.core.overrideOf context).isTemporary = false from h.normal] at htemp
    cases htemp
  · intro hhave
    rw [show w.service.core.screen.haveScreenOffOperate = false from h.nothing] at hhave
    cases hhave

open Scenario

/-- A schedule from 20:00 to 8:00 has been loaded a little after noon. -/
def afternoon : Watch where
  service := exec Service.step (Service.start Table.empty (scheduleRow "1200" "1920"))
    [(clockAt 1 43740 (by decide), .onAddSystemAbility),
      (clockAt 1 43740 (by decide), .bootCompleted)]
  now := 130140

/-- The screen is on when the night begins; at nine the user chooses light, which lasts until
eight; the next night begins with the screen off. -/
def twoNights : Run :=
  [(clockAt 1 68460 (by decide), .screenOn),
    (clockAt 1 72007 (by decide), .timerFired (.schedule 1200 1920 account)),
    (clockAt 1 72660 (by decide), .screenOff),
    (clockAt 1 75600 (by decide), .setDarkMode 1),
    (clockAt 2 28807 (by decide), .timerFired (.schedule 1200 1920 account)),
    (clockAt 2 72003 (by decide), .timerFired (.schedule 1200 1920 account))]

theorem attends_clockAt (day secondOfDay : ℕ) (h : secondOfDay < 86400) :
    Attends 0 account (clockAt day secondOfDay h) where
  time := by
    refine ⟨?_, rfl, ?_⟩
    · have hclock : (clockAt day secondOfDay h).clock.timestamp = day * 86400 + secondOfDay := rfl
      simp only [Clock.failed, hclock, beq_eq_false_iff_ne, ne_eq]
      omega
    · change (secondOfDay : ℤ) = (↑day * 86400 + ↑secondOfDay + 0) % 86400
      omega
  foreground := rfl
  oneUser := Nat.le_refl 1
  accepts := rfl
  written _ := rfl

end FollowedSchedule
end UiAppearance
