import UiAppearance.Ability.Simulation

/-!
# The pending switch and the settings it came from

A colour that waits for the screen to go off was asked for by a mode and, in a
schedule mode, by a pair of times. Everything that changes the settings of the
context and can act on the new ones clears the pending colour first. Settings
that cannot be acted upon (the mode is `INVALID`, or the timers reject the
schedule) are stored and leave it alone.
-/

namespace UiAppearance
namespace PendingSwitch

open Transition Scenario

/-- The newest colour left for the moment the screen goes off, with the context and the
settings that asked for it. -/
def lastQueued : List Effect → Option (Bool × AccountContext × DarkModeState)
  | [] => none
  | .setScreenOffOperateInfo isDarkMode context state :: _ => some (isDarkMode, context, state)
  | .updateCallback .. :: older => lastQueued older
  | .setColorModeTemporary .. :: older => lastQueued older
  | .updateConfiguration .. :: older => lastQueued older

/-- The part of the settings that decides the colour. -/
def inForce (state : DarkModeState) : DarkModeMode × Option (ℤ × ℤ) :=
  (state.settingMode, if state.settingMode.isSchedule then some state.scheduleTime else none)

/-- A pending colour is the newest one queued, and what asked for it is still in force. -/
def Fresh (k : Core) : Prop :=
  k.screen.haveScreenOffOperate = true →
    ∃ q ∈ lastQueued k.decisions, k.screen.getScreenOffOperateInfo = (q.1, q.2.1.userId) ∧
      inForce (k.stateOf q.2.1) = inForce q.2.2

instance (k : Core) : Decidable (Fresh k) :=
  inferInstanceAs (Decidable (_ → ∃ q ∈ lastQueued k.decisions, _ ∧ _))

/-- The move leaves the settings behind a pending colour alone, or acts on the new ones. -/
def Keeps (k : Core) : Move → Prop
  | .observe env _ context state =>
    k.screen.haveScreenOffOperate = true →
      (∃ q ∈ lastQueued k.decisions, q.2.1 = context) →
        state.actionable env = true ∨ inForce state = inForce (k.stateOf context)
  | _ => True

instance (k : Core) : ∀ m : Move, Decidable (Keeps k m)
  | .observe .. => inferInstanceAs (Decidable (_ → (∃ q ∈ lastQueued k.decisions, _) → _))
  | .idle => isTrue trivial
  | .update .. => isTrue trivial
  | .load .. => isTrue trivial
  | .choose .. => isTrue trivial
  | .screenOn => isTrue trivial
  | .screenOff => isTrue trivial
  | .install => isTrue trivial
  | .restart => isTrue trivial

section Moves

variable {k : Core} (context : AccountContext)

theorem fresh_of_clear (h : k.screen.haveScreenOffOperate = false) : Fresh k := by
  intro hhave
  rw [h] at hhave
  cases hhave

theorem fresh_reset : Fresh k.reset := fresh_of_clear rfl

theorem fresh_reset_change (isDarkMode : Bool) : Fresh (k.reset.change isDarkMode context) := by
  apply fresh_of_clear
  rw [Core.screen_change]
  rfl

theorem fresh_queue (isDarkMode : Bool) : Fresh (k.queue isDarkMode context) := by
  intro _
  refine ⟨(isDarkMode, context, k.stateOf context), rfl, ?_, rfl⟩
  cases isDarkMode <;> rfl

/-- Whatever becomes of a colour, the pending one is cleared or replaced by it. -/
theorem fresh_update (clock : Clock) (isDarkMode resetTempColorModeFlag bootLoadFlag : Bool) :
    Fresh (k.update clock isDarkMode context resetTempColorModeFlag bootLoadFlag) := by
  unfold Core.update
  split_ifs
  · exact fresh_reset_change context isDarkMode
  · exact fresh_reset
  · exact fresh_reset_change context isDarkMode
  · exact fresh_queue context isDarkMode

/-- New settings of one context do not concern a colour queued for another one. -/
theorem fresh_setState {state : DarkModeState} (hk : Fresh k)
    (hsame : k.screen.haveScreenOffOperate = true →
      (∃ q ∈ lastQueued k.decisions, q.2.1 = context) →
        inForce state = inForce (k.stateOf context)) :
    Fresh (k.setState context state) := by
  intro hhave
  obtain ⟨q, hq, hinfo, hforce⟩ := hk hhave
  refine ⟨q, hq, hinfo, ?_⟩
  by_cases hcontext : q.2.1 = context
  · have hnew := hsame hhave ⟨q, hq, hcontext⟩
    rw [← hforce, hcontext, ← hnew]
    simp [Core.setState]
  · rw [← hforce]
    simp [Core.setState, hcontext]

theorem fresh_observe {env : Env} {item : SettingItem} {state : DarkModeState} (hk : Fresh k)
    (hkeeps : Keeps k (.observe env item context state)) :
    Fresh (k.observe env item context state) := by
  have hstate : (k.setState context state).stateOf context = state := by simp [Core.setState]
  unfold Core.observe Core.react
  rw [hstate]
  cases hact : state.actionable env with
  | true => apply fresh_update
  | false =>
    apply fresh_setState context hk
    intro hhave hq
    rcases hkeeps hhave hq with h | h
    · rw [hact] at h
      cases h
    · exact h

theorem fresh_load (env : Env) (state : DarkModeState) (info : TempColorModeInfo)
    (needUpdateCallback bootLoadFlag : Bool) :
    Fresh (k.load env context state info needUpdateCallback bootLoadFlag) := by
  unfold Core.load Core.react
  split_ifs
  · apply fresh_update
  · exact fresh_reset

theorem fresh_choose (clock : Clock) (isDarkMode : Bool) (hk : Fresh k) :
    Fresh (k.choose clock context isDarkMode) := by
  unfold Core.choose
  dsimp only
  split_ifs
  · exact hk
  · exact fresh_of_clear rfl
  · exact fresh_of_clear rfl

theorem fresh_screenOff : Fresh k.screenOff := by
  unfold Core.screenOff
  dsimp only
  split_ifs with hhave
  · exact fresh_reset
  · exact fresh_of_clear (Bool.eq_false_iff.mpr hhave)

/-- Every move keeps a pending colour fresh, new settings under the stated condition. -/
theorem fresh_next (k : Core) (m : Move) (hk : Fresh k) (hkeeps : Keeps k m) :
    Fresh (k.next m) := by
  cases m with
  | idle => exact hk
  | observe env item context state => exact fresh_observe context hk hkeeps
  | update clock isDarkMode context => apply fresh_update
  | load env context state info needUpdateCallback bootLoadFlag => apply fresh_load
  | choose clock isDarkMode contexts =>
    simp only [Core.next]
    induction contexts generalizing k with
    | nil => exact hk
    | cons context contexts ih => exact ih _ (fresh_choose context clock isDarkMode hk) trivial
  | screenOn => exact hk
  | screenOff => exact fresh_screenOff
  | install => exact hk
  | restart => exact fresh_of_clear rfl

end Moves

def isScreenOff : Event → Bool
  | .screenOff => true
  | _ => false

/-- When the screen goes off, a pending colour is still asked for. -/
def NotStale (s : Service) (e : Env × Event) : Prop := isScreenOff e.2 = true → Fresh s.core

instance (s : Service) (e : Env × Event) : Decidable (NotStale s e) :=
  inferInstanceAs (Decidable (_ → _))

/-- In a run whose notifications never replace the settings behind a pending colour by ones
that cannot be acted upon, no stale colour is applied. -/
theorem notStale_along {parameters : Table String String} {tables : ℤ → Table String String}
    {es : Run}
    (hok : Along Service.step (fun s e => Keeps s.core (s.moveOf e))
      (Service.start parameters tables) es) :
    Along Service.step NotStale (Service.start parameters tables) es := by
  refine Service.core_along fresh_next ?_ (fresh_of_clear rfl) hok
  intro s e hfresh _
  exact hfresh

/-- The start of the dark interval is reached with the screen on. -/
def queuedRun : Run :=
  [(noon, .onAddSystemAbility), (noon, .bootCompleted), (noon, .screenOn),
    (noon, .timerFired (.schedule 660 780 account))]

/-- The mode, or the end of the schedule, is then set to something that cannot be acted upon. -/
def modeRemoved : Run :=
  [(noon, .settingWritten 100 SettingItem.mode.key none),
    (noon, .settingChanged ⟨.mode, account⟩)]

def endRejected : Run :=
  [(noon, .settingWritten 100 SettingItem.endTime.key (some "5000")),
    (noon, .settingChanged ⟨.endTime, account⟩)]

def after (es : Run) : Service :=
  exec Service.step (Service.start Table.empty customRow) (queuedRun ++ es)

/-- With the mode `INVALID`, and with a schedule that the timers reject, the pending dark
colour is still applied. -/
theorem stale_applied :
    ((after modeRemoved).stateOf account).settingMode = .invalid ∧
      ¬NotStale (after modeRemoved) (noon, .screenOff) ∧
      ((after modeRemoved).step (noon, .screenOff)).core.decisions =
        .updateCallback true account :: (after modeRemoved).core.decisions ∧
      ((after endRejected).stateOf account).accepted = false ∧
      ¬NotStale (after endRejected) (noon, .screenOff) ∧
      ((after endRejected).step (noon, .screenOff)).core.decisions =
        .updateCallback true account :: (after endRejected).core.decisions := by
  decide

/-- Moving the end of the schedule to an accepted minute replaces the pending colour. -/
theorem moved_notStale :
    Along Service.step NotStale (Service.start Table.empty customRow)
      (queuedRun ++ [(noon, .settingWritten 100 SettingItem.endTime.key (some "700")),
        (noon, .settingChanged ⟨.endTime, account⟩), (noon, .screenOff)]) := by
  apply notStale_along
  decide

end PendingSwitch
end UiAppearance
