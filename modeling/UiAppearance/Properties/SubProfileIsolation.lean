import UiAppearance.Ability.AppliedColor
import UiAppearance.Properties.PendingSwitch

/-!
# Sub-profiles and the events of one another

A timer, a notification and a pending colour belong to the context they were
made for. The colour they apply goes to the user of that context, and from
there to the context that is in the foreground by then. Overrides are found by
context and stay apart.
-/

namespace UiAppearance
namespace SubProfileIsolation

open Service Transition Scenario PendingSwitch

/-- The context that an event belongs to. A screen-off belongs to the one whose colour is pending. -/
def owner (s : Service) : Event → Option AccountContext
  | .timerFired callback => some callback.context
  | .settingChanged observer => some observer.context
  | .delivered n =>
    (s.settingDataManager.inFlight[n]?).map fun observer => observer.updateFunc.context
  | .screenOff =>
    if s.core.screen.haveScreenOffOperate then
      (lastQueued s.core.decisions).map fun queued => queued.2.1
    else none
  | _ => none

/-- The colour that an event with an owner applies at once. -/
def appliedColor (s : Service) (e : Env × Event) : Option Bool :=
  match e.2 with
  | .timerFired callback => s.firedColor e.1 callback
  | .settingChanged observer => s.observedColor e.1 observer (observedKey observer)
  | .delivered n => (s.settingDataManager.inFlight[n]?).bind fun observer =>
    (s.takeNotification n).observedColor e.1 observer.updateFunc observer.key
  | .screenOff => s.core.pendingColor
  | _ => none

/-- Two sub-profiles of one user. -/
structure Siblings (p q : AccountContext) : Prop where
  left : p.isSubProfileContext = true
  right : q.isSubProfileContext = true
  user : p.userId = q.userId
  ne : p ≠ q

/-- The colour of a context and its override are what they were. -/
structure Untouched (q : AccountContext) (s s' : Service) : Prop where
  held : s'.heldColor q = s.heldColor q
  override : s'.tempInfoOf q = s.tempInfoOf q

def Isolated (s : Service) (e : Env × Event) : Prop :=
  ∀ p q, owner s e.2 = some p → Siblings p q → Untouched q s (s.step e)

/-- The event applies no colour now, or none that reaches a sibling, or the sibling has it. -/
def Spared (s : Service) (e : Env × Event) : Prop :=
  ∀ p q, owner s e.2 = some p → Siblings p q → ∀ isDarkMode, appliedColor s e = some isDarkMode →
    q ∈ callbackReached e.1 p.userId → s.heldColor q = s.recolored e.1 isDarkMode q

section Pending

variable {k : Core}

/-- A pending colour is the newest one queued, for the user of its context. -/
def Queued (k : Core) : Prop :=
  k.screen.haveScreenOffOperate = true →
    ∃ queued ∈ lastQueued k.decisions,
      k.screen.getScreenOffOperateInfo = (queued.1, queued.2.1.userId)

theorem queued_of_clear (h : k.screen.haveScreenOffOperate = false) : Queued k := by
  intro hhave
  rw [h] at hhave
  cases hhave

theorem queued_of_fresh (h : Fresh k) : Queued k := by
  intro hhave
  obtain ⟨queued, hqueued, hinfo, -⟩ := h hhave
  exact ⟨queued, hqueued, hinfo⟩

theorem queued_choose (clock : Clock) (context : AccountContext) (isDarkMode : Bool)
    (hk : Queued k) : Queued (k.choose clock context isDarkMode) := by
  unfold Core.choose
  dsimp only
  split_ifs
  · exact hk
  · exact queued_of_clear rfl
  · exact queued_of_clear rfl

/-- Every move keeps it so, whatever becomes of the settings behind the colour. -/
theorem queued_next (k : Core) (m : Move) (hk : Queued k) : Queued (k.next m) := by
  cases m with
  | idle => exact hk
  | observe env item context state =>
    change Queued ((k.setState context state).react env context true item.resets false)
    unfold Core.react
    split_ifs
    · apply queued_of_fresh
      apply fresh_update
    · exact hk
  | update clock isDarkMode context =>
    apply queued_of_fresh
    apply fresh_update
  | load env context state info needUpdateCallback bootLoadFlag =>
    apply queued_of_fresh
    apply fresh_load
  | choose clock isDarkMode contexts =>
    simp only [Core.next]
    induction contexts generalizing k with
    | nil => exact hk
    | cons context contexts ih => exact ih _ (queued_choose clock context isDarkMode hk)
  | screenOn => exact hk
  | screenOff => exact queued_of_fresh fresh_screenOff
  | install => exact hk
  | restart => exact queued_of_clear rfl

end Pending

section Overrides

variable {k : Core} {p q : AccountContext}

theorem overrideOf_change (h : q ≠ p) (isDarkMode : Bool) :
    (k.change isDarkMode p).overrideOf q = k.overrideOf q := by
  unfold Core.change Core.normal
  split_ifs
  · exact Function.update_of_ne h ..
  · rfl
  · rfl

theorem overrideOf_update (h : q ≠ p) (clock : Clock)
    (isDarkMode resetTempColorModeFlag bootLoadFlag : Bool) :
    (k.update clock isDarkMode p resetTempColorModeFlag bootLoadFlag).overrideOf q =
      k.overrideOf q := by
  unfold Core.update
  split_ifs
  · exact overrideOf_change (k := k.reset) h isDarkMode
  · rfl
  · exact overrideOf_change (k := k.reset) h isDarkMode
  · rfl

theorem overrideOf_observe (h : q ≠ p) (env : Env) (item : SettingItem) (state : DarkModeState) :
    (k.observe env item p state).overrideOf q = k.overrideOf q := by
  unfold Core.observe Core.react
  split_ifs
  · exact overrideOf_update (k := k.setState p state) h ..
  · rfl

/-- The screen going off ends an override of an account at most, not of a sub-profile. -/
theorem overrideOf_screenOff (h : q.isSubProfileContext = true) :
    k.screenOff.overrideOf q = k.overrideOf q := by
  unfold Core.screenOff
  dsimp only
  split_ifs
  · refine overrideOf_change (k := { k with screen := k.screen.setScreenOff }) ?_ _
    rintro rfl
    exact Bool.false_ne_true h
  · rfl

end Overrides

section Steps

variable {s : Service} {p q : AccountContext}

/-- What an event with an owner makes of the colour of any context. -/
theorem heldColor_step (hs : Queued s.core) {e : Env × Event} (howner : owner s e.2 = some p)
    (q : AccountContext) :
    (s.step e).heldColor q = s.heldAfter e.1 p.userId q (appliedColor s e) := by
  obtain ⟨env, event⟩ := e
  cases event with
  | timerFired callback =>
    obtain rfl := Option.some.inj howner
    exact heldColor_timerFired env s q callback
  | settingChanged observer =>
    obtain rfl := Option.some.inj howner
    exact heldColor_observerUpdateFunc env s q observer _
  | delivered n =>
    change (s.deliver env n).heldColor q = _
    unfold owner at howner
    unfold appliedColor deliver
    dsimp only at howner ⊢
    cases hobserver : s.settingDataManager.inFlight[n]? with
    | none =>
      rw [hobserver] at howner
      cases howner
    | some observer =>
      rw [hobserver] at howner
      obtain rfl := Option.some.inj howner
      have htaken : (s.takeNotification n).appearance = s.appearance := rfl
      rw [Option.bind_some, ← heldAfter_of_appearance env htaken]
      exact heldColor_observerUpdateFunc env (s.takeNotification n) q ..
  | screenOff =>
    unfold owner at howner
    dsimp only at howner
    split_ifs at howner with hhave
    obtain ⟨queued, hqueued, hinfo⟩ := hs hhave
    rw [Option.mem_def.mp hqueued] at howner
    obtain rfl := Option.some.inj howner
    have hscreen : s.screenSwitchOperatorMgr.getScreenOffOperateInfo.2 = queued.2.1.userId :=
      congrArg Prod.snd hinfo
    have hheld := heldColor_screenOffCallback env s q
    rw [hscreen] at hheld
    exact hheld
  | _ => cases howner

theorem tempInfoOf_step {e : Env × Event} (howner : owner s e.2 = some p) (h : Siblings p q) :
    (s.step e).tempInfoOf q = s.tempInfoOf q := by
  have hne : q ≠ p := h.ne.symm
  obtain ⟨env, event⟩ := e
  change (s.step (env, event)).core.overrideOf q = s.core.overrideOf q
  rw [core_step]
  cases event with
  | timerFired callback =>
    obtain rfl := Option.some.inj howner
    cases callback with
    | schedule startTime endTime context =>
      change (s.core.next (s.timerMove env (.schedule startTime endTime context))).overrideOf q = _
      unfold timerMove
      dsimp only
      split_ifs
      · exact overrideOf_update hne ..
      · rfl
    | recalculation context => rfl
  | settingChanged observer =>
    obtain rfl := Option.some.inj howner
    exact overrideOf_observe hne ..
  | delivered n =>
    change (s.core.next (s.deliverMove env n)).overrideOf q = _
    unfold owner at howner
    unfold deliverMove
    dsimp only at howner ⊢
    cases hobserver : s.settingDataManager.inFlight[n]? with
    | none => rfl
    | some observer =>
      rw [hobserver] at howner
      obtain rfl := Option.some.inj howner
      exact overrideOf_observe hne ..
  | screenOff => exact overrideOf_screenOff h.right
  | _ => cases howner

/-- One event. -/
theorem isolated_iff (hs : Queued s.core) (e : Env × Event) : Isolated s e ↔ Spared s e := by
  have hevent (p q : AccountContext) (howner : owner s e.2 = some p) (hsiblings : Siblings p q) :
      Untouched q s (s.step e) ↔ ∀ isDarkMode, appliedColor s e = some isDarkMode →
        q ∈ callbackReached e.1 p.userId → s.heldColor q = s.recolored e.1 isDarkMode q := by
    have hheld := heldColor_step hs howner q
    cases happlied : appliedColor s e with
    | none =>
      rw [happlied] at hheld
      exact iff_of_true ⟨hheld, tempInfoOf_step howner hsiblings⟩ nofun
    | some isDarkMode =>
      rw [happlied] at hheld
      dsimp only [heldAfter] at hheld
      by_cases hreached : q ∈ callbackReached e.1 p.userId
      · rw [if_pos hreached] at hheld
        constructor
        · rintro ⟨hsame, -⟩ color hcolor -
          obtain rfl := Option.some.inj hcolor
          exact hsame.symm.trans hheld
        · intro hsame
          exact ⟨hheld.trans (hsame isDarkMode rfl hreached).symm, tempInfoOf_step howner hsiblings⟩
      · rw [if_neg hreached] at hheld
        exact iff_of_true ⟨hheld, tempInfoOf_step howner hsiblings⟩
          fun _ _ hin => absurd hin hreached
  constructor
  · intro h p q howner hsiblings
    exact (hevent p q howner hsiblings).mp (h p q howner hsiblings)
  · intro h p q howner hsiblings
    exact (hevent p q howner hsiblings).mpr (h p q howner hsiblings)

end Steps

/-- In every run, sub-profiles are isolated exactly if every event spares the siblings of its
owner. -/
theorem isolated_along_iff (parameters : Table String String) (tables : ℤ → Table String String)
    (es : Run) :
    Along step Isolated (start parameters tables) es ↔
      Along step Spared (start parameters tables) es := by
  refine along_iff_of_invariant (I := fun s => Queued s.core) (C := fun _ _ => True) ?_
    (fun s e hs _ => isolated_iff hs e) (queued_of_clear rfl) (along_of_forall fun _ _ => trivial)
  intro s e hs _ _
  rw [core_step]
  exact queued_next _ _ hs

def first : AccountContext := ⟨100, 1⟩

def second : AccountContext := ⟨100, 2⟩

def profileNoon (subProfileId : ℤ) : Env :=
  { noon with
    foregroundSubProfileId := fun _ => some subProfileId
    subProfileIds := fun _ => [1, 2] }

/-- The first sub-profile is dark from 11:00 to 13:00, the second one has no settings. -/
def profileRow (userId : ℤ) (key : String) : Option String :=
  if userId ≠ 100 then none
  else if key = AccountContext.buildSettingKey SettingItem.mode.key first then some "2"
  else if key = AccountContext.buildSettingKey SettingItem.startTime.key first then some "660"
  else if key = AccountContext.buildSettingKey SettingItem.endTime.key first then some "780"
  else none

/-- The foreground has moved on to the second sub-profile. -/
def movedRun : Run :=
  [(profileNoon 1, .onAddSystemAbility), (profileNoon 1, .bootCompleted),
    (profileNoon 2, .subProfileSwitched 100 2)]

def lateTimer : Env × Event := (profileNoon 2, .timerFired (.schedule 660 780 first))

/-- A timer of the first sub-profile turns the second one dark, and so does a colour that such a
timer has left for the screen to go off. -/
theorem late_not_isolated :
    ¬Along step Isolated (start Table.empty profileRow) (movedRun ++ [lateTimer]) ∧
      ¬Along step Isolated (start Table.empty profileRow) (movedRun ++
        [(profileNoon 2, .screenOn), lateTimer, (profileNoon 2, .screenOff)]) := by
  have hsiblings : Siblings first second := ⟨rfl, rfl, rfl, by decide⟩
  constructor
  · rintro ⟨-, -, -, h, -⟩
    have hheld := (h first second rfl hsiblings).held
    exact absurd hheld (by decide +kernel)
  · rintro ⟨-, -, -, -, -, h, -⟩
    have howner : owner (exec step (start Table.empty profileRow) (movedRun ++
        [(profileNoon 2, .screenOn), lateTimer])) .screenOff = some first := by decide +kernel
    have hheld := (h first second howner hsiblings).held
    exact absurd hheld (by decide +kernel)

end SubProfileIsolation
end UiAppearance
