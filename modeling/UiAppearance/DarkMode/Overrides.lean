import UiAppearance.DarkMode.Simulation

/-!
# The override of one context

Following a schedule, and whatever the screen makes of a pending colour, can
end the override of a context and does nothing else to it. New overrides come
from manual choices and from loads only.
-/

namespace UiAppearance
namespace Core

/-- The colour of the newest override chosen for a context. -/
def lastChosen (context : AccountContext) : List Effect → Option Bool
  | [] => none
  | .setColorModeTemporary isDarkMode context' :: older =>
    if context' = context then some isDarkMode else lastChosen context older
  | .updateCallback .. :: older => lastChosen context older
  | .setScreenOffOperateInfo .. :: older => lastChosen context older
  | .updateConfiguration .. :: older => lastChosen context older

variable {context context' : AccountContext} {k k' : Core}

/-- What following a schedule can do to a context: end its override, nothing more. -/
structure EndsAtMost (context : AccountContext) (k k' : Core) : Prop where
  state : k'.stateOf context = k.stateOf context
  chosen : lastChosen context k'.decisions = lastChosen context k.decisions
  override : k'.overrideOf context = k.overrideOf context ∨
    (k'.overrideOf context).isTemporary = false

theorem EndsAtMost.refl (k : Core) : EndsAtMost context k k := ⟨rfl, rfl, .inl rfl⟩

theorem EndsAtMost.trans {k'' : Core} (h : EndsAtMost context k k')
    (h' : EndsAtMost context k' k'') : EndsAtMost context k k'' := by
  refine ⟨h'.state.trans h.state, h'.chosen.trans h.chosen, ?_⟩
  rcases h'.override with hsame | hended
  · rw [hsame]
    exact h.override
  · exact .inr hended

theorem endsAtMost_setOverride_normal (k : Core) (context' : AccountContext) :
    EndsAtMost context k (k.setOverride context' {}) := by
  refine ⟨rfl, rfl, ?_⟩
  by_cases hsame : context = context'
  · subst hsame
    exact .inr (by simp [Core.setOverride, TempColorModeInfo.isTemporary])
  · exact .inl (by simp [Core.setOverride, hsame])

theorem endsAtMost_change (k : Core) (isDarkMode : Bool) (context' : AccountContext) :
    EndsAtMost context k (k.change isDarkMode context') := by
  have hemit : EndsAtMost context k (k.emit (.updateCallback isDarkMode context')) :=
    ⟨rfl, rfl, .inl rfl⟩
  unfold Core.change Core.normal
  split_ifs
  · exact hemit.trans (endsAtMost_setOverride_normal _ context')
  · exact hemit
  · exact .refl k

theorem endsAtMost_reset (k : Core) : EndsAtMost context k k.reset := ⟨rfl, rfl, .inl rfl⟩

theorem endsAtMost_queue (k : Core) (isDarkMode : Bool) (context' : AccountContext) :
    EndsAtMost context k (k.queue isDarkMode context') := ⟨rfl, rfl, .inl rfl⟩

theorem endsAtMost_update (k : Core) (clock : Clock) (isDarkMode : Bool)
    (context' : AccountContext) (resetTempColorModeFlag bootLoadFlag : Bool) :
    EndsAtMost context k
      (k.update clock isDarkMode context' resetTempColorModeFlag bootLoadFlag) := by
  have hreset : EndsAtMost context k k.reset := endsAtMost_reset k
  unfold Core.update
  split_ifs
  · exact hreset.trans (endsAtMost_change _ isDarkMode context')
  · exact hreset
  · exact hreset.trans (endsAtMost_change _ isDarkMode context')
  · exact hreset.trans (endsAtMost_queue _ isDarkMode context')

theorem endsAtMost_react (k : Core) (env : Env) (context' : AccountContext)
    (needUpdateCallback resetTempColorModeFlag bootLoadFlag : Bool) :
    EndsAtMost context k
      (k.react env context' needUpdateCallback resetTempColorModeFlag bootLoadFlag) := by
  unfold Core.react
  split_ifs
  · exact endsAtMost_update ..
  · exact .refl k

theorem endsAtMost_screenOff (k : Core) : EndsAtMost context k k.screenOff := by
  have hoff : EndsAtMost context k { k with screen := k.screen.setScreenOff } :=
    ⟨rfl, rfl, .inl rfl⟩
  unfold Core.screenOff
  dsimp only
  split_ifs
  · exact (hoff.trans (endsAtMost_change ..)).trans (endsAtMost_reset _)
  · exact hoff

theorem endsAtMost_setState_of_ne (h : context ≠ context') (k : Core) (state : DarkModeState) :
    EndsAtMost context k (k.setState context' state) :=
  ⟨by simp [Core.setState, h], rfl, .inl rfl⟩

theorem endsAtMost_setOverride_of_ne (h : context ≠ context') (k : Core)
    (info : TempColorModeInfo) : EndsAtMost context k (k.setOverride context' info) :=
  ⟨rfl, rfl, .inl (by simp [Core.setOverride, h])⟩

theorem change_ends (hcallback : k.hasUpdateCallback = true) (isDarkMode : Bool) :
    ((k.change isDarkMode context).overrideOf context).isTemporary = false := by
  unfold Core.change Core.normal
  rw [if_pos hcallback]
  split_ifs with htemp
  · simp [Core.setOverride, TempColorModeInfo.isTemporary]
  · simpa using htemp

/-- Nothing reaches the callback: there is none, or an effective override holds it back. -/
def HeldBack (k : Core) (clock : Clock) (context : AccountContext)
    (resetTempColorModeFlag : Bool) : Prop :=
  k.hasUpdateCallback = false ∨
    (resetTempColorModeFlag = false ∧ k.follows clock context = false)

theorem HeldBack.overrideOf_update {clock : Clock} {resetTempColorModeFlag : Bool}
    (h : k.HeldBack clock context resetTempColorModeFlag) (isDarkMode bootLoadFlag : Bool) :
    (k.update clock isDarkMode context resetTempColorModeFlag bootLoadFlag).overrideOf =
      k.overrideOf := by
  unfold update
  rcases h with hcallback | ⟨rfl, hfollows⟩
  · have hchange : k.reset.change isDarkMode context = k.reset := by
      unfold change
      have hreset : k.reset.hasUpdateCallback = false := hcallback
      rw [hreset]
      rfl
    rw [hchange]
    split_ifs <;> rfl
  · rw [hfollows]
    rfl

end Core
end UiAppearance
