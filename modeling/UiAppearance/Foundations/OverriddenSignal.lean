import Mathlib.Order.Lattice
import Mathlib.Tactic.Common

/-!
# A display that follows a signal

A signal takes a value at every instant. A display follows it while it is
covered; while it is looked at it keeps what it shows, and catches up when it is
covered next. A choice made by hand shows at once. Where it goes against the
signal, it stands in for the signal until the signal leaves the chosen value of
its own accord.
-/

namespace UiAppearance
namespace OverriddenSignal

/-- A choice is kept with the instant at which it ends. -/
structure Display (τ α : Type*) where
  choice : Option (α × τ) := none
  shown : α
  covered : Bool

inductive Input (α : Type*) where
  | wait
  | uncover
  | cover
  | choose (value : α)

namespace Display

variable {τ α : Type*} (signal : τ → α) (leaving : α → τ → τ) (d : Display τ α) (t : τ)

/-- What the display would show if it were covered. -/
def asked : α :=
  match d.choice with
  | some choice => choice.1
  | none => signal t

def follow : Display τ α := if d.covered then { d with shown := d.asked signal t } else d

/-- While it is covered, the display shows what it is asked for. -/
def Settled : Prop := d.covered = true → d.shown = d.asked signal t

theorem settled_follow : (d.follow signal t).Settled signal t := by
  unfold Settled follow
  split_ifs with hcovered
  · intro _
    rfl
  · intro hcovered'
    exact absurd hcovered' hcovered

section Passing

variable [LinearOrder τ]

/-- Time passes up to `t`; a choice that is over is forgotten. -/
def pass : Display τ α :=
  follow signal { d with choice := d.choice.filter fun choice => t < choice.2 } t

theorem settled_pass : (d.pass signal t).Settled signal t :=
  settled_follow signal _ t

variable {signal d t}

/-- Nothing happens to a settled display while the signal stays and no choice ends. -/
theorem pass_eq {t' : τ} (h : d.Settled signal t) (hsignal : signal t' = signal t)
    (hchoice : ∀ choice ∈ d.choice, t' < choice.2) : d.pass signal t' = d := by
  have hkept : (d.choice.filter fun choice => t' < choice.2) = d.choice := by
    cases hd : d.choice with
    | none => rfl
    | some choice => exact Option.filter_some_pos (by simpa using hchoice choice hd)
  unfold pass
  rw [hkept]
  unfold follow
  split_ifs with hcovered
  · have hasked : d.asked signal t' = d.asked signal t := by
      unfold asked
      rw [hsignal]
    have hshown := h hcovered
    change { d with shown := d.asked signal t' } = d
    rw [hasked, ← hshown]
  · rfl

end Passing

section Choosing

variable [DecidableEq α] (value : α)

/-- Choosing what is shown already changes nothing. -/
def choose : Display τ α :=
  if value = d.shown then d
  else
    { d with
      choice := if signal t = value then none else some (value, leaving value t)
      shown := value }

theorem settled_choose (h : d.Settled signal t) :
    (d.choose signal leaving t value).Settled signal t := by
  intro hcovered
  unfold choose at hcovered ⊢
  split_ifs at hcovered ⊢ with hshown hagrees
  · exact h hcovered
  · exact hagrees.symm
  · rfl

end Choosing

/-- One input at an instant, after the time up to it has passed. -/
def next [LinearOrder τ] [DecidableEq α] (d : Display τ α) (e : τ × Input α) : Display τ α :=
  let d := d.pass signal e.1
  match e.2 with
  | .wait => d
  | .uncover => { d with covered := false }
  | .cover => follow signal { d with covered := true } e.1
  | .choose value => d.choose signal leaving e.1 value

/-- After every input the display is settled. -/
theorem settled_next [LinearOrder τ] [DecidableEq α] (e : τ × Input α) :
    (d.next signal leaving e).Settled signal e.1 := by
  obtain ⟨t, input⟩ := e
  have hpass := d.settled_pass signal t
  cases input with
  | wait => exact hpass
  | uncover =>
    intro hcovered
    cases hcovered
  | cover => exact settled_follow signal _ t
  | choose value => exact settled_choose signal leaving _ t value hpass

end Display
end OverriddenSignal
end UiAppearance
