import Mathlib.Data.Set.Insert
import Mathlib.Tactic.Common

/-!
# Copies that are told to reread

Whoever changes a value announces that it has changed, and the announcement does
not say to what. A reader takes the announcement, reads the value, and puts what
it has read into the copy, which may be at a much later moment. As long as the
readers of one copy do not overlap, the copy is right whenever no announcement
and no reader is left.
-/

namespace UiAppearance

/-- A value and its copy, whether a change is announced, and what readers have read and not yet
put into the copy. -/
structure Replica (α : Type*) where
  stored : α
  copy : α
  announced : Prop
  held : Set α

namespace Replica

variable {α : Type*} {r r' : Replica α}

/-- The value may be another one if that is announced. The copy and the readers stay. -/
structure Changed (r r' : Replica α) : Prop where
  copy : r'.copy = r.copy
  held : r'.held = r.held
  kept : r.announced → r'.announced
  told : r'.stored = r.stored ∨ r'.announced

/-- What may happen to a value and its copy, seen from outside. -/
inductive Step (r r' : Replica α) : Prop
  | change (changed : Changed r r')
  /-- The announcement that led to the reading may have been the last one. -/
  | read (stored : r'.stored = r.stored) (alone : r.held = ∅) (held : r'.held = {r.stored})
  | store (stored : r'.stored = r.stored) (kept : r.announced → r'.announced)
      (held : r'.held ⊆ r.held) (copy : r'.copy ∈ r.held)
  /-- Both are set to the same at a moment when nobody reads. -/
  | refresh (kept : r.announced → r'.announced) (alone : r'.held = ∅) (copy : r'.copy = r'.stored)
  | subscribe (announced : r'.announced)

/-- Whatever is out of date is announced. -/
def Follows (r : Replica α) : Prop :=
  r.announced ∨ (∀ a ∈ r.held, a = r.stored) ∧ (r.held = ∅ → r.copy = r.stored)

theorem Follows.step (h : r.Follows) (hstep : Step r r') : r'.Follows := by
  cases hstep with
  | change hchanged =>
    rcases h with hannounced | hread
    · exact .inl (hchanged.kept hannounced)
    · rcases hchanged.told with hstored | hannounced
      · rw [← hstored, ← hchanged.copy, ← hchanged.held] at hread
        exact .inr hread
      · exact .inl hannounced
  | read hstored halone hheld =>
    refine .inr ⟨?_, ?_⟩
    · intro a ha
      rw [hheld] at ha
      rw [hstored]
      exact ha
    · intro hempty
      exact absurd (hheld.symm.trans hempty) (Set.singleton_ne_empty _)
  | store hstored hkept hheld hcopy =>
    rcases h with hannounced | ⟨hread, -⟩
    · exact .inl (hkept hannounced)
    · rw [← hstored] at hread
      exact .inr ⟨fun a ha => hread a (hheld ha), fun _ => hread _ hcopy⟩
  | refresh hkept halone hcopy =>
    rcases h with hannounced | -
    · exact .inl (hkept hannounced)
    · refine .inr ⟨?_, fun _ => hcopy⟩
      intro a ha
      rw [halone] at ha
      exact absurd ha (Set.notMem_empty a)
  | subscribe hannounced => exact .inl hannounced

/-- Without an announcement a copy stays as right or as wrong as it is. -/
theorem Changed.untold (h : Changed r r') (huntold : ¬r'.announced) :
    r'.stored = r.stored ∧ r'.copy = r.copy :=
  ⟨h.told.resolve_right huntold, h.copy⟩

end Replica
end UiAppearance
