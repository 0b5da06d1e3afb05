import Mathlib.Data.Set.Insert
import Mathlib.Logic.Function.Basic
import Mathlib.Tactic.Common

/-!
# Ledgers

Resources are created and destroyed outside; a ledger records their names in
slots. It is balanced when what is alive is what is recorded, and nothing is
recorded twice. A slot may be cleared when its resource is destroyed, and an
empty slot may be filled with a resource that has just been created.
-/

namespace UiAppearance

variable {σ ι : Type*}

structure Balanced (live : Set ι) (slot : σ → Option ι) : Prop where
  recorded : ∀ i, i ∈ live ↔ ∃ a, slot a = some i
  once : ∀ a b i, slot a = some i → slot b = some i → a = b

namespace Balanced

variable [DecidableEq σ] {live : Set ι} {slot : σ → Option ι} {a : σ} {i : ι}

omit [DecidableEq σ] in
theorem empty : Balanced (∅ : Set ι) (fun _ : σ => none) where
  recorded := by simp
  once := nofun

/-- What a cleared slot held is no longer recorded anywhere. -/
theorem release (h : Balanced live slot) :
    Balanced {j | j ∈ live ∧ slot a ≠ some j} (Function.update slot a none) where
  recorded := by
    intro j
    constructor
    · rintro ⟨hlive, hother⟩
      obtain ⟨b, hb⟩ := (h.recorded j).mp hlive
      refine ⟨b, ?_⟩
      rw [Function.update_of_ne]
      · exact hb
      · rintro rfl
        exact hother hb
    · rintro ⟨b, hb⟩
      have hne : b ≠ a := by
        rintro rfl
        rw [Function.update_self] at hb
        cases hb
      rw [Function.update_of_ne hne] at hb
      exact ⟨(h.recorded j).mpr ⟨b, hb⟩, fun ha => hne (h.once b a j hb ha)⟩
  once := by
    intro b c j hb hc
    by_cases hba : b = a
    · rw [hba, Function.update_self] at hb
      cases hb
    · by_cases hca : c = a
      · rw [hca, Function.update_self] at hc
        cases hc
      · rw [Function.update_of_ne hba] at hb
        rw [Function.update_of_ne hca] at hc
        exact h.once b c j hb hc

/-- A new resource goes into an empty slot. -/
theorem fill (h : Balanced live slot) (ha : slot a = none) (hi : i ∉ live) :
    Balanced (insert i live) (Function.update slot a (some i)) where
  recorded := by
    intro j
    rw [Set.mem_insert_iff]
    constructor
    · rintro (rfl | hlive)
      · exact ⟨a, Function.update_self ..⟩
      · obtain ⟨b, hb⟩ := (h.recorded j).mp hlive
        have hne : b ≠ a := by
          rintro rfl
          rw [ha] at hb
          cases hb
        exact ⟨b, (Function.update_of_ne hne ..).trans hb⟩
    · rintro ⟨b, hb⟩
      by_cases hba : b = a
      · rw [hba, Function.update_self] at hb
        exact .inl (Option.some.inj hb).symm
      · rw [Function.update_of_ne hba] at hb
        exact .inr ((h.recorded j).mpr ⟨b, hb⟩)
  once := by
    have hnew (b : σ) (hb : slot b = some i) : False := hi ((h.recorded i).mpr ⟨b, hb⟩)
    intro b c j hb hc
    by_cases hba : b = a <;> by_cases hca : c = a
    · rw [hba, hca]
    · rw [hba, Function.update_self] at hb
      obtain rfl := Option.some.inj hb
      rw [Function.update_of_ne hca] at hc
      exact (hnew c hc).elim
    · rw [hca, Function.update_self] at hc
      obtain rfl := Option.some.inj hc
      rw [Function.update_of_ne hba] at hb
      exact (hnew b hb).elim
    · rw [Function.update_of_ne hba] at hb
      rw [Function.update_of_ne hca] at hc
      exact h.once b c j hb hc

end Balanced
end UiAppearance
