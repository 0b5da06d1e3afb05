import UiAppearance.Foundations.Table

/-!
# A memory over a store with inheritance

Every key has a value for each item. A store keeps some of them; a key without
a stored value takes over the one of its parent, and a default where there is
none either. A memory holds whole entries of the keys in use. It is restorable
when loading every entry anew would give what it holds.
-/

namespace UiAppearance

structure InheritedStore (κ ι ω : Type*) where
  memory : Table κ (ι → ω)
  stored : ι → Table κ ω

namespace InheritedStore

variable {κ ι ω : Type*} (parent : κ → Option κ) (default : ι → ω)

/-- What a load finds for an item of a key. -/
def loaded (a : InheritedStore κ ι ω) (k : κ) (i : ι) : ω :=
  match a.stored i k with
  | some v => v
  | none => ((parent k).bind (a.stored i)).getD (default i)

def Restorable (a : InheritedStore κ ι ω) : Prop :=
  ∀ k entry, a.memory k = some entry → ∀ i, entry i = a.loaded parent default k i

/-- Some keys got new entries, of which some items were stored as well. -/
structure Wrote (ks : List κ) (items : ι → Prop) (value : κ → ι → ω)
    (a a' : InheritedStore κ ι ω) : Prop where
  memory : ∀ k ∈ ks, a'.memory k = some (value k)
  others : ∀ k, k ∉ ks → a'.memory k = a.memory k
  stored : ∀ k ∈ ks, ∀ i, items i → a'.stored i k = some (value k i)
  kept : ∀ k i, k ∉ ks ∨ ¬items i → a'.stored i k = a.stored i k

variable {parent default} {ks : List κ} {items : ι → Prop} {value : κ → ι → ω}
  {a a' : InheritedStore κ ι ω}

/-- Storing for a key nobody inherits from what it would load anyway changes no load. -/
theorem loaded_of_backfilled
    (h : ∀ i k, a'.stored i k = a.stored i k ∨
      ((∀ j, parent j ≠ some k) ∧ a'.stored i k = some (a.loaded parent default k i)))
    (k : κ) (i : ι) : a'.loaded parent default k i = a.loaded parent default k i := by
  rcases h i k with hown | ⟨-, hbackfilled⟩
  · unfold loaded
    rw [hown]
    cases hstored : a.stored i k with
    | some v => rfl
    | none =>
      cases hparent : parent k with
      | none => rfl
      | some p =>
        rcases h i p with hbase | ⟨hchildless, -⟩
        · simp only [Option.bind_some, hbase]
        · exact absurd hparent (hchildless k)
  · rw [loaded, hbackfilled]

namespace Wrote

theorem loaded_self (h : Wrote ks items value a a') {k : κ} (hk : k ∈ ks) {i : ι} (hi : items i) :
    a'.loaded parent default k i = value k i := by
  unfold loaded
  rw [h.stored k hk i hi]

/-- Items that were not stored load as before. -/
theorem loaded_of_not (h : Wrote ks items value a a') {i : ι} (hi : ¬items i) (k : κ) :
    a'.loaded parent default k i = a.loaded parent default k i := by
  have hkept : a'.stored i = a.stored i := funext fun j => h.kept j i (.inr hi)
  unfold loaded
  rw [hkept]

/-- A key that was not written loads another value only if it inherits one that was stored. -/
theorem loaded_other (h : Wrote ks items value a a') {k : κ} (hk : k ∉ ks) (i : ι) :
    a'.loaded parent default k i = a.loaded parent default k i ∨
      ∃ p, parent k = some p ∧ p ∈ ks ∧ items i ∧ a.stored i k = none ∧
        a'.loaded parent default k i = value p i := by
  have hown : a'.stored i k = a.stored i k := h.kept k i (.inl hk)
  unfold loaded
  rw [hown]
  cases hstored : a.stored i k with
  | some v => exact .inl rfl
  | none =>
    cases hparent : parent k with
    | none => exact .inl rfl
    | some p =>
      by_cases hp : p ∈ ks ∧ items i
      · obtain ⟨hmem, hi⟩ := hp
        refine .inr ⟨p, rfl, hmem, hi, rfl, ?_⟩
        change ((some p).bind (a'.stored i)).getD (default i) = value p i
        rw [Option.bind_some, h.stored p hmem i hi]
        rfl
      · have hsame : a'.stored i p = a.stored i p := h.kept p i (not_and_or.mp hp)
        refine .inl ?_
        change ((some p).bind (a'.stored i)).getD (default i) =
          ((some p).bind (a.stored i)).getD (default i)
        rw [Option.bind_some, Option.bind_some, hsame]

/-- A write keeps a memory restorable exactly when what it leaves unstored would be loaded
anyway, and those who inherit what it stores hold that value already. -/
theorem restorable_iff (h : Wrote ks items value a a') (ha : a.Restorable parent default) :
    a'.Restorable parent default ↔
      (∀ k ∈ ks, ∀ i, ¬items i → value k i = a.loaded parent default k i) ∧
        ∀ k entry p, a.memory k = some entry → k ∉ ks → parent k = some p → p ∈ ks →
          ∀ i, items i → a.stored i k = none → entry i = value p i := by
  constructor
  · intro hrestorable
    constructor
    · intro k hk i hi
      rw [← h.loaded_of_not hi k]
      exact hrestorable k (value k) (h.memory k hk) i
    · intro k entry p hentry hk hparent hp i hi hnone
      have hown : a'.stored i k = none := (h.kept k i (.inl hk)).trans hnone
      rw [hrestorable k entry ((h.others k hk).trans hentry) i, loaded, hown, hparent]
      change ((some p).bind (a'.stored i)).getD (default i) = value p i
      rw [Option.bind_some, h.stored p hp i hi]
      rfl
  · rintro ⟨hunstored, hinherit⟩ k entry hentry i
    by_cases hk : k ∈ ks
    · obtain rfl : value k = entry := Option.some.inj ((h.memory k hk).symm.trans hentry)
      by_cases hi : items i
      · exact (h.loaded_self hk hi).symm
      · rw [h.loaded_of_not hi]
        exact hunstored k hk i hi
    · rw [h.others k hk] at hentry
      rcases h.loaded_other hk i with hsame | ⟨p, hparent, hp, hi, hnone, hvalue⟩
      · rw [hsame]
        exact ha k entry hentry i
      · rw [hvalue]
        exact hinherit k entry p hentry hk hparent hp i hi hnone

end Wrote

end InheritedStore
end UiAppearance
