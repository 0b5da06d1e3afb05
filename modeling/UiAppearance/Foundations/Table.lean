import Mathlib.Logic.Function.Basic
import Mathlib.Tactic.Common

/-!
# Lookup tables

A map is the function that looks keys up. Next to plain writing there are the
two faces of an inserting subscript: the value it yields, which is the default
for an absent key, and the entry it leaves behind when it was only read.
-/

namespace UiAppearance

abbrev Table (κ α : Type*) := κ → Option α

namespace Table

variable {κ α : Type*} [DecidableEq κ]

def empty : Table κ α := fun _ => none

def put (t : Table κ α) (k : κ) (a : α) : Table κ α := Function.update t k (some a)

def remove (t : Table κ α) (k : κ) : Table κ α := Function.update t k none

/-- The value an inserting subscript yields. -/
def valueAt (t : Table κ α) (k : κ) (default : α) : α := (t k).getD default

/-- The table after an inserting subscript was read. -/
def touch (t : Table κ α) (k : κ) (default : α) : Table κ α :=
  if (t k).isSome then t else t.put k default

variable {t : Table κ α} {j k : κ} {a d : α}

omit [DecidableEq κ] in
theorem valueAt_of_some (h : t k = some a) : t.valueAt k d = a := by simp [valueAt, h]

omit [DecidableEq κ] in
theorem valueAt_of_none (h : t k = none) : t.valueAt k d = d := by simp [valueAt, h]

@[simp] theorem put_self : t.put k a k = some a := by simp [put]

theorem put_of_ne (h : j ≠ k) : t.put k a j = t j := by simp [put, h]

@[simp] theorem put_put_self {b : α} : (t.put k a).put k b = t.put k b :=
  Function.update_idem ..

@[simp] theorem valueAt_put_self : (t.put k a).valueAt k d = a := by simp [valueAt]

theorem valueAt_put_of_ne (h : j ≠ k) : (t.put k a).valueAt j d = t.valueAt j d := by
  simp [valueAt, put_of_ne h]

theorem put_of_some (h : t k = some a) : t.put k a = t := Function.update_eq_self_iff.mpr h.symm

theorem remove_of_none (h : t k = none) : t.remove k = t := Function.update_eq_self_iff.mpr h.symm

@[simp] theorem remove_put_self : (t.put k a).remove k = t.remove k := Function.update_idem ..

/-- An entry that is taken back leaves no trace, nor does a removal where there was nothing. -/
theorem remove_remove_put (hk : t k = none) (hj : t j = none) :
    ((t.put k a).remove j).remove k = t := by
  by_cases hsame : j = k
  · subst hsame
    rw [remove_put_self, remove_of_none hj, remove_of_none hj]
  · have hcomm : (t.put k a).remove j = (t.remove j).put k a :=
      Function.update_comm (Ne.symm hsame) ..
    rw [hcomm, remove_put_self, remove_of_none hj, remove_of_none hk]

theorem touch_of_some (h : t k = some a) : t.touch k d = t := by simp [touch, h]

theorem touch_of_none (h : t k = none) : t.touch k d = t.put k d := by simp [touch, h]

theorem touch_of_ne (h : j ≠ k) : t.touch k d j = t j := by
  unfold touch
  split_ifs
  · rfl
  · exact put_of_ne h

@[simp] theorem touch_self : t.touch k d k = some (t.valueAt k d) := by
  cases h : t k with
  | some a => rw [touch_of_some h, h, valueAt_of_some h]
  | none => rw [touch_of_none h, put_self, valueAt_of_none h]

/-- Reading with the inserting subscript writes back what it reads. -/
theorem touch_eq_put : t.touch k d = t.put k (t.valueAt k d) := by
  cases h : t k with
  | some a =>
    rw [touch_of_some h, valueAt_of_some h, put_of_some h]
  | none => rw [touch_of_none h, valueAt_of_none h]

/-- Reading with the inserting subscript changes no value such a subscript yields. -/
@[simp] theorem valueAt_touch : (t.touch k d).valueAt j d = t.valueAt j d := by
  by_cases hj : j = k
  · subst hj
    exact valueAt_of_some touch_self
  · unfold valueAt
    rw [touch_of_ne hj]

/-- `f` was applied at each of the keys, to the entry or to a default where there was none. -/
structure Assigned (f : α → α) (d : α) (ks : List κ) (t t' : Table κ α) : Prop where
  others : ∀ k, k ∉ ks → t' k = t k
  entries : ∀ k ∈ ks, t' k = some (f (t.valueAt k d))

namespace Assigned

variable {f : α → α} {ks : List κ} {t₁ t' : Table κ α}

omit [DecidableEq κ] in
theorem nil : Assigned f d [] t t := ⟨fun _ _ => rfl, nofun⟩

/-- Writing at one key, then at the others. -/
theorem cons (hf : ∀ a, f (f a) = f a) (hput : t₁ = t.put k (f (t.valueAt k d)))
    (h : Assigned f d ks t₁ t') : Assigned f d (k :: ks) t t' where
  others := by
    intro j hj
    rw [List.mem_cons, not_or] at hj
    rw [h.others j hj.2, hput, put_of_ne hj.1]
  entries := by
    intro j hj
    by_cases hjk : j = k
    · subst hjk
      by_cases hks : j ∈ ks
      · rw [h.entries j hks, hput, valueAt_put_self, hf]
      · rw [h.others j hks, hput, put_self]
    · rw [h.entries j ((List.mem_cons.mp hj).resolve_left hjk), hput, valueAt_put_of_ne hjk]

omit [DecidableEq κ] in
/-- Nothing has changed exactly where every key already held such a value. -/
theorem eq_iff (h : Assigned f d ks t t') :
    t' = t ↔ ∀ k ∈ ks, ∃ a, t k = some a ∧ f a = a := by
  constructor
  · rintro rfl k hk
    have hentry := h.entries k hk
    refine ⟨_, hentry, ?_⟩
    rw [valueAt_of_some hentry] at hentry
    exact (Option.some.inj ((h.entries k hk).symm.trans hentry)).symm
  · intro hheld
    funext k
    by_cases hk : k ∈ ks
    · obtain ⟨a, ha, hfa⟩ := hheld k hk
      rw [h.entries k hk, valueAt_of_some ha, hfa, ha]
    · exact h.others k hk

end Assigned
end Table
end UiAppearance
