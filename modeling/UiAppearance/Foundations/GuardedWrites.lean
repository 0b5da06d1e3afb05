import UiAppearance.Foundations.Table
import Mathlib.Data.List.Basic

/-!
# Writes that an earlier value holds back

A plan has a value for each of several keys, and a key that already holds a
value that counts is left alone. The result is determined key by key, so a plan
that was only partly carried out can be carried out again from the start.
-/

namespace UiAppearance
namespace Table

variable {κ α : Type*} [DecidableEq κ]

/-- Writes carried out one after the other. -/
def putAll (t : Table κ α) (ws : List (κ × α)) : Table κ α :=
  ws.foldl (fun t w => t.put w.1 w.2) t

/-- The writes of a plan that are carried out. -/
def fillWrites (counts : α → Bool) : List (κ × α) → Table κ α → List (κ × α)
  | [], _ => []
  | w :: plan, t =>
    if (t w.1).any counts then fillWrites counts plan t
    else w :: fillWrites counts plan (t.put w.1 w.2)

def fill (counts : α → Bool) (plan : List (κ × α)) (t : Table κ α) : Table κ α :=
  t.putAll (fillWrites counts plan t)

@[simp] theorem putAll_nil (t : Table κ α) : t.putAll [] = t := rfl

@[simp] theorem putAll_cons (t : Table κ α) (w : κ × α) (ws : List (κ × α)) :
    t.putAll (w :: ws) = (t.put w.1 w.2).putAll ws := rfl

@[simp] theorem putAll_append (t : Table κ α) (ws ws' : List (κ × α)) :
    t.putAll (ws ++ ws') = (t.putAll ws).putAll ws' := List.foldl_append

variable {counts : α → Bool} {plan : List (κ × α)} {t t' : Table κ α} {k : κ}

section Plan

theorem fill_cons_of_counts {w : κ × α} (h : (t w.1).any counts = true) :
    fill counts (w :: plan) t = fill counts plan t := by
  unfold fill
  rw [fillWrites, if_pos h]

theorem fill_cons_of_not {w : κ × α} (h : ¬(t w.1).any counts = true) :
    fill counts (w :: plan) t = fill counts plan (t.put w.1 w.2) := by
  unfold fill
  rw [fillWrites, if_neg h, putAll_cons]

/-- A plan of two parts: the second part starts from what the first one leaves. -/
theorem fillWrites_append (plan' : List (κ × α)) (t : Table κ α) :
    fillWrites counts (plan ++ plan') t =
      fillWrites counts plan t ++ fillWrites counts plan' (fill counts plan t) := by
  induction plan generalizing t with
  | nil => rfl
  | cons w plan ih =>
    by_cases h : (t w.1).any counts = true
    · rw [List.cons_append, fillWrites, if_pos h, ih, fill_cons_of_counts h, fillWrites, if_pos h]
    · rw [List.cons_append, fillWrites, if_neg h, ih, fill_cons_of_not h, fillWrites, if_neg h,
        List.cons_append]

theorem fill_append (plan' : List (κ × α)) (t : Table κ α) :
    fill counts (plan ++ plan') t = fill counts plan' (fill counts plan t) := by
  unfold fill
  rw [fillWrites_append, putAll_append]
  rfl

/-- What a plan leaves at a key: the value that counted, or else the first of the plan. -/
theorem fill_apply (hplan : ∀ w ∈ plan, counts w.2 = true) (t : Table κ α) (k : κ) :
    fill counts plan t k = if (t k).any counts then t k else (plan.lookup k).or (t k) := by
  induction plan generalizing t with
  | nil => simp [fill, fillWrites]
  | cons w plan ih =>
    have hrest := ih fun w' hw' => hplan w' (List.mem_cons_of_mem _ hw')
    by_cases h : (t w.1).any counts = true
    · rw [fill_cons_of_counts h, hrest]
      by_cases hk : k = w.1
      · subst hk
        rw [if_pos h, if_pos h]
      · rw [List.lookup_cons, beq_false_of_ne hk]
    · rw [fill_cons_of_not h, hrest]
      by_cases hk : k = w.1
      · subst hk
        have hw : ((t.put w.1 w.2) w.1).any counts = true := by
          simpa using hplan w List.mem_cons_self
        rw [if_pos hw, if_neg h, put_self, List.lookup_cons, beq_self_eq_true]
        rfl
      · rw [put_of_ne hk, List.lookup_cons, beq_false_of_ne hk]

theorem fill_of_not_mem (hplan : ∀ w ∈ plan, counts w.2 = true) (hk : ∀ w ∈ plan, k ≠ w.1) :
    fill counts plan t k = t k := by
  have hlookup : plan.lookup k = none :=
    List.lookup_eq_none_iff.mpr fun w hw => bne_iff_ne.mpr (hk w hw)
  rw [fill_apply hplan, hlookup]
  exact ite_self _

end Plan

section Resumption

/-- A key that is as before, or already as the plan leaves it, ends the same way. -/
theorem fill_eq_of_partly (hplan : ∀ w ∈ plan, counts w.2 = true)
    (h : t' k = t k ∨ t' k = fill counts plan t k) :
    fill counts plan t' k = fill counts plan t k := by
  rcases h with hbefore | hafter
  · rw [fill_apply hplan, fill_apply hplan, hbefore]
  · rw [fill_apply hplan t', hafter, fill_apply hplan]
    by_cases hcounts : (t k).any counts = true
    · rw [if_pos hcounts, if_pos hcounts]
    · rw [if_neg hcounts]
      cases plan.lookup k with
      | none => exact if_neg hcounts
      | some a => exact ite_self _

/-- After some of the writes every key is as before or as the plan leaves it. -/
theorem putAll_take_fillWrites (hplan : ∀ w ∈ plan, counts w.2 = true) (n : ℕ) (t : Table κ α)
    (k : κ) : t.putAll ((fillWrites counts plan t).take n) k = t k ∨
      t.putAll ((fillWrites counts plan t).take n) k = fill counts plan t k := by
  induction plan generalizing t n with
  | nil => simp [fillWrites]
  | cons w plan ih =>
    have hrest (w' : κ × α) (hw' : w' ∈ plan) : counts w'.2 = true :=
      hplan w' (List.mem_cons_of_mem _ hw')
    by_cases h : (t w.1).any counts = true
    · rw [fill_cons_of_counts h, fillWrites, if_pos h]
      exact ih hrest n t
    · rw [fill_cons_of_not h, fillWrites, if_neg h]
      cases n with
      | zero => exact .inl rfl
      | succ n =>
        rw [List.take_succ_cons, putAll_cons]
        rcases ih hrest n (t.put w.1 w.2) with hbefore | hafter
        · by_cases hk : k = w.1
          · subst hk
            have hw : ((t.put w.1 w.2) w.1).any counts = true := by
              simpa using hplan w List.mem_cons_self
            refine .inr ?_
            rw [hbefore, fill_apply hrest, if_pos hw]
          · exact .inl (hbefore.trans (put_of_ne hk))
        · exact .inr hafter

end Resumption

section Mark

/-- The writes of a plan, and one at the end that nothing holds back. -/
def markedWrites (counts : α → Bool) (plan : List (κ × α)) (mark : κ × α) (t : Table κ α) :
    List (κ × α) :=
  fillWrites counts plan t ++ [mark]

variable {mark : κ × α}

theorem putAll_markedWrites : t.putAll (markedWrites counts plan mark t) =
    (fill counts plan t).put mark.1 mark.2 := by
  unfold markedWrites
  rw [putAll_append]
  rfl

theorem putAll_take_markedWrites (hplan : ∀ w ∈ plan, counts w.2 = true) (n : ℕ)
    (hk : k ≠ mark.1) : t.putAll ((markedWrites counts plan mark t).take n) k = t k ∨
      t.putAll ((markedWrites counts plan mark t).take n) k = fill counts plan t k := by
  unfold markedWrites
  rw [List.take_append, putAll_append]
  have hmark (t : Table κ α) (m : ℕ) : t.putAll ([mark].take m) k = t k := by
    cases m with
    | zero => rfl
    | succ m => simpa using put_of_ne hk
  rw [hmark]
  exact putAll_take_fillWrites hplan n t k

/-- Stopped anywhere and carried out again from the start, the plan leaves the same table. -/
theorem putAll_markedWrites_of_stopped (hplan : ∀ w ∈ plan, counts w.2 = true) {n : ℕ}
    (h : t' = t.putAll ((markedWrites counts plan mark t).take n)) :
    t'.putAll (markedWrites counts plan mark t') = t.putAll (markedWrites counts plan mark t) := by
  rw [putAll_markedWrites, putAll_markedWrites]
  funext k
  by_cases hk : k = mark.1
  · subst hk
    rw [put_self, put_self]
  · rw [put_of_ne hk, put_of_ne hk]
    refine fill_eq_of_partly hplan ?_
    rw [h]
    exact putAll_take_markedWrites hplan n hk

/-- A value that counts is there all the time. -/
theorem putAll_take_of_counts (hplan : ∀ w ∈ plan, counts w.2 = true) (n : ℕ)
    (hk : k ≠ mark.1) (hcounts : (t k).any counts = true) :
    t.putAll ((markedWrites counts plan mark t).take n) k = t k := by
  rcases putAll_take_markedWrites hplan n hk with hbefore | hafter
  · exact hbefore
  · rw [hafter, fill_apply hplan, if_pos hcounts]

/-- So is everything at a key that the plan does not name. -/
theorem putAll_take_of_not_mem (hplan : ∀ w ∈ plan, counts w.2 = true) (n : ℕ)
    (hk : k ≠ mark.1) (hmem : ∀ w ∈ plan, k ≠ w.1) :
    t.putAll ((markedWrites counts plan mark t).take n) k = t k := by
  rcases putAll_take_markedWrites hplan n hk with hbefore | hafter
  · exact hbefore
  · rw [hafter, fill_of_not_mem hplan hmem]

end Mark
end Table
end UiAppearance
