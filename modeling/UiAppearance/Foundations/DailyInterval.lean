import Mathlib.Data.Int.Basic
import Mathlib.Tactic.Common

/-!
# Daily intervals on a line of seconds

An interval of the day is a pair of minutes; an end beyond 1440 lies on the
next day. Instants are seconds, and the local time of the day is found by
adding a fixed offset. The interval is left, from inside or from outside, at
one second of the day each.
-/

namespace UiAppearance
namespace DailyInterval

/-- Whether the interval contains a minute of the day. -/
def covers (times : ℤ × ℤ) (minute : ℤ) : Bool :=
  if times.2 ≤ 1440 then decide (times.1 ≤ minute) && decide (minute < times.2)
  else !(decide (times.2 - 1440 ≤ minute) && decide (minute < times.1))

/-- The interval and its complement are not empty. -/
def Proper (times : ℤ × ℤ) : Prop :=
  0 ≤ times.1 ∧ times.1 < times.2 ∧ times.1 < 1440 ∧ times.2 < 1440 + times.1

def secondOfDay (offset instant : ℤ) : ℤ := (instant + offset) % 86400

def coversAt (offset : ℤ) (times : ℤ × ℤ) (instant : ℤ) : Bool :=
  covers times (secondOfDay offset instant / 60)

/-- One second before the instant the day was on the given side of the interval, and now it
is on the other one. -/
def LeavesAt (offset : ℤ) (times : ℤ × ℤ) (inside : Bool) (instant : ℤ) : Prop :=
  coversAt offset times (instant - 1) = inside ∧ coversAt offset times instant = !inside

instance (offset : ℤ) (times : ℤ × ℤ) (inside : Bool) (instant : ℤ) :
    Decidable (LeavesAt offset times inside instant) :=
  inferInstanceAs (Decidable (_ ∧ _))

/-- The minute of the day at which the given side is left. -/
def leavingMinute (times : ℤ × ℤ) (inside : Bool) : ℤ :=
  (if inside then times.2 else times.1) % 1440

variable {offset instant instant' : ℤ} {times : ℤ × ℤ} {inside : Bool}

theorem secondOfDay_bounds (offset instant : ℤ) :
    0 ≤ secondOfDay offset instant ∧ secondOfDay offset instant < 86400 := by
  unfold secondOfDay
  omega

theorem secondOfDay_pred (offset instant : ℤ) :
    secondOfDay offset (instant - 1) =
      if secondOfDay offset instant = 0 then 86399 else secondOfDay offset instant - 1 := by
  unfold secondOfDay
  split_ifs <;> omega

theorem covers_eq_true {minute : ℤ} :
    covers times minute = true ↔
      (times.2 ≤ 1440 ∧ times.1 ≤ minute ∧ minute < times.2) ∨
        (1440 < times.2 ∧ (minute < times.2 - 1440 ∨ times.1 ≤ minute)) := by
  unfold covers
  split_ifs with h
  · simp only [Bool.and_eq_true, decide_eq_true_eq]
    omega
  · simp only [Bool.not_eq_true', Bool.and_eq_false_iff, decide_eq_false_iff_not]
    omega

/-- A side is left exactly at its minute. -/
theorem leavesAt_iff (h : Proper times) :
    LeavesAt offset times inside instant ↔
      secondOfDay offset instant = 60 * leavingMinute times inside := by
  obtain ⟨h₀, hlt, hstart, hend⟩ := h
  have hbounds := secondOfDay_bounds offset instant
  unfold LeavesAt coversAt
  rw [secondOfDay_pred]
  generalize secondOfDay offset instant = x at hbounds ⊢
  cases inside with
  | true =>
    simp only [leavingMinute, if_true, Bool.not_true, ← Bool.not_eq_true, covers_eq_true]
    split_ifs <;> omega
  | false =>
    simp only [leavingMinute, Bool.false_eq_true, if_false, Bool.not_false, ← Bool.not_eq_true,
      covers_eq_true]
    split_ifs <;> omega

/-- Between two instants at which neither side is left nothing changes. -/
theorem coversAt_eq_of_stays {now : ℤ} (hle : now ≤ instant)
    (hstays : ∀ t, now < t → t ≤ instant → ∀ inside, ¬LeavesAt offset times inside t) :
    coversAt offset times instant = coversAt offset times now := by
  induction instant, hle using Int.leInduction with
  | base => rfl
  | succ t hle ih =>
    rw [← ih fun u hlow hhigh => hstays u hlow (by omega)]
    by_contra hchange
    refine hstays (t + 1) (by omega) (Int.le_refl _) (coversAt offset times t) ⟨?_, ?_⟩
    · rw [Int.add_sub_cancel]
    · cases hbefore : coversAt offset times t <;> simp_all

/-- Two instants at which the same side is left are whole days apart. -/
theorem LeavesAt.day_apart (h : Proper times) (hi : LeavesAt offset times inside instant)
    (hi' : LeavesAt offset times inside instant') (hlt : instant < instant') :
    instant + 86400 ≤ instant' := by
  have hsecond := (leavesAt_iff h).mp hi
  have hsecond' := (leavesAt_iff h).mp hi'
  unfold secondOfDay at hsecond hsecond'
  omega

/-- The first instant after `now` at which the given side is left. -/
def leavingAfter (offset : ℤ) (times : ℤ × ℤ) (inside : Bool) (now : ℤ) : ℤ :=
  now + 1 + (60 * leavingMinute times inside - secondOfDay offset (now + 1)) % 86400

theorem leavesAt_leavingAfter (h : Proper times) (inside : Bool) (now : ℤ) :
    LeavesAt offset times inside (leavingAfter offset times inside now) ∧
      now < leavingAfter offset times inside now ∧
      leavingAfter offset times inside now ≤ now + 86400 := by
  have hminute : 0 ≤ leavingMinute times inside ∧ leavingMinute times inside < 1440 := by
    unfold leavingMinute
    omega
  rw [leavesAt_iff h]
  unfold leavingAfter secondOfDay
  refine ⟨?_, ?_, ?_⟩ <;> omega

/-- Within a day the side is left once. -/
theorem leavingAfter_eq (h : Proper times) {now : ℤ} (hi : LeavesAt offset times inside instant)
    (hlow : now < instant) (hhigh : instant ≤ now + 86400) :
    leavingAfter offset times inside now = instant := by
  obtain ⟨hleaves, hafter, hsoon⟩ := @leavesAt_leavingAfter offset times h inside now
  have hsecond := (leavesAt_iff h).mp hi
  have hsecond' := (leavesAt_iff h).mp hleaves
  unfold secondOfDay at hsecond hsecond'
  omega

end DailyInterval
end UiAppearance
