import Mathlib.Data.Int.ModEq
import Mathlib.Order.Bounds.Basic
import Mathlib.Tactic.Common

/-!
# Instants that come back

What repeats with period `d` happens at the instants congruent to one of them.
Its next occurrence is the least such instant after a given one, or the least
one that is not before it. Either is found by being less than a period away.
-/

namespace UiAppearance
namespace Periodic

/-- The first occurrence after `now` of what happens at `b` with period `d`. -/
def NextAfter (d b now t : ℤ) : Prop := IsLeast {u | now < u ∧ u ≡ b [ZMOD d]} t

/-- The first occurrence that is not before `now`. -/
def NextFrom (d b now t : ℤ) : Prop := IsLeast {u | now ≤ u ∧ u ≡ b [ZMOD d]} t

variable {d b now t u : ℤ}

/-- Two occurrences are at least a period apart. -/
theorem add_le_of_modEq (htu : t ≡ u [ZMOD d]) (hlt : t < u) : t + d ≤ u := by
  have hdvd : d ∣ u - t := htu.dvd
  have hle : d ≤ u - t := Int.le_of_dvd (by omega) hdvd
  omega

theorem nextAfter_iff (hd : 0 < d) :
    NextAfter d b now t ↔ t ≡ b [ZMOD d] ∧ now < t ∧ t ≤ now + d := by
  constructor
  · rintro ⟨⟨hnow, hb⟩, hleast⟩
    refine ⟨hb, hnow, ?_⟩
    -- otherwise the occurrence before it would come after now as well
    by_contra hlate
    have hprevious : t - d ≡ b [ZMOD d] := by
      simpa using hb.sub (Int.modEq_zero_iff_dvd.mpr (dvd_refl d))
    have := hleast ⟨by omega, hprevious⟩
    omega
  · rintro ⟨hb, hnow, hsoon⟩
    refine ⟨⟨hnow, hb⟩, ?_⟩
    rintro u ⟨hu, hub⟩
    by_contra hlt
    have := add_le_of_modEq (hub.trans hb.symm) (Int.not_le.mp hlt)
    omega

theorem nextFrom_iff (hd : 0 < d) :
    NextFrom d b now t ↔ t ≡ b [ZMOD d] ∧ now ≤ t ∧ t < now + d := by
  have hshift : NextFrom d b now t ↔ NextAfter d b (now - 1) t := by
    unfold NextFrom NextAfter
    simp only [Int.sub_one_lt_iff]
  rw [hshift, nextAfter_iff hd]
  refine and_congr_right fun _ => ?_
  omega

/-- Counted on from one occurrence, period by period, are all that are not before it. -/
theorem exists_add_mul_iff (hd : 0 < d) :
    (∃ n : ℕ, u = t + n * d) ↔ t ≤ u ∧ u ≡ t [ZMOD d] := by
  constructor
  · rintro ⟨n, rfl⟩
    refine ⟨?_, by simp [Int.ModEq]⟩
    have := Int.mul_nonneg (Int.natCast_nonneg n) hd.le
    omega
  · rintro ⟨hle, hmod⟩
    obtain ⟨q, hq⟩ := hmod.symm.dvd
    have hq₀ : 0 ≤ q := Int.nonneg_of_mul_nonneg_right (by omega) hd
    refine ⟨q.toNat, ?_⟩
    rw [Int.toNat_of_nonneg hq₀, Int.mul_comm q d]
    omega

/-- What starts at its next occurrence and comes back with the period misses none. -/
theorem NextFrom.exists_add_mul_iff (hd : 0 < d) (h : NextFrom d b now t) :
    (∃ n : ℕ, u = t + n * d) ↔ now ≤ u ∧ u ≡ b [ZMOD d] := by
  rw [Periodic.exists_add_mul_iff hd]
  constructor
  · rintro ⟨hle, hmod⟩
    exact ⟨h.1.1.trans hle, hmod.trans h.1.2⟩
  · rintro ⟨hle, hmod⟩
    exact ⟨h.2 ⟨hle, hmod⟩, hmod.trans h.1.2.symm⟩

theorem NextAfter.exists_add_mul_iff (hd : 0 < d) (h : NextAfter d b now t) :
    (∃ n : ℕ, u = t + n * d) ↔ now < u ∧ u ≡ b [ZMOD d] := by
  rw [Periodic.exists_add_mul_iff hd]
  constructor
  · rintro ⟨hle, hmod⟩
    exact ⟨h.1.1.trans_le hle, hmod.trans h.1.2⟩
  · rintro ⟨hlt, hmod⟩
    exact ⟨h.2 ⟨hlt, hmod⟩, hmod.trans h.1.2.symm⟩

end Periodic
end UiAppearance
