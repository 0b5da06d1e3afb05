import UiAppearance.Foundations.DecimalText
import Mathlib.Data.List.Basic
import Mathlib.Data.List.Induction

/-!
# Canonical decimal forms

What a decimal form of an integer looks like: digits without a superfluous zero
in front, and a minus sign before the negative ones only. These are exactly the
texts that are printed.
-/

namespace UiAppearance
namespace DecimalText

/-- At least one digit, and no zero in front of another digit. -/
structure CanonicalDigits (cs : List Char) : Prop where
  nonempty : cs ≠ []
  digits : ∀ c ∈ cs, c.isDigit = true
  leading : cs.head? = some '0' → cs = ['0']

/-- The decimal form of an integer, by its shape: a minus sign stands only before a value that is
not zero. -/
inductive IsDecimal : List Char → ℤ → Prop
  | natural {cs : List Char} (h : CanonicalDigits cs) : IsDecimal cs (digitsValue cs)
  | negative {cs : List Char} (h : CanonicalDigits cs) (hzero : cs ≠ ['0']) :
    IsDecimal ('-' :: cs) (-(digitsValue cs : ℤ))

theorem digitChar_of_isDigit {c : Char} (h : c.isDigit = true) :
    ∃ d < 10, c.toNat - '0'.toNat = d ∧ d.digitChar = c := by
  have hbounds : 48 ≤ c.toNat ∧ c.toNat ≤ 57 := Char.isDigit_iff_toNat.mp h
  have hchar : ∀ d < 10, d.digitChar = Char.ofNat (48 + d) := by decide
  refine ⟨c.toNat - 48, by omega, rfl, ?_⟩
  rw [hchar _ (by omega), Nat.add_sub_cancel' hbounds.1, Char.ofNat_toNat]

theorem digitsValue_append_digitChar (cs : List Char) {d : ℕ} (hd : d < 10) :
    digitsValue (cs ++ [d.digitChar]) = 10 * digitsValue cs + d := by
  unfold digitsValue
  rw [Nat.ofDigitChars_append, Nat.ofDigitChars_cons_digitChar_of_lt_ten hd, Nat.ofDigitChars_nil]

namespace CanonicalDigits

/-- Without the last digit the run is canonical as well, and its value is not zero. -/
theorem dropLast {cs : List Char} {c : Char} (h : CanonicalDigits (cs ++ [c])) (hcs : cs ≠ []) :
    CanonicalDigits cs ∧ cs ≠ ['0'] := by
  have hleading : cs.head? ≠ some '0' := by
    intro hzero
    have hsingle := h.leading (by rw [List.head?_append_of_ne_nil _ hcs, hzero])
    have hlength := congrArg List.length hsingle
    have hpos := List.length_pos_iff.mpr hcs
    simp at hlength
    contradiction
  refine ⟨⟨hcs, fun d hd => h.digits d (List.mem_append_left _ hd), fun hzero => ?_⟩, ?_⟩
  · exact absurd hzero hleading
  · rintro rfl
    exact hleading rfl

/-- A canonical run is what its value prints as. -/
theorem toDigits_digitsValue {cs : List Char} (h : CanonicalDigits cs) :
    Nat.toDigits 10 (digitsValue cs) = cs := by
  induction cs using List.reverseRecOn with
  | nil => exact absurd rfl h.nonempty
  | append_singleton cs c ih =>
    obtain ⟨d, hd, -, rfl⟩ := digitChar_of_isDigit (h.digits c (by simp))
    rw [digitsValue_append_digitChar cs hd]
    by_cases hcs : cs = []
    · subst hcs
      have hvalue : 10 * digitsValue [] + d = d := by simp [digitsValue]
      rw [hvalue, Nat.toDigits_of_lt_base hd]
      rfl
    · obtain ⟨hcanonical, hzero⟩ := h.dropLast hcs
      have hprinted := ih hcanonical
      have hpos : 0 < digitsValue cs := by
        rw [Nat.pos_iff_ne_zero]
        intro hvalue
        rw [hvalue] at hprinted
        exact hzero hprinted.symm
      rw [← Nat.toDigits_append_toDigits (by decide) hpos hd, hprinted,
        Nat.toDigits_of_lt_base hd]

end CanonicalDigits

theorem canonicalDigits_toDigits (n : ℕ) : CanonicalDigits (Nat.toDigits 10 n) where
  nonempty := Nat.toDigits_ne_nil
  digits := fun c hc => Nat.isDigit_of_mem_toDigits (by decide) (by decide) hc
  leading := by
    induction n using Nat.strong_induction_on with
    | _ n ih =>
      by_cases hn : n < 10
      · rw [Nat.toDigits_of_lt_base hn]
        intro hzero
        rw [Option.some.inj hzero]
      · rw [Nat.toDigits_of_base_le (by decide) (by omega),
          List.head?_append_of_ne_nil _ Nat.toDigits_ne_nil]
        intro hzero
        have hvalue := congrArg digitsValue (ih (n / 10) (by omega) hzero)
        have hquotient : n / 10 = 0 := Nat.ofDigitChars_ten_toDigits.symm.trans hvalue
        omega

/-- The decimal forms are the texts that are printed. -/
theorem isDecimal_iff {cs : List Char} {v : ℤ} : IsDecimal cs v ↔ cs = (toString v).toList := by
  constructor
  · intro h
    cases h with
    | natural h =>
      rw [toList_toString_ofNat, h.toDigits_digitsValue]
    | @negative cs h hzero =>
      obtain ⟨n, hn⟩ : ∃ n, digitsValue cs = n + 1 := by
        refine Nat.exists_eq_add_one_of_ne_zero fun hvalue => hzero ?_
        rw [← h.toDigits_digitsValue, hvalue]
        rfl
      have hprinted := h.toDigits_digitsValue
      rw [hn] at hprinted ⊢
      have hneg : (-((n + 1 : ℕ) : ℤ)) = Int.negSucc n := rfl
      rw [hneg, toList_toString_negSucc, hprinted]
  · rintro rfl
    cases v with
    | ofNat n =>
      have hvalue : digitsValue (Nat.toDigits 10 n) = n := Nat.ofDigitChars_ten_toDigits
      have hdecimal := IsDecimal.natural (canonicalDigits_toDigits n)
      rw [hvalue] at hdecimal
      rw [Int.ofNat_eq_natCast, toList_toString_ofNat]
      exact hdecimal
    | negSucc n =>
      have hvalue : digitsValue (Nat.toDigits 10 (n + 1)) = n + 1 :=
        Nat.ofDigitChars_ten_toDigits
      have hdecimal := IsDecimal.negative (canonicalDigits_toDigits (n + 1)) fun hzero => by
        rw [hzero] at hvalue
        exact absurd hvalue (Nat.succ_ne_zero n).symm
      rw [hvalue] at hdecimal
      rw [toList_toString_negSucc]
      exact hdecimal

end DecimalText
end UiAppearance
