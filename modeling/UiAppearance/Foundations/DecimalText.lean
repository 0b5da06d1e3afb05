import Mathlib.Data.Int.Basic
import Mathlib.Data.List.TakeWhile
import Mathlib.Tactic.Common

/-!
# Signed decimal text

Printing is Lean's own `toString`. Reading follows the C conversions: an
optional sign, then the longest run of decimal digits, and whatever stands
behind that run is left alone. The two are inverse on printed integers, with
or without a trailing remainder that does not start with a digit. Next to a
separator that is neither a digit nor a sign, a printed integer can be told
from the text around it.
-/

namespace UiAppearance
namespace DecimalText

/-- The longest run of decimal digits at the front of a text. -/
def leadingDigits (cs : List Char) : List Char := cs.takeWhile Char.isDigit

/-- Positional value of a run of decimal digits. -/
def digitsValue (cs : List Char) : ℕ := Nat.ofDigitChars 10 cs 0

/-- Value of the leading digits, or `none` when there is not even one. -/
def readNat (cs : List Char) : Option ℕ :=
  if leadingDigits cs = [] then none else some (digitsValue (leadingDigits cs))

/-- A minus sign is the only sign accepted here. -/
def readInt : List Char → Option ℤ
  | '-' :: cs => (readNat cs).map fun n => -(n : ℤ)
  | cs => (readNat cs).map fun n => (n : ℤ)

theorem leadingDigits_toDigits (n : ℕ) :
    leadingDigits (Nat.toDigits 10 n) = Nat.toDigits 10 n := by
  unfold leadingDigits
  rw [List.takeWhile_eq_self_iff]
  intro c hc
  exact Nat.isDigit_of_mem_toDigits (by decide) (by decide) hc

theorem readNat_toDigits (n : ℕ) : readNat (Nat.toDigits 10 n) = some n := by
  simp [readNat, leadingDigits_toDigits, digitsValue, Nat.toDigits_ne_nil]

/-- Printed naturals never start with the minus sign, so the sign test falls through. -/
theorem readInt_toDigits (n : ℕ) : readInt (Nat.toDigits 10 n) = some (n : ℤ) := by
  have hn := readNat_toDigits n
  cases hd : Nat.toDigits 10 n with
  | nil => exact absurd hd Nat.toDigits_ne_nil
  | cons c cs =>
    have hc : c.isDigit = true :=
      Nat.isDigit_of_mem_toDigits (b := 10) (n := n) (by decide) (by decide) (by simp [hd])
    have hminus : c ≠ '-' := by
      rintro rfl
      exact absurd hc (by decide)
    rw [hd] at hn
    unfold readInt
    split
    · next h => exact absurd (List.cons.inj h).1 hminus
    · simp [hn]

theorem toList_toString_ofNat (n : ℕ) : (toString (n : ℤ)).toList = Nat.toDigits 10 n := by
  change (Int.repr (Int.ofNat n)).toList = _
  simp [Int.repr]

theorem toList_toString_negSucc (n : ℕ) :
    (toString (Int.negSucc n)).toList = '-' :: Nat.toDigits 10 (n + 1) := by
  change (Int.repr (Int.negSucc n)).toList = _
  simp [Int.repr]

/-- Reading a printed integer gives it back. -/
theorem readInt_toString (v : ℤ) : readInt (toString v).toList = some v := by
  cases v with
  | ofNat n =>
    have h := toList_toString_ofNat n
    rw [Int.ofNat_eq_natCast, h, readInt_toDigits]
  | negSucc n =>
    rw [toList_toString_negSucc]
    simp [readInt, readNat_toDigits, Int.negSucc_eq]

theorem toString_injective {v w : ℤ} (h : toString v = toString w) : v = w := by
  have hread : readInt (toString v).toList = readInt (toString w).toList := by rw [h]
  rw [readInt_toString, readInt_toString] at hread
  exact Option.some.inj hread

/-- A printed integer consists of digits and perhaps a minus sign. -/
theorem not_mem_toString {c : Char} (hdigit : c.isDigit = false) (hminus : c ≠ '-') (v : ℤ) :
    c ∉ (toString v).toList := by
  have hnot (n : ℕ) : c ∉ Nat.toDigits 10 n := by
    intro hc
    rw [Nat.isDigit_of_mem_toDigits (by decide) (by decide) hc] at hdigit
    cases hdigit
  cases v with
  | ofNat n =>
    have h := toList_toString_ofNat n
    rw [Int.ofNat_eq_natCast, h]
    exact hnot n
  | negSucc n =>
    rw [toList_toString_negSucc, List.mem_cons, not_or]
    exact ⟨hminus, hnot (n + 1)⟩

/-- A separator that neither front part contains stands at the same place in both. -/
theorem append_cons_injective {c : Char} {l l' r r' : List Char} (hl : c ∉ l) (hl' : c ∉ l')
    (h : l ++ c :: r = l' ++ c :: r') : l = l' ∧ r = r' := by
  induction l generalizing l' with
  | nil =>
    cases l' with
    | nil => exact ⟨rfl, (List.cons.inj h).2⟩
    | cons d l' =>
      have hc : c = d := (List.cons.inj h).1
      exact absurd (hc ▸ List.mem_cons_self) hl'
  | cons d l ih =>
    cases l' with
    | nil =>
      have hc : d = c := (List.cons.inj h).1
      exact absurd (hc ▸ List.mem_cons_self) hl
    | cons d' l' =>
      obtain ⟨hd, htail⟩ := List.cons.inj h
      rw [List.mem_cons, not_or] at hl hl'
      obtain ⟨rfl, rfl⟩ := ih hl.2 hl'.2 htail
      exact ⟨by rw [hd], rfl⟩

section Separated

variable {c : Char} {l l' : List Char} {v w : ℤ}

/-- A number ends where the first separator stands. -/
theorem printed_append_injective (hdigit : c.isDigit = false) (hminus : c ≠ '-')
    (h : (toString v).toList ++ c :: l = (toString w).toList ++ c :: l') : v = w ∧ l = l' := by
  have hnot (v : ℤ) : c ∉ (toString v).toList := not_mem_toString hdigit hminus v
  obtain ⟨hprinted, hrest⟩ := append_cons_injective (hnot v) (hnot w) h
  exact ⟨toString_injective (String.toList_injective hprinted), hrest⟩

/-- A number begins behind the last separator. -/
theorem append_printed_injective (hdigit : c.isDigit = false) (hminus : c ≠ '-')
    (h : l ++ c :: (toString v).toList = l' ++ c :: (toString w).toList) : l = l' ∧ v = w := by
  have hnot (v : ℤ) : c ∉ (toString v).toList.reverse := by
    rw [List.mem_reverse]
    exact not_mem_toString hdigit hminus v
  have hreverse := congrArg List.reverse h
  simp only [List.reverse_append, List.reverse_cons, List.append_assoc, List.singleton_append]
    at hreverse
  obtain ⟨hprinted, hrest⟩ := append_cons_injective (hnot v) (hnot w) hreverse
  have hlist := List.reverse_inj.mp hprinted
  exact ⟨List.reverse_inj.mp hrest, toString_injective (String.toList_injective hlist)⟩

end Separated

end DecimalText
end UiAppearance
