import Mathlib.Data.Rat.Defs
import Mathlib.Order.Basic
import Mathlib.Tactic.Common

/-!
# Scales written as text

`strtod` belongs to the C library and is a parameter here: the value it finds,
when that is a finite number, the length of the text it is found in, and
whether it reports a range error. What is made of it is defined on top.
-/

namespace UiAppearance

structure StrtodResult where
  value : Option ℚ
  consumed : ℕ
  rangeError : Bool

abbrev Strtod := String → StrtodResult

/-- `std::stod` throws where nothing is converted or the range is left. -/
def stod (strtod : Strtod) (text : String) : Option (Option ℚ) :=
  let r := strtod text
  if r.consumed = 0 then none else if r.rangeError then none else some r.value

def minFontScale : ℚ := 0
def maxFontScale : ℚ := 5

/-- Nothing follows the number, up to the end of the C string. -/
def endsAfter (text : String) (consumed : ℕ) : Bool :=
  match (text.toList.drop consumed).head? with
  | none => true
  | some c => c = Char.ofNat 0

def isValidFontWeightScaleString (strtod : Strtod) (value : String) : Bool :=
  if value = "" then false
  else
    let r := strtod value
    if r.consumed = 0 || !endsAfter value r.consumed || r.rangeError then false
    else
      match r.value with
      | none => false
      | some fontWeightScale =>
        decide (minFontScale < fontWeightScale) && decide (fontWeightScale ≤ maxFontScale)

/-- `std::stod` makes a number above 0 and up to 5 of the text. -/
def UsableScale (strtod : Strtod) (text : String) : Prop :=
  ∃ scale, stod strtod text = some (some scale) ∧ minFontScale < scale ∧ scale ≤ maxFontScale

theorem usableScale_of_isValid {strtod : Strtod} {value : String}
    (h : isValidFontWeightScaleString strtod value = true) : UsableScale strtod value := by
  unfold isValidFontWeightScaleString at h
  dsimp only at h
  split_ifs at h with hempty hread
  simp only [Bool.or_eq_true, decide_eq_true_eq, not_or, Bool.not_eq_true] at hread
  obtain ⟨⟨hconsumed, -⟩, hrange⟩ := hread
  cases hvalue : (strtod value).value with
  | none => simp [hvalue] at h
  | some scale =>
    simp only [hvalue, Bool.and_eq_true, decide_eq_true_eq] at h
    refine ⟨scale, ?_, h.1, h.2⟩
    unfold stod
    dsimp only
    rw [if_neg hconsumed, hrange, if_neg Bool.false_ne_true, hvalue]

end UiAppearance
