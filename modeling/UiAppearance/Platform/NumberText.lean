import UiAppearance.Foundations.BinaryFloat
import UiAppearance.Foundations.FixedDecimal
import UiAppearance.Platform.FloatText

/-!
# Numbers of a script as text

A `double` is a rational number, or no number, or infinite. `std::to_string`
prints six places. What `strtod` makes of such a text is the nearest `double`.
A minus sign in front of a zero is left out of account: the bindings refuse
zeros before their text matters.
-/

namespace UiAppearance

open BinaryFloat DecimalText

inductive JsNumber where
  | finite (value : ℚ)
  | nan
  | infinity (negative : Bool)
  deriving DecidableEq

def double : BinaryFormat where
  precision := 53
  minExponent := -1074
  precision_pos := by decide

def decimalPlaces : ℕ := 6

/-- `std::to_string` of a `double`. -/
def JsNumber.toText : JsNumber → String
  | .finite value => String.ofList (printFixed decimalPlaces value)
  | .nan => "nan"
  | .infinity false => "inf"
  | .infinity true => "-inf"

/-- Zero, or large enough for a full precision and small enough for an exponent. -/
def InDoubleRange (value : ℚ) : Prop := value = 0 ∨ 2 ^ (-1022 : ℤ) ≤ value ∧ value < 2 ^ (1023 : ℤ)

/-- `strtod` reads digits with a point between them to their end and returns the nearest
`double`. -/
def ReadsDecimals (strtod : Strtod) : Prop :=
  ∀ whole fraction : List Char, whole ≠ [] → (∀ c ∈ whole, c.isDigit = true) →
    (∀ c ∈ fraction, c.isDigit = true) → InDoubleRange (pointValue whole fraction) →
      strtod (String.ofList (whole ++ '.' :: fraction)) =
        { value := some (double.nearest (pointValue whole fraction))
          consumed := whole.length + 1 + fraction.length
          rangeError := false }

/-- Digits, with a point or without. -/
def nearestStrtod : Strtod := fun text =>
  let whole := leadingDigits text.toList
  match text.toList.drop whole.length with
  | '.' :: rest =>
    let fraction := leadingDigits rest
    { value := some (double.nearest (pointValue whole fraction))
      consumed := if whole ++ fraction = [] then 0 else whole.length + 1 + fraction.length
      rangeError := false }
  | _ =>
    { value := some (double.nearest (pointValue whole []))
      consumed := whole.length
      rangeError := false }

theorem nearestStrtod_readsDecimals : ReadsDecimals nearestStrtod := by
  intro whole fraction hne hwhole hfraction _
  have hfront : leadingDigits (whole ++ '.' :: fraction) = whole := by
    unfold leadingDigits
    rw [List.takeWhile_append_of_pos hwhole, List.takeWhile_cons_of_neg (by decide),
      List.append_nil]
  have hbehind : leadingDigits fraction = fraction := List.takeWhile_eq_self_iff.mpr hfraction
  have hdigits : whole ++ fraction ≠ [] := fun hnil => hne (List.append_eq_nil_iff.mp hnil).1
  unfold nearestStrtod
  dsimp only
  rw [String.toList_ofList, hfront, List.drop_left]
  simp only [hbehind, if_neg hdigits]

variable {strtod : Strtod} {x y : ℚ}

/-- What is read of a printed number is the `double` nearest to the number that was printed. -/
theorem stod_toText (hreads : ReadsDecimals strtod) (hx : 0 ≤ x)
    (hrange : InDoubleRange (lastPlaces decimalPlaces x / 10 ^ decimalPlaces)) :
    stod strtod (JsNumber.finite x).toText =
      some (some (double.nearest (lastPlaces decimalPlaces x / 10 ^ decimalPlaces))) := by
  let n := lastPlaces decimalPlaces x
  have hplaces : 0 < decimalPlaces := by decide
  have hvalue := pointValue_fixedDigits hplaces n
  have hread := hreads (Nat.toDigits 10 (n / 10 ^ decimalPlaces))
    (fractionDigits decimalPlaces (n % 10 ^ decimalPlaces)) Nat.toDigits_ne_nil
    (fun c hc => Nat.isDigit_of_mem_toDigits (by decide) (by decide) hc)
    (fun c hc => isDigit_fractionDigits hc) (hvalue ▸ hrange)
  rw [hvalue] at hread
  have htext : (JsNumber.finite x).toText = String.ofList (fixedDigits decimalPlaces n) :=
    congrArg String.ofList (printFixed_of_nonneg hx)
  have hconsumed (whole fraction : ℕ) : whole + 1 + fraction ≠ 0 := by omega
  unfold stod
  dsimp only
  rw [htext]
  unfold fixedDigits
  rw [hread, if_neg (hconsumed _ _), if_neg Bool.false_ne_true]

end UiAppearance
