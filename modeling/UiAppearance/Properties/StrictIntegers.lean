import UiAppearance.Settings.SettingDataManager
import UiAppearance.Foundations.CanonicalDecimal

/-!
# Strict integer settings

A strict read parses a leading number and prints it again. The comparison
leaves the canonical decimal forms of the `int32_t` values, so what was written
as a number is read back, and no other text is a number.
-/

namespace UiAppearance

open DecimalText

namespace SettingDataManager

variable {β : Type} (env : Env) (m : SettingDataManager β)

/-- `GetInt32ValueStrictly` as it writes its output parameter, which holds `value` before. -/
def getInt32ValueStrictlyInto (key : String) (value userId : ℤ) : ErrCode × ℤ :=
  match m.getStringValue env key userId with
  | .error code => (code, value)
  | .ok valueString =>
    match fromChars valueString with
    | none => (.invalidValue, value)
    | some convertedValue =>
      if toString convertedValue ≠ valueString then (.invalidValue, value)
      else (.ok, convertedValue)

def setInt32Value (key : String) (value userId : ℤ) (needNotify : Bool) :
    SettingDataManager β × ErrCode :=
  m.setStringValue env key (toString value) userId needNotify

end SettingDataManager

namespace StrictIntegers

open SettingDataManager

variable {β : Type} {env : Env} {m : SettingDataManager β} {key : String} {value userId v : ℤ}

/-- Parsing and printing back accepts the canonical forms. -/
theorem printed_iff {valueString : String} :
    fromChars valueString = some v ∧ toString v = valueString ↔
      IsDecimal valueString.toList v ∧ IsInt32 v := by
  rw [isDecimal_iff]
  constructor
  · rintro ⟨hchars, rfl⟩
    exact ⟨rfl, fromChars_isInt32 hchars⟩
  · rintro ⟨hprinted, hv⟩
    obtain rfl := String.toList_injective hprinted
    exact ⟨fromChars_toString hv, rfl⟩

/-- The output parameter holds what the read without one returns, or is left alone. -/
theorem getInt32ValueStrictlyInto_eq :
    m.getInt32ValueStrictlyInto env key value userId =
      match m.getInt32ValueStrictly env key userId with
      | .error code => (code, value)
      | .ok v => (.ok, v) := by
  unfold getInt32ValueStrictlyInto getInt32ValueStrictly
  cases m.getStringValue env key userId with
  | error code => rfl
  | ok valueString =>
    dsimp only
    cases fromChars valueString with
    | none => rfl
    | some convertedValue =>
      dsimp only
      by_cases hprinted : toString convertedValue = valueString
      · rw [if_neg (not_not_intro hprinted), if_pos hprinted]
      · rw [if_pos hprinted, if_neg hprinted]

theorem getInt32ValueStrictly_ok_iff :
    m.getInt32ValueStrictly env key userId = .ok v ↔
      ∃ valueString, m.getStringValue env key userId = .ok valueString ∧
        IsDecimal valueString.toList v ∧ IsInt32 v := by
  unfold getInt32ValueStrictly
  cases m.getStringValue env key userId with
  | error code => simp
  | ok valueString =>
    simp only [Except.ok.injEq, exists_eq_left', ← printed_iff]
    cases fromChars valueString with
    | none => simp
    | some convertedValue =>
      dsimp only
      split_ifs with hprinted
      · rw [Except.ok.injEq, Option.some.injEq]
        constructor
        · rintro rfl
          exact ⟨rfl, hprinted⟩
        · exact And.left
      · simp only [Option.some.injEq, false_iff, not_and]
        rintro rfl
        exact hprinted

theorem getStringValue_ne_ok {code : ErrCode} (h : m.getStringValue env key userId = .error code) :
    code ≠ .ok := by
  unfold getStringValue at h
  split_ifs at h
  · split at h <;> cases h <;> decide
  · cases h
    decide

theorem getInt32ValueStrictly_ne_ok {code : ErrCode}
    (h : m.getInt32ValueStrictly env key userId = .error code) : code ≠ .ok := by
  unfold getInt32ValueStrictly at h
  split at h
  · next hread =>
    cases h
    exact getStringValue_ne_ok hread
  · split at h
    · cases h
      decide
    · split_ifs at h
      cases h
      decide

/-- What was written as a number is read wherever the database answers. -/
theorem getInt32ValueStrictly_setInt32Value {needNotify : Bool} {env' : Env} (hv : IsInt32 v)
    (hset : (m.setInt32Value env key v userId needNotify).2 = .ok) :
    (m.setInt32Value env key v userId needNotify).1.getInt32ValueStrictly env' key userId = .ok v ↔
      env'.createHelper userId = true ∧ env'.query userId key = .rows := by
  have hinit : m.isInitialized = true :=
    (Bool.and_eq_true_iff.mp (hasHelper_of_setStringValue hset)).1
  have hrow : (m.setInt32Value env key v userId needNotify).1.isInitialized = true ∧
      (m.setInt32Value env key v userId needNotify).1.tables userId key = some (toString v) := by
    unfold setInt32Value at hset ⊢
    rcases setStringValue_cases with hstored | ⟨-, hfailed⟩
    · rw [hstored]
      cases needNotify <;> exact ⟨hinit, putRow_tables_self⟩
    · exact absurd hset hfailed
  generalize (m.setInt32Value env key v userId needNotify).1 = m' at hrow
  have hread := @getInt32ValueStrictly_row _ env' m' key userId v hv hrow.2
  rw [hasHelper, hrow.1, Bool.true_and] at hread
  have hoption : m'.getInt32ValueStrictly env' key userId = .ok v ↔
      (m'.getInt32ValueStrictly env' key userId).toOption = some v := by
    cases m'.getInt32ValueStrictly env' key userId <;> simp [Except.toOption]
  rw [hoption, hread]
  simp

/-- A strict read yields the number whose canonical form is stored, in the range of `int32_t`, and
leaves its output alone in all other cases; a number that was written is read back. -/
theorem strictIntegers (m : SettingDataManager β) (env : Env) (key : String) (value userId : ℤ) :
    (∀ v, m.getInt32ValueStrictlyInto env key value userId = (.ok, v) ↔
      ∃ valueString, m.getStringValue env key userId = .ok valueString ∧
        IsDecimal valueString.toList v ∧ IsInt32 v) ∧
    ((m.getInt32ValueStrictlyInto env key value userId).1 = .ok ∨
      (m.getInt32ValueStrictlyInto env key value userId).2 = value) ∧
    ∀ v needNotify env', IsInt32 v → (m.setInt32Value env key v userId needNotify).2 = .ok →
      ((m.setInt32Value env key v userId needNotify).1.getInt32ValueStrictlyInto env' key value
          userId = (.ok, v) ↔ env'.createHelper userId = true ∧ env'.query userId key = .rows) := by
  have hinto (m : SettingDataManager β) (env : Env) (v : ℤ) :
      m.getInt32ValueStrictlyInto env key value userId = (.ok, v) ↔
        m.getInt32ValueStrictly env key userId = .ok v := by
    rw [getInt32ValueStrictlyInto_eq]
    cases hread : m.getInt32ValueStrictly env key userId with
    | error code => simp [getInt32ValueStrictly_ne_ok hread]
    | ok w => simp
  refine ⟨fun v => (hinto m env v).trans getInt32ValueStrictly_ok_iff, ?_, ?_⟩
  · rw [getInt32ValueStrictlyInto_eq]
    cases m.getInt32ValueStrictly env key userId with
    | error code => exact .inr rfl
    | ok v => exact .inl rfl
  · intro v needNotify env' hv hset
    exact (hinto _ env' v).trans (getInt32ValueStrictly_setInt32Value hv hset)

/-- The smallest number, written and read. -/
theorem strictIntegers_smallest :
    let env : Env := { clock := ⟨1000043, 43243, 956800, by decide⟩ }
    let m : SettingDataManager Unit := { isInitialized := true }
    (m.setInt32Value env "key" (-2147483648) 100 true).1.getInt32ValueStrictlyInto env "key" 7 100 =
      (.ok, -2147483648) := by
  intro env m
  exact ((strictIntegers m env "key" 7 100).2.2 (-2147483648) true env (by decide)
    (by decide +kernel)).mpr ⟨rfl, rfl⟩

end StrictIntegers
end UiAppearance
