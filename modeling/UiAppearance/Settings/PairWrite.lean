import UiAppearance.Settings.SettingDataManager

/-!
# Writing a pair, call by call

The manager's pair write with an answer of its own for every call it can make:
the helper of the read and the two of the writes, the query, and `Update` and
`Insert` of the two writes and of the one that takes the first back. A call that
fails changes nothing. The order of the calls is kept in `effects`. The manager
of the other modules asks one environment for all of them.
-/

namespace UiAppearance

structure PairCalls where
  readHelper : Bool := true
  query : QueryAnswer := .rows
  firstHelper : Bool := true
  secondHelper : Bool := true
  firstUpdate : Bool := true
  firstInsert : Bool := true
  secondUpdate : Bool := true
  secondInsert : Bool := true
  backUpdate : Bool := true
  backInsert : Bool := true

inductive PairEffect where
  | written (key value : String)
  | notified (key : String)
  deriving DecidableEq, Repr

structure PairResult where
  rows : Table String String
  effects : List PairEffect
  code : ErrCode

namespace PairCalls

variable (c : PairCalls) (rows : Table String String)

/-- `updateValue`: `Update` changes an existing row, `Insert` is tried when that changed none. -/
def updateValue (update insert : Bool) (key value : String) : Option (Table String String) :=
  if update && (rows key).isSome then some (rows.put key value)
  else if insert then some (rows.put key value)
  else none

/-- The old value that the first write can be taken back to. -/
def oldFirstValue (firstKey : String) : Option ℤ :=
  if c.readHelper && decide (c.query = .rows) then (rows firstKey).bind fromChars else none

/-- The write back, when there is a value to write. -/
def rollback (firstKey : String) (old : Option ℤ) (written : List PairEffect) : PairResult :=
  match old with
  | none => ⟨rows, written, .invalidOperation⟩
  | some value =>
    match updateValue rows c.backUpdate c.backInsert firstKey (toString value) with
    | none => ⟨rows, written, .invalidOperation⟩
    | some rows' => ⟨rows', written ++ [.written firstKey (toString value)], .invalidOperation⟩

def setInt32ValuePair (firstKey : String) (firstValue : ℤ) (secondKey : String)
    (secondValue : ℤ) : PairResult :=
  let old := c.oldFirstValue rows firstKey
  if !(c.firstHelper && c.secondHelper) then ⟨rows, [], .noInit⟩
  else
    match updateValue rows c.firstUpdate c.firstInsert firstKey (toString firstValue) with
    | none => ⟨rows, [], .invalidOperation⟩
    | some rows₁ =>
      let first := PairEffect.written firstKey (toString firstValue)
      match updateValue rows₁ c.secondUpdate c.secondInsert secondKey (toString secondValue) with
      | none => c.rollback rows₁ firstKey old [first]
      | some rows₂ =>
        ⟨rows₂, [first, .written secondKey (toString secondValue), .notified firstKey,
          .notified secondKey], .ok⟩

end PairCalls

namespace SettingDataManager

variable {β : Type} (env : Env) (m : SettingDataManager β)

/-- The answers of one environment to all the calls. -/
def pairCalls (userId : ℤ) (firstKey : String) (firstValue : ℤ) (secondKey : String)
    (secondValue : ℤ) : PairCalls :=
  let back : Option String :=
    ((m.tables userId firstKey).bind fromChars).map toString
  { readHelper := m.hasHelper env userId
    query := env.query userId firstKey
    firstHelper := m.hasHelper env userId
    secondHelper := m.hasHelper env userId
    firstUpdate := env.update userId firstKey (toString firstValue)
    firstInsert := env.insert userId firstKey (toString firstValue)
    secondUpdate := env.update userId secondKey (toString secondValue)
    secondInsert := env.insert userId secondKey (toString secondValue)
    backUpdate := back.any (env.update userId firstKey)
    backInsert := back.any (env.insert userId firstKey) }

variable {env m} {key value : String} {userId : ℤ}

theorem getInt32Value_eq (hh : m.hasHelper env userId = true) :
    (m.getInt32Value env key userId).toOption =
      if env.query userId key = .rows then (m.tables userId key).bind fromChars else none := by
  unfold getInt32Value getStringValue
  rw [if_pos hh]
  cases hquery : env.query userId key with
  | rows =>
    rw [if_pos rfl]
    cases m.tables userId key with
    | none => rfl
    | some text =>
      dsimp only [Option.bind]
      cases fromChars text <;> rfl
  | nullResult => rfl
  | unreadable => cases m.tables userId key <;> rfl

theorem tables_updateValue : (m.updateValue env userId key value).map (·.tables userId) =
    PairCalls.updateValue (m.tables userId) (env.update userId key value)
      (env.insert userId key value) key value := by
  unfold updateValue PairCalls.updateValue
  split_ifs <;> simp [putRow]

/-- The manager's pair write is the one in which every call gets the answer of the environment. -/
theorem setInt32ValuePair_pairCalls (firstKey : String) (firstValue : ℤ) (secondKey : String)
    (secondValue : ℤ) :
    let r := (m.pairCalls env userId firstKey firstValue secondKey secondValue).setInt32ValuePair
      (m.tables userId) firstKey firstValue secondKey secondValue
    (m.setInt32ValuePair env firstKey firstValue secondKey secondValue userId).1.tables userId =
        r.rows ∧
      (m.setInt32ValuePair env firstKey firstValue secondKey secondValue userId).2 = r.code := by
  intro r
  subst r
  unfold setInt32ValuePair PairCalls.setInt32ValuePair
  by_cases hh : m.hasHelper env userId = true
  swap
  · rw [if_neg hh, if_pos (by simp [pairCalls, hh])]
    exact ⟨rfl, rfl⟩
  rw [if_pos hh, if_neg (by simp [pairCalls, hh])]
  dsimp only [pairCalls]
  rw [← tables_updateValue]
  cases m.updateValue env userId firstKey (toString firstValue) with
  | none => exact ⟨rfl, rfl⟩
  | some m₁ =>
    dsimp only [Option.map]
    rw [← tables_updateValue]
    cases m₁.updateValue env userId secondKey (toString secondValue) with
    | some m₂ => exact ⟨rfl, rfl⟩
    | none =>
      -- the old value is read before the writes, and written back as a number
      have hread : (m.getInt32Value env firstKey userId).toOption = _ := getInt32Value_eq hh
      dsimp only [Option.map]
      unfold PairCalls.rollback PairCalls.oldFirstValue
      simp only [hh, Bool.true_and, decide_eq_true_eq]
      rw [← hread]
      cases hold : m.getInt32Value env firstKey userId with
      | error code => exact ⟨rfl, rfl⟩
      | ok old =>
        have htext : (m.tables userId firstKey).bind fromChars = some old := by
          rw [hold] at hread
          split_ifs at hread
          · exact hread.symm
          · cases hread
        dsimp only [Except.toOption]
        rw [htext]
        dsimp only [Option.map, Option.any]
        rw [← tables_updateValue]
        cases m₁.updateValue env userId firstKey (toString old) with
        | none => exact ⟨rfl, rfl⟩
        | some m₂ => exact ⟨rfl, rfl⟩

end SettingDataManager
end UiAppearance
