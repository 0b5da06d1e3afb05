import UiAppearance.Settings.PairWrite

/-!
# All or nothing for a pair

When the second write of a pair fails, the first one is taken back by writing
the number its old text stood for. The store is as before exactly when that
number spells the old text: a row that was absent, that held no number or held
one in another spelling, and one that could not be read, are not restored.
-/

namespace UiAppearance
namespace PairRollback

open PairCalls

/-- Success stores both numbers and notifies each key once, after both writes; a failure leaves
both rows as they were and notifies nobody. -/
structure AllOrNothing (rows : Table String String) (firstKey : String) (firstValue : ℤ)
    (secondKey : String) (secondValue : ℤ) (r : PairResult) : Prop where
  stored : r.code = .ok → r.rows firstKey = some (toString firstValue) ∧
    r.rows secondKey = some (toString secondValue)
  notified : r.code = .ok → r.effects = [.written firstKey (toString firstValue),
    .written secondKey (toString secondValue), .notified firstKey, .notified secondKey]
  kept : r.code ≠ .ok → r.rows firstKey = rows firstKey ∧ r.rows secondKey = rows secondKey
  quiet : r.code ≠ .ok → ∀ key, PairEffect.notified key ∉ r.effects

/-- A write goes through by one of its two calls. -/
def Writes (rows : Table String String) (update insert : Bool) (key : String) : Prop :=
  (update = true ∧ (rows key).isSome = true) ∨ insert = true

/-- Both helpers are there, and of the two writes only the first one goes through. -/
def OnlyFirst (c : PairCalls) (rows : Table String String) (firstKey secondKey : String) : Prop :=
  (c.firstHelper = true ∧ c.secondHelper = true) ∧
    Writes rows c.firstUpdate c.firstInsert firstKey ∧
    ¬Writes rows c.secondUpdate c.secondInsert secondKey

/-- The old text of the first key is the one that is written anyway, or it can be read and is the
decimal text of a number. -/
def Restorable (c : PairCalls) (rows : Table String String) (firstKey : String)
    (firstValue : ℤ) : Prop :=
  rows firstKey = some (toString firstValue) ∨
    ∃ old, IsInt32 old ∧ rows firstKey = some (toString old) ∧ c.readHelper = true ∧
      c.query = .rows

section Writes

variable {rows rows' : Table String String} {update insert : Bool} {key value : String}

theorem updateValue_of_writes (h : Writes rows update insert key) :
    updateValue rows update insert key value = some (rows.put key value) := by
  unfold updateValue
  rcases h with ⟨hupdate, hrow⟩ | hinsert
  · rw [if_pos (by simp [hupdate, hrow])]
  · rw [if_pos hinsert, ite_self]

theorem updateValue_of_not_writes (h : ¬Writes rows update insert key) :
    updateValue rows update insert key value = none := by
  obtain ⟨hupdate, hinsert⟩ := not_or.mp h
  unfold updateValue
  rw [if_neg (by simpa using hupdate), if_neg hinsert]

/-- Whether another key can be written does not depend on this one. -/
theorem writes_put_of_ne {key' : String} (h : key' ≠ key) :
    Writes (rows.put key value) update insert key' ↔ Writes rows update insert key' := by
  unfold Writes
  rw [Table.put_of_ne h]

end Writes

section Failure

variable {c : PairCalls} {rows : Table String String} {firstKey secondKey : String}
  {firstValue secondValue : ℤ}

/-- What the first key holds once its new text has been taken back. -/
theorem rollback_spec (rows : Table String String)
    (hback : c.backUpdate = true ∨ c.backInsert = true)
    (hkeys : firstKey ≠ secondKey) (old : Option ℤ) :
    let first := PairEffect.written firstKey (toString firstValue)
    let r := c.rollback (rows.put firstKey (toString firstValue)) firstKey old [first]
    r.rows firstKey = some (toString (old.getD firstValue)) ∧ r.rows secondKey = rows secondKey ∧
      r.code = .invalidOperation ∧ ∀ key, PairEffect.notified key ∉ r.effects := by
  intro first r
  subst r first
  unfold rollback
  cases old with
  | none =>
    refine ⟨Table.put_self, Table.put_of_ne hkeys.symm, rfl, ?_⟩
    intro key hmem
    cases List.mem_singleton.mp hmem
  | some value =>
    have hwrites : Writes (rows.put firstKey (toString firstValue)) c.backUpdate c.backInsert
        firstKey := by
      rcases hback with hupdate | hinsert
      · exact .inl ⟨hupdate, by rw [Table.put_self]; rfl⟩
      · exact .inr hinsert
    dsimp only
    rw [updateValue_of_writes hwrites, Table.put_put_self]
    refine ⟨Table.put_self, Table.put_of_ne hkeys.symm, rfl, ?_⟩
    intro key hmem
    simp at hmem

/-- The number read before is the one whose text was there, for canonical texts and no others. -/
theorem restored_iff (hfirst : IsInt32 firstValue) :
    some (toString ((c.oldFirstValue rows firstKey).getD firstValue)) = rows firstKey ↔
      Restorable c rows firstKey firstValue := by
  unfold oldFirstValue Restorable
  split_ifs with hread
  · obtain ⟨hhelper, hquery⟩ := Bool.and_eq_true_iff.mp hread
    have hrows := of_decide_eq_true hquery
    cases htext : rows firstKey with
    | none => simp
    | some text =>
      cases hchars : fromChars text with
      | none =>
        -- a text that is no number is not the text of one
        have hother (v : ℤ) (hv : IsInt32 v) : text ≠ toString v := by
          rintro rfl
          rw [SettingDataManager.fromChars_toString hv] at hchars
          cases hchars
        simp only [Option.bind, hchars, Option.getD_none, Option.some.injEq]
        constructor
        · intro h
          exact absurd h.symm (hother _ hfirst)
        · rintro (h | ⟨old, hold, h, -⟩)
          · exact absurd h (hother _ hfirst)
          · exact absurd h (hother _ hold)
      | some v =>
        have hv := SettingDataManager.fromChars_isInt32 hchars
        have hunique (u : ℤ) (hu : IsInt32 u) (h : text = toString u) : text = toString v := by
          subst h
          rw [SettingDataManager.fromChars_toString hu] at hchars
          rw [Option.some.inj hchars]
        simp only [Option.bind, hchars, Option.getD_some, Option.some.injEq]
        constructor
        · intro h
          exact .inr ⟨v, hv, h.symm, hhelper, hrows⟩
        · rintro (h | ⟨old, hold, h, -⟩)
          · exact (hunique _ hfirst h).symm
          · exact (hunique _ hold h).symm
  · rw [Option.getD_none]
    constructor
    · exact fun h => .inl h.symm
    · rintro (h | ⟨old, -, -, hhelper, hquery⟩)
      · exact h.symm
      · exact absurd (by simp [hhelper, hquery]) hread

theorem allOrNothing_of_untouched {code : ErrCode} (hcode : code ≠ .ok) :
    AllOrNothing rows firstKey firstValue secondKey secondValue ⟨rows, [], code⟩ where
  stored h := absurd h hcode
  notified h := absurd h hcode
  kept _ := ⟨rfl, rfl⟩
  quiet _ _ := List.not_mem_nil

end Failure

/-- The pair is stored or left alone, unless the first write alone goes through and the old text of
its key is not one that can be restored. -/
theorem setInt32ValuePair_allOrNothing_iff {c : PairCalls} {rows : Table String String}
    {firstKey secondKey : String} {firstValue secondValue : ℤ} (hkeys : firstKey ≠ secondKey)
    (hfirst : IsInt32 firstValue) (hback : c.backUpdate = true ∨ c.backInsert = true) :
    AllOrNothing rows firstKey firstValue secondKey secondValue
        (c.setInt32ValuePair rows firstKey firstValue secondKey secondValue) ↔
      (OnlyFirst c rows firstKey secondKey → Restorable c rows firstKey firstValue) := by
  unfold PairCalls.setInt32ValuePair OnlyFirst
  dsimp only
  by_cases hhelpers : (c.firstHelper && c.secondHelper) = true
  swap
  · rw [if_pos (by simpa only [Bool.not_eq_true', Bool.not_eq_true] using hhelpers)]
    refine iff_of_true (allOrNothing_of_untouched (by decide)) fun h => ?_
    exact absurd (Bool.and_eq_true_iff.mpr h.1) hhelpers
  rw [hhelpers, if_neg (by decide)]
  by_cases hwrites : Writes rows c.firstUpdate c.firstInsert firstKey
  swap
  · rw [updateValue_of_not_writes hwrites]
    exact iff_of_true (allOrNothing_of_untouched (by decide)) fun h => absurd h.2.1 hwrites
  rw [updateValue_of_writes hwrites]
  dsimp only
  by_cases hsecond : Writes rows c.secondUpdate c.secondInsert secondKey
  · rw [updateValue_of_writes ((writes_put_of_ne hkeys.symm).mpr hsecond)]
    refine iff_of_true ?_ fun h => absurd hsecond h.2.2
    exact
      { stored := fun _ => ⟨(Table.put_of_ne hkeys).trans Table.put_self, Table.put_self⟩
        notified := fun _ => rfl
        kept := fun h => absurd rfl h
        quiet := fun h => absurd rfl h }
  · rw [updateValue_of_not_writes fun h => hsecond ((writes_put_of_ne hkeys.symm).mp h)]
    dsimp only
    obtain ⟨hrow, hother, hcode, hquiet⟩ := rollback_spec rows hback hkeys
      (c.oldFirstValue rows firstKey)
    constructor
    · intro hall _
      rw [← restored_iff hfirst, ← hrow]
      exact (hall.kept (by rw [hcode]; decide)).1
    · intro hrestorable
      have hrestored := (restored_iff hfirst).mpr (hrestorable
        ⟨Bool.and_eq_true_iff.mp hhelpers, hwrites, hsecond⟩)
      exact
        { stored := fun h => absurd (hcode.symm.trans h) (by decide)
          notified := fun h => absurd (hcode.symm.trans h) (by decide)
          kept := fun _ => ⟨hrow.trans hrestored, hother⟩
          quiet := fun _ => hquiet }

/-- Both times are there as decimal texts, and the second write fails. -/
def lateFailure : PairCalls := { secondUpdate := false, secondInsert := false }

def timesRow (first : Option String) : Table String String := fun key =>
  if key = "sun_set" then first else if key = "sun_rise" then some "1860" else none

theorem decimalText_restored :
    AllOrNothing (timesRow (some "1080")) "sun_set" 1250 "sun_rise" 1780
      (lateFailure.setInt32ValuePair (timesRow (some "1080")) "sun_set" 1250 "sun_rise" 1780) :=
  (setInt32ValuePair_allOrNothing_iff (by decide) (by decide) (.inl rfl)).mpr fun _ =>
    .inr ⟨1080, by decide, by decide, rfl, rfl⟩

/-- A missing sunset is there after the failure, and one with a leading zero has lost it. -/
theorem otherText_changed :
    (lateFailure.setInt32ValuePair (timesRow none) "sun_set" 1250 "sun_rise" 1780).code =
        .invalidOperation ∧
      (lateFailure.setInt32ValuePair (timesRow none) "sun_set" 1250 "sun_rise" 1780).rows
        "sun_set" = some "1250" ∧
      ¬AllOrNothing (timesRow none) "sun_set" 1250 "sun_rise" 1780
        (lateFailure.setInt32ValuePair (timesRow none) "sun_set" 1250 "sun_rise" 1780) ∧
      (lateFailure.setInt32ValuePair (timesRow (some "01080")) "sun_set" 1250 "sun_rise"
        1780).rows "sun_set" = some "1080" := by
  refine ⟨by decide, by decide, ?_, by decide⟩
  intro hall
  have hkept := (hall.kept (by decide)).1
  revert hkept
  decide

end PairRollback
end UiAppearance
