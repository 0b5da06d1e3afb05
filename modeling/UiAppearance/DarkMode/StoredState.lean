import UiAppearance.DarkMode.Frames

/-!
# What the settings say about a context

Every item is found under the key of the context itself, for a sub-profile else
under the key of its account, and else it has a default. A load finds exactly
that: what it stores for a sub-profile on the way is what it has found.
-/

namespace UiAppearance

namespace SettingItem

theorem key_injective {item item' : SettingItem} (h : item.key = item'.key) : item = item' := by
  cases item <;> cases item' <;> first | rfl | exact absurd h (by decide)

/-- The keys of the items end in a letter, those of the sub-profiles in a digit. -/
theorem suffixed_ne_key (key : String) (v : ℤ) (item : SettingItem) :
    key ++ "." ++ toString v ≠ item.key := by
  obtain ⟨c, hlast, hdigit, hminus, hdot⟩ : ∃ c, item.key.toList.getLast? = some c ∧
      c.isDigit = false ∧ c ≠ '-' ∧ c ≠ '.' := by
    cases item with
    | sunset => exact ⟨'t', by decide⟩
    | _ => exact ⟨'e', by decide⟩
  intro h
  rw [← h] at hlast
  have hmem : c ∈ '.' :: (toString v).toList := by
    have hlist : (key ++ "." ++ toString v).toList = key.toList ++ '.' :: (toString v).toList := by
      simp
    rw [hlist, List.getLast?_append_cons] at hlast
    exact List.mem_of_getLast? hlast
  rcases List.mem_cons.mp hmem with rfl | hdigits
  · exact hdot rfl
  · exact DecimalText.not_mem_toString hdigit hminus v hdigits

theorem suffixed_inj {key key' : String} {v v' : ℤ} :
    key ++ "." ++ toString v = key' ++ "." ++ toString v' ↔ key = key' ∧ v = v' := by
  constructor
  · intro h
    have hlist (key : String) (v : ℤ) : (key ++ "." ++ toString v).toList =
        key.toList ++ '.' :: (toString v).toList := by simp
    have hsame := congrArg String.toList h
    rw [hlist, hlist] at hsame
    obtain ⟨hkey, hv⟩ := DecimalText.append_printed_injective (by decide) (by decide) hsame
    exact ⟨String.toList_injective hkey, hv⟩
  · rintro ⟨rfl, rfl⟩
    rfl

theorem key_ne_buildSettingKey {context : AccountContext}
    (h : context.isSubProfileContext = true) (key : String) (item : SettingItem) :
    item.key ≠ AccountContext.buildSettingKey key context := by
  unfold AccountContext.buildSettingKey
  rw [if_pos h]
  exact Ne.symm (suffixed_ne_key key context.subProfileId item)

end SettingItem

namespace SettingDataManager

variable {β : Type} {env : Env} {m m' : SettingDataManager β} {key : String} {userId : ℤ}

/-- What a read depends on. -/
def rows (m : SettingDataManager β) : Bool × (ℤ → Table String String) :=
  (m.isInitialized, m.tables)

@[simp] theorem rows_registerObserver (updateFunc : β) :
    (m.registerObserver env key updateFunc userId).1.rows = m.rows := by
  unfold registerObserver
  split_ifs <;> rfl

@[simp] theorem rows_unregisterObserver [DecidableEq β] :
    (m.unregisterObserver env key userId).1.rows = m.rows := by
  unfold unregisterObserver
  split
  · rfl
  · dsimp only
    split_ifs <;> rfl

/-- A read looks at one row. -/
theorem getInt32ValueStrictly_congr (hinit : m'.isInitialized = m.isInitialized)
    (hrow : m'.tables userId key = m.tables userId key) :
    m'.getInt32ValueStrictly env key userId = m.getInt32ValueStrictly env key userId := by
  unfold getInt32ValueStrictly getStringValue hasHelper
  rw [hinit, hrow]

@[simp] theorem isInitialized_setStringValue {value : String} {needNotify : Bool} :
    (m.setStringValue env key value userId needNotify).1.isInitialized = m.isInitialized := by
  rcases setStringValue_cases with h | ⟨h, -⟩
  · rw [h]
    split_ifs <;> rfl
  · rw [h]

end SettingDataManager

namespace Service

variable (env : Env) (s : Service) (item : SettingItem) (context : AccountContext) (default : ℤ)

/-- The number under a key, if the text there is one and can be read. -/
def readSetting (key : String) (userId : ℤ) : Option ℤ :=
  (s.settingDataManager.getInt32ValueStrictly env key userId).toOption

def ownSetting : Option ℤ :=
  s.readSetting env (AccountContext.buildSettingKey item.key context) context.userId

/-- A sub-profile falls back to its account. -/
def inheritedSetting : Option ℤ :=
  if context.isSubProfileContext then s.readSetting env item.key context.userId else none

def storedSetting : ℤ :=
  ((s.ownSetting env item context).or (s.inheritedSetting env item context)).getD default

/-- What a load takes over for the context: it has no number of its own, its account has one. -/
def backFill : Option ℤ :=
  match s.ownSetting env item context with
  | some _ => none
  | none => s.inheritedSetting env item context

def backFilled : Service :=
  match s.backFill env item context with
  | none => s
  | some value =>
    s.withSettings (s.settingDataManager.setStringValue env
      (AccountContext.buildSettingKey item.key context) (toString value) context.userId false)

def storedState : DarkModeState where
  settingMode := .ofInt (s.storedSetting env .mode context DarkModeMode.invalid.toInt)
  settingStartTime := s.storedSetting env .startTime context (-1)
  settingEndTime := s.storedSetting env .endTime context (-1)
  settingSunsetTime := s.storedSetting env .sunset context sunsetTimeDefault
  settingSunriseTime := s.storedSetting env .sunrise context sunriseTimeDefault

variable {env s item context default}

theorem readSetting_congr {s' : Service} {key : String} {userId : ℤ}
    (hinit : s'.settingDataManager.isInitialized = s.settingDataManager.isInitialized)
    (hrow : s'.settingDataManager.tables userId key = s.settingDataManager.tables userId key) :
    s'.readSetting env key userId = s.readSetting env key userId :=
  congrArg Except.toOption (SettingDataManager.getInt32ValueStrictly_congr hinit hrow)

theorem loadSetting_eq_backFilled : s.loadSetting env item context default =
    (s.backFilled env item context, s.storedSetting env item context default) := by
  unfold loadSetting backFilled backFill storedSetting ownSetting inheritedSetting readSetting
  dsimp only
  split
  · next value hown => rw [hown]; rfl
  · next hown =>
    rw [hown]
    by_cases hsub : context.isSubProfileContext = true
    · simp only [hsub, Bool.not_true, Bool.false_eq_true, if_false, if_true]
      split
      · next hbase => rw [hbase]; rfl
      · next value hbase => rw [hbase]; rfl
    · simp only [hsub, Bool.not_false, if_true]
      rfl

theorem backFill_eq_some {value : ℤ} (h : s.backFill env item context = some value) :
    context.isSubProfileContext = true ∧ s.ownSetting env item context = none ∧
      s.inheritedSetting env item context = some value := by
  unfold backFill at h
  split at h
  · cases h
  · next hown =>
    refine ⟨?_, hown, h⟩
    by_contra hsub
    rw [inheritedSetting, if_neg hsub] at h
    cases h

/-- A load of one item writes no row but that of the item. -/
theorem readSetting_backFilled {key : String} (userId : ℤ)
    (h : context.isSubProfileContext = true →
      key ≠ AccountContext.buildSettingKey item.key context) :
    (s.backFilled env item context).readSetting env key userId = s.readSetting env key userId := by
  unfold backFilled
  split
  · rfl
  · next value hfill =>
    have hsub := (backFill_eq_some hfill).1
    exact readSetting_congr SettingDataManager.isInitialized_setStringValue
      (SettingDataManager.tables_setStringValue_of_ne (.inr (h hsub)))

theorem ownSetting_backFilled {item' : SettingItem} (h : item' ≠ item) :
    (s.backFilled env item context).ownSetting env item' context =
      s.ownSetting env item' context := by
  refine readSetting_backFilled _ fun _ heq => h ?_
  exact SettingItem.key_injective (AccountContext.buildSettingKey_inj.mp heq)

theorem inheritedSetting_backFilled {item' : SettingItem} :
    (s.backFilled env item context).inheritedSetting env item' context =
      s.inheritedSetting env item' context := by
  unfold inheritedSetting
  split_ifs with hsub
  · exact readSetting_backFilled _ fun _ => SettingItem.key_ne_buildSettingKey hsub _ _
  · rfl

theorem isInt32_readSetting {key : String} {userId value : ℤ}
    (h : s.readSetting env key userId = some value) : IsInt32 value := by
  unfold readSetting at h
  cases hread : s.settingDataManager.getInt32ValueStrictly env key userId with
  | error code =>
    rw [hread] at h
    cases h
  | ok value' =>
    rw [hread] at h
    obtain rfl := Option.some.inj h
    exact SettingDataManager.getInt32ValueStrictly_isInt32 hread

theorem hasHelper_of_readSetting {key : String} {userId value : ℤ}
    (h : s.readSetting env key userId = some value) :
    s.settingDataManager.hasHelper env userId = true := by
  by_contra hhelper
  unfold readSetting SettingDataManager.getInt32ValueStrictly
    SettingDataManager.getStringValue at h
  rw [if_neg hhelper] at h
  cases h

/-- The copy is there and found if its row can be read, or the write has failed. -/
theorem ownSetting_backFilled_self {value : ℤ} (h : s.backFill env item context = some value) :
    (s.backFilled env item context).ownSetting env item context =
        (if s.settingDataManager.hasHelper env context.userId = true ∧
          env.query context.userId (AccountContext.buildSettingKey item.key context) = .rows
        then some value else none) ∨
      s.backFilled env item context = s ∧ (s.settingDataManager.setStringValue env
        (AccountContext.buildSettingKey item.key context) (toString value) context.userId
        false).2 ≠ .ok := by
  obtain ⟨hsub, hown, hinherited⟩ := backFill_eq_some h
  rw [inheritedSetting, if_pos hsub] at hinherited
  have hvalue := isInt32_readSetting hinherited
  unfold backFilled
  rw [h]
  dsimp only
  rcases @SettingDataManager.setStringValue_cases _ env s.settingDataManager
    (AccountContext.buildSettingKey item.key context) (toString value) context.userId false with
    hset | ⟨hset, hcode⟩
  · left
    rw [hset]
    exact SettingDataManager.getInt32ValueStrictly_row hvalue
      SettingDataManager.putRow_tables_self
  · refine .inr ⟨?_, hcode⟩
    rw [withSettings, hset]

/-- It does not matter whether the copy is found or the original. -/
theorem storedSetting_backFilled {item' : SettingItem} (default' : ℤ) :
    (s.backFilled env item context).storedSetting env item' context default' =
      s.storedSetting env item' context default' := by
  unfold storedSetting
  rw [inheritedSetting_backFilled]
  by_cases hitem : item' = item
  · subst hitem
    cases hfill : s.backFill env item' context with
    | none =>
      unfold backFilled
      rw [hfill]
    | some value =>
      obtain ⟨-, hown, hinherited⟩ := backFill_eq_some hfill
      rcases ownSetting_backFilled_self hfill with hcopy | ⟨hfailed, -⟩
      · rw [hown, hinherited, hcopy]
        split_ifs <;> rfl
      · rw [hfailed]
  · rw [ownSetting_backFilled hitem]

/-- A load finds what is stored. -/
theorem loadState_snd : (s.loadState env context).2 = s.storedState env context := by
  unfold loadState storedState
  simp only [loadSetting_eq_backFilled, storedSetting_backFilled]

/-- What is stored for a context is in the rows of its five keys, and of those of its account. -/
theorem storedState_congr {s' : Service}
    (hown : ∀ item, s'.ownSetting env item context = s.ownSetting env item context)
    (hinherited : ∀ item, s.ownSetting env item context = none →
      s'.inheritedSetting env item context = s.inheritedSetting env item context) :
    s'.storedState env context = s.storedState env context := by
  have hsetting (item : SettingItem) (default : ℤ) :
      s'.storedSetting env item context default = s.storedSetting env item context default := by
    unfold storedSetting
    rw [hown]
    cases hread : s.ownSetting env item context with
    | some value => rfl
    | none => rw [hinherited item hread]
  unfold storedState
  simp only [hsetting]

section Rows

variable {s' : Service}

theorem readSetting_of_rows (h : s'.settingDataManager.rows = s.settingDataManager.rows)
    (key : String) (userId : ℤ) : s'.readSetting env key userId = s.readSetting env key userId :=
  readSetting_congr (congrArg Prod.fst h) (congrFun (congrFun (congrArg Prod.snd h) userId) key)

theorem inheritedSetting_of_rows (h : s'.settingDataManager.rows = s.settingDataManager.rows) :
    s'.inheritedSetting env item context = s.inheritedSetting env item context := by
  unfold inheritedSetting
  rw [readSetting_of_rows h]

theorem storedState_of_rows (h : s'.settingDataManager.rows = s.settingDataManager.rows) :
    s'.storedState env context = s.storedState env context :=
  storedState_congr (fun _ => readSetting_of_rows h _ _) fun _ _ => inheritedSetting_of_rows h

theorem backFill_of_rows (h : s'.settingDataManager.rows = s.settingDataManager.rows) :
    s'.backFill env item context = s.backFill env item context := by
  unfold backFill ownSetting
  rw [readSetting_of_rows h, inheritedSetting_of_rows h]

end Rows

end Service
end UiAppearance
