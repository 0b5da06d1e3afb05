import UiAppearance.DarkMode.StoredState
import UiAppearance.Ability.ParameterNames

/-!
# Settings of different contexts in one table

The contexts of one user share a table; a sub-profile appends its number to every
key. Two sub-profiles never meet, nor does a sub-profile meet its account. The
account appends nothing to a key, so its caller can spell the key of a
sub-profile out.
-/

namespace UiAppearance

namespace SettingItem

/-- What a state holds for an item. -/
def valueIn : SettingItem → DarkModeState → ℤ
  | mode, state => state.settingMode.toInt
  | startTime, state => state.settingStartTime
  | endTime, state => state.settingEndTime
  | sunset, state => state.settingSunsetTime
  | sunrise, state => state.settingSunriseTime

end SettingItem

namespace SettingIsolation

open Service AccountContext

/-- What the table holds under a context's own key, a number or not. -/
def ownRow (s : Service) (item : SettingItem) (context : AccountContext) : Option String :=
  s.settingDataManager.tables context.userId (buildSettingKey item.key context)

/-- The key is one that the sub-profile `target` has not set and takes over from `source`. -/
structure Inherits (s : Service) (source target : AccountContext) (key : String) : Prop where
  account : source = createBaseContext target.userId
  subProfile : target.isSubProfileContext = true
  unset : ∃ item : SettingItem, key = item.key ∧ ownRow s item target = none

/-- Whatever `source` stores under the key, a load of `target` with `env` finds the same state. -/
def Isolated (env : Env) (s : Service) (source target : AccountContext) (key : String) : Prop :=
  ¬Inherits s source target key → ∀ (env' : Env) (value : String),
    getCallingAccountContext env' = source →
      ((s.setSettingData env' key value).loadState env target).2 = (s.loadState env target).2

/-- The account names a row of the sub-profile itself, or one of its own that the load falls back
to, although the sub-profile has a row there: one that is no number. -/
structure Reaches (env : Env) (s : Service) (source target : AccountContext) (key : String) :
    Prop where
  account : source = createBaseContext target.userId
  subProfile : target.isSubProfileContext = true
  connected : s.settingDataManager.hasHelper env target.userId = true
  readable : env.query target.userId key = .rows
  row : ∃ item : SettingItem, key = buildSettingKey item.key target ∨
    key = item.key ∧ (ownRow s item target).isSome = true ∧ s.ownSetting env item target = none

variable {env env' : Env} {s : Service} {source target : AccountContext} {key value : String}

section Keys

theorem eq_of_base {context : AccountContext} (h : ¬context.isSubProfileContext = true) :
    context = createBaseContext context.userId := by
  obtain ⟨userId, subProfileId⟩ := context
  obtain rfl : subProfileId = invalidSubProfileId := by simpa [isSubProfileContext] using h
  rfl

/-- Only an account reaches a row that another context reads as its own. -/
theorem account_of_own_key (hne : source ≠ target) (huser : target.userId = source.userId)
    {item : SettingItem}
    (h : buildSettingKey item.key target = buildSettingKey key source) :
    source = createBaseContext target.userId ∧ target.isSubProfileContext = true ∧
      key = buildSettingKey item.key target := by
  by_cases hsource : source.isSubProfileContext = true
  · by_cases htarget : target.isSubProfileContext = true
    · unfold buildSettingKey at h
      rw [if_pos htarget, if_pos hsource] at h
      have hprofile : target.subProfileId = source.subProfileId :=
        (SettingItem.suffixed_inj.mp h).2
      obtain ⟨userId, subProfileId⟩ := source
      obtain ⟨userId', subProfileId'⟩ := target
      dsimp only at huser hprofile
      exact absurd (by rw [huser, hprofile]) hne
    · have hkey : buildSettingKey item.key target = item.key := by
        unfold buildSettingKey
        rw [if_neg htarget]
      rw [hkey] at h
      exact absurd h (SettingItem.key_ne_buildSettingKey hsource key item)
  · have hbase : source = createBaseContext target.userId := by
      rw [huser]
      exact eq_of_base hsource
    have hkey : buildSettingKey key source = key := by
      unfold buildSettingKey
      rw [if_neg hsource]
    refine ⟨hbase, ?_, hkey.symm.trans h.symm⟩
    by_contra htarget
    exact hne (hbase.trans (eq_of_base htarget).symm)

/-- And only an account reaches a row that a sub-profile falls back to. -/
theorem account_of_key (huser : target.userId = source.userId) {item : SettingItem}
    (h : item.key = buildSettingKey key source) :
    source = createBaseContext target.userId ∧ key = item.key := by
  have hsource : ¬source.isSubProfileContext = true := fun hsub =>
    SettingItem.key_ne_buildSettingKey hsub key item h
  refine ⟨?_, ?_⟩
  · rw [huser]
    exact eq_of_base hsource
  · unfold buildSettingKey at h
    rw [if_neg hsource] at h
    exact h.symm

end Keys

section Rows

theorem isInitialized_setSettingData :
    (s.setSettingData env' key value).settingDataManager.isInitialized =
      s.settingDataManager.isInitialized := SettingDataManager.isInitialized_setStringValue

/-- The call writes one row at most. -/
theorem tables_setSettingData {userId : ℤ} {key' : String}
    (h : ¬(userId = (getCallingAccountContext env').userId ∧
      key' = buildSettingKey key (getCallingAccountContext env'))) :
    (s.setSettingData env' key value).settingDataManager.tables userId key' =
      s.settingDataManager.tables userId key' :=
  SettingDataManager.tables_setStringValue_of_ne (not_and_or.mp h)

theorem readSetting_setSettingData {userId : ℤ} {key' : String}
    (h : ¬(userId = (getCallingAccountContext env').userId ∧
      key' = buildSettingKey key (getCallingAccountContext env'))) :
    (s.setSettingData env' key value).readSetting env key' userId = s.readSetting env key' userId :=
  readSetting_congr isInitialized_setSettingData (tables_setSettingData h)

/-- Without a connection, or with an answer that is none, nothing is read. -/
theorem readSetting_of_unavailable {s : Service} {userId : ℤ}
    (h : ¬(s.settingDataManager.hasHelper env userId = true ∧ env.query userId key = .rows)) :
    s.readSetting env key userId = none := by
  unfold readSetting SettingDataManager.getInt32ValueStrictly SettingDataManager.getStringValue
  by_cases hhelper : s.settingDataManager.hasHelper env userId = true
  · have hquery : env.query userId key ≠ .rows := fun hrows => h ⟨hhelper, hrows⟩
    rw [if_pos hhelper]
    cases hanswer : env.query userId key with
    | rows => exact absurd hanswer hquery
    | nullResult => rfl
    | unreadable => cases s.settingDataManager.tables userId key <;> rfl
  · rw [if_neg hhelper]
    rfl

theorem readSetting_setSettingData_of_unavailable {userId : ℤ}
    (h : ¬(s.settingDataManager.hasHelper env userId = true ∧ env.query userId key = .rows)) :
    (s.setSettingData env' key value).readSetting env key userId =
      s.readSetting env key userId := by
  have hafter : ¬((s.setSettingData env' key value).settingDataManager.hasHelper env userId =
      true ∧ env.query userId key = .rows) := by
    unfold SettingDataManager.hasHelper at h ⊢
    rwa [isInitialized_setSettingData]
  rw [readSetting_of_unavailable h, readSetting_of_unavailable hafter]

theorem readSetting_of_row {s : Service} {userId v : ℤ} (hv : IsInt32 v)
    (hhelper : s.settingDataManager.hasHelper env userId = true)
    (hquery : env.query userId key = .rows)
    (hrow : s.settingDataManager.tables userId key = some (toString v)) :
    s.readSetting env key userId = some v := by
  unfold readSetting
  rw [SettingDataManager.getInt32ValueStrictly_eq hhelper hquery hv hrow]
  rfl

end Rows

section Written

/-- A caller in a given context, and nothing that fails. -/
def callerIn (clock : Clock) (context : AccountContext) : Env where
  clock := clock
  foregroundOsAccountLocalId := some context.userId
  foregroundSubProfileId := fun _ => some context.subProfileId

theorem getCallingAccountContext_callerIn (clock : Clock) (context : AccountContext) :
    getCallingAccountContext (callerIn clock context) = context := rfl

theorem row_setSettingData (clock : Clock) (hinit : s.settingDataManager.isInitialized = true) :
    (s.setSettingData (callerIn clock source) key value).settingDataManager.tables source.userId
      (buildSettingKey key source) = some value := by
  have hhelper : s.settingDataManager.hasHelper (callerIn clock source) source.userId = true := by
    unfold SettingDataManager.hasHelper
    rw [hinit]
    rfl
  change (SettingDataManager.setStringValue ..).1.tables _ _ = _
  rw [getCallingAccountContext_callerIn, SettingDataManager.setStringValue_ok hhelper rfl]
  exact SettingDataManager.putRow_tables_self

/-- A number that reaches the row of an item is what a load finds for the item. -/
theorem storedSetting_of_reaches (h : Reaches env s source target key) (clock : Clock) :
    ∃ item : SettingItem, ∀ (v default : ℤ), IsInt32 v →
      (s.setSettingData (callerIn clock source) key (toString v)).storedSetting env item target
        default = v := by
  obtain ⟨rfl, hsub, hhelper, hquery, item, hrow⟩ := h
  refine ⟨item, fun v default hv => ?_⟩
  have hinit : s.settingDataManager.isInitialized = true := (Bool.and_eq_true_iff.mp hhelper).1
  have hhelper' : (s.setSettingData (callerIn clock (createBaseContext target.userId)) key
      (toString v)).settingDataManager.hasHelper env target.userId = true := by
    unfold SettingDataManager.hasHelper at hhelper ⊢
    rwa [isInitialized_setSettingData]
  have hput : (s.setSettingData (callerIn clock (createBaseContext target.userId)) key
      (toString v)).settingDataManager.tables target.userId key = some (toString v) :=
    row_setSettingData clock hinit
  have hread := readSetting_of_row hv hhelper' hquery hput
  unfold storedSetting
  rcases hrow with rfl | ⟨rfl, -, hown⟩
  · unfold ownSetting
    rw [hread]
    rfl
  · have hown' : (s.setSettingData (callerIn clock (createBaseContext target.userId)) item.key
        (toString v)).ownSetting env item target = none := by
      refine (readSetting_setSettingData ?_).trans hown
      exact fun hsame => SettingItem.key_ne_buildSettingKey hsub _ _ hsame.2.symm
    rw [hown', inheritedSetting, if_pos hsub, hread]
    rfl

/-- The state that is loaded shows the number that is stored for an item. -/
theorem valueIn_storedState {item : SettingItem} {v : ℤ}
    (hv : (DarkModeMode.ofInt v).toInt = v)
    (h : ∀ default, s.storedSetting env item target default = v) :
    item.valueIn (s.storedState env target) = v := by
  cases item with
  | mode => exact (congrArg (fun value => (DarkModeMode.ofInt value).toInt) (h _)).trans hv
  | startTime => exact h _
  | endTime => exact h _
  | sunset => exact h _
  | sunrise => exact h _

end Written

section Reach

/-- The rows that are reached are not those that are taken over: the sub-profile has them. -/
theorem Reaches.not_inherits (h : Reaches env s source target key) :
    ¬Inherits s source target key := by
  rintro ⟨-, hsub, item, hkey, hunset⟩
  obtain ⟨item', hown | ⟨hbase, hrow, -⟩⟩ := h.row
  · exact SettingItem.key_ne_buildSettingKey hsub _ _ (hkey.symm.trans hown)
  · obtain rfl := SettingItem.key_injective (hkey.symm.trans hbase)
    rw [hunset] at hrow
    cases hrow

/-- A row that the account could reach, but does not, cannot be read. -/
theorem unavailable_of_not_reaches
    (h : ¬Reaches env s (createBaseContext target.userId) target key)
    (hsub : target.isSubProfileContext = true)
    (hrow : ∃ item : SettingItem, key = buildSettingKey item.key target ∨
      key = item.key ∧ (ownRow s item target).isSome = true ∧
        s.ownSetting env item target = none) :
    ¬(s.settingDataManager.hasHelper env target.userId = true ∧
      env.query target.userId key = .rows) :=
  fun ⟨hconnected, hreadable⟩ => h ⟨rfl, hsub, hconnected, hreadable, hrow⟩

theorem ownSetting_setSettingData {item : SettingItem}
    (hne : getCallingAccountContext env' ≠ target)
    (hreaches : ¬Reaches env s (getCallingAccountContext env') target key) :
    (s.setSettingData env' key value).ownSetting env item target =
      s.ownSetting env item target := by
  by_cases hrow : target.userId = (getCallingAccountContext env').userId ∧
      buildSettingKey item.key target = buildSettingKey key (getCallingAccountContext env')
  · obtain ⟨haccount, hsub, hkey⟩ := account_of_own_key hne hrow.1 hrow.2
    rw [haccount] at hreaches
    unfold ownSetting
    rw [← hkey]
    exact readSetting_setSettingData_of_unavailable
      (unavailable_of_not_reaches hreaches hsub ⟨item, .inl hkey⟩)
  · exact readSetting_setSettingData hrow

theorem inheritedSetting_setSettingData {item : SettingItem}
    (hset : ¬Inherits s (getCallingAccountContext env') target key)
    (hreaches : ¬Reaches env s (getCallingAccountContext env') target key)
    (hown : s.ownSetting env item target = none) :
    (s.setSettingData env' key value).inheritedSetting env item target =
      s.inheritedSetting env item target := by
  unfold inheritedSetting
  split_ifs with hsub
  · by_cases hrow : target.userId = (getCallingAccountContext env').userId ∧
        item.key = buildSettingKey key (getCallingAccountContext env')
    · obtain ⟨haccount, hkey⟩ := account_of_key hrow.1 hrow.2
      have hsome : (ownRow s item target).isSome = true := by
        rw [Option.isSome_iff_ne_none]
        exact fun hunset => hset ⟨haccount, hsub, item, hkey, hunset⟩
      rw [haccount] at hreaches
      rw [← hkey]
      exact readSetting_setSettingData_of_unavailable
        (unavailable_of_not_reaches hreaches hsub ⟨item, .inr ⟨hkey, hsome, hown⟩⟩)
    · exact readSetting_setSettingData hrow
  · rfl

end Reach

/-- What is stored under a key stays in its context exactly if it reaches no row of the other. -/
theorem setSettingData_isolated_iff (hne : source ≠ target) :
    Isolated env s source target key ↔ ¬Reaches env s source target key := by
  constructor
  · intro hisolated hreaches
    obtain ⟨item, hstored⟩ := storedSetting_of_reaches hreaches env.clock
    have hstate (v : ℤ) (hv : IsInt32 v) (hmode : (DarkModeMode.ofInt v).toInt = v) :
        item.valueIn (s.storedState env target) = v := by
      have hsame := hisolated hreaches.not_inherits (callerIn env.clock source) (toString v)
        (getCallingAccountContext_callerIn ..)
      rw [loadState_snd, loadState_snd] at hsame
      rw [← hsame]
      exact valueIn_storedState hmode fun default => hstored v default hv
    have hone := hstate 1 (by decide) (by decide)
    have htwo := hstate 2 (by decide) (by decide)
    rw [hone] at htwo
    cases htwo
  · intro hreaches hset env' value hcaller
    subst hcaller
    rw [loadState_snd, loadState_snd]
    exact storedState_congr (fun item => ownSetting_setSettingData hne hreaches)
      fun item hown => inheritedSetting_setSettingData hset hreaches hown

/-- The sub-profile 5 of user 100 has chosen the dark mode. -/
def darkProfile : Service where
  parameters := Table.empty
  settingDataManager :=
    { isInitialized := true
      tables := fun userId => if userId = 100 then
          Table.empty.put (buildSettingKey SettingItem.mode.key ⟨100, 5⟩) "1"
        else Table.empty }

def morning : Clock := ⟨40000, 40000, 0, by decide⟩

/-- Two sub-profiles stay apart, whatever key is used. -/
theorem darkProfile_sibling : Isolated { clock := morning } darkProfile ⟨100, 6⟩ ⟨100, 5⟩
    "settings.uiappearance.darkmode_mode.5" :=
  (setSettingData_isolated_iff (by decide)).mpr fun h => absurd h.account (by decide)

/-- A caller of the account spells the key out and makes the sub-profile light. -/
theorem darkProfile_overwritten :
    let source := createBaseContext 100
    let target : AccountContext := ⟨100, 5⟩
    let key := "settings.uiappearance.darkmode_mode.5"
    let caller := callerIn morning source
    getCallingAccountContext caller = source ∧
      ownRow darkProfile .mode target = some "1" ∧
      (darkProfile.loadState { clock := morning } target).2.settingMode = .alwaysDark ∧
      ((darkProfile.setSettingData caller key "0").loadState { clock := morning }
        target).2.settingMode = .alwaysLight ∧
      ¬Isolated { clock := morning } darkProfile source target key := by
  have hrow : ownRow darkProfile .mode ⟨100, 5⟩ = some "1" := by decide +kernel
  have hbefore : (darkProfile.loadState { clock := morning } ⟨100, 5⟩).2.settingMode =
      .alwaysDark := by
    decide +kernel
  have hafter : ((darkProfile.setSettingData (callerIn morning (createBaseContext 100))
      "settings.uiappearance.darkmode_mode.5" "0").loadState { clock := morning }
        ⟨100, 5⟩).2.settingMode = .alwaysLight := by decide +kernel
  refine ⟨rfl, hrow, hbefore, hafter, fun hisolated => ?_⟩
  have hset : ¬Inherits darkProfile (createBaseContext 100) ⟨100, 5⟩
      "settings.uiappearance.darkmode_mode.5" := by
    rintro ⟨-, -, item, hkey, -⟩
    cases item <;> exact absurd hkey (by decide)
  have hsame := hisolated hset (callerIn morning (createBaseContext 100)) "0" rfl
  rw [hsame, hbefore] at hafter
  cases hafter

end SettingIsolation
end UiAppearance
