import UiAppearance.DarkMode.StoredState
import UiAppearance.DarkMode.Timers
import UiAppearance.Foundations.Transition

/-!
# Loading the settings again

A load stores for a sub-profile what it takes over from the account. These are
its only writes, each to a key of the sub-profile itself that holds no number.
A second load finds the copies or the originals, which is the same, and has
nothing left to store once the writes have succeeded.
-/

namespace UiAppearance
namespace Reloading

open Service AccountContext Transition

/-- The items of a load in the order of the source. -/
def settingItems : List SettingItem := [.mode, .startTime, .endTime, .sunset, .sunrise]

/-- The call of `SetStringValue` that stores it. -/
def write (env : Env) (context : AccountContext) (m : SettingDataManager DarkModeObserver)
    (w : SettingItem × ℤ) : SettingDataManager DarkModeObserver × ErrCode :=
  m.setStringValue env (buildSettingKey w.1.key context) (toString w.2) context.userId false

def afterWrite (env : Env) (context : AccountContext) (m : SettingDataManager DarkModeObserver)
    (w : SettingItem × ℤ) : SettingDataManager DarkModeObserver := (write env context m w).1

def Succeeds (env : Env) (context : AccountContext) (m : SettingDataManager DarkModeObserver)
    (w : SettingItem × ℤ) : Prop := (write env context m w).2 = .ok

def writesFor (env : Env) (context : AccountContext) (s : Service) (items : List SettingItem) :
    List (SettingItem × ℤ) :=
  items.filterMap fun item => (s.backFill env item context).map (item, ·)

/-- All writes of a load. -/
def loadWrites (env : Env) (context : AccountContext) (s : Service) : List (SettingItem × ℤ) :=
  writesFor env context s settingItems

/-- The write fills a gap of the context: a sub-profile's own key, without a number before. -/
structure FillsGap (env : Env) (context : AccountContext) (s : Service) (w : SettingItem × ℤ) :
    Prop where
  subProfile : context.isSubProfileContext = true
  notBase : ∀ item : SettingItem, buildSettingKey w.1.key context ≠ item.key
  notOther : ∀ (context' : AccountContext) (item : SettingItem), context'.userId = context.userId →
    buildSettingKey item.key context' = buildSettingKey w.1.key context → context' = context
  noNumber : env.query context.userId (buildSettingKey w.1.key context) = .rows → ∀ v, IsInt32 v →
    s.settingDataManager.tables context.userId (buildSettingKey w.1.key context) ≠ some (toString v)

/-- The database answers the reads of two loads alike. The writes may go as they like. -/
structure ReadAlike (env env' : Env) (context : AccountContext) : Prop where
  connected : env'.createHelper context.userId = env.createHelper context.userId
  answered : ∀ key, env'.query context.userId key = env.query context.userId key

variable {env env' : Env} {context : AccountContext} {s s' : Service} {item item' : SettingItem}
  {items : List SettingItem} {w : SettingItem × ℤ}

theorem loadState_fst : (s.loadState env context).1 =
    settingItems.foldl (fun s item => s.backFilled env item context) s := by
  unfold loadState
  simp only [loadSetting_eq_backFilled]
  rfl

/-- The writes for the other items are not touched by one of them. -/
theorem writesFor_backFilled (h : item ∉ items) :
    writesFor env context (s.backFilled env item context) items = writesFor env context s items := by
  refine List.filterMap_congr fun item' hmem => ?_
  have hne : item' ≠ item := fun heq => h (heq ▸ hmem)
  rw [backFill, ownSetting_backFilled hne, inheritedSetting_backFilled, ← backFill]

/-- The loop makes these writes and no others. -/
theorem manager_foldl (hnodup : items.Nodup) :
    (items.foldl (fun s item => s.backFilled env item context) s).settingDataManager =
      exec (afterWrite env context) s.settingDataManager (writesFor env context s items) := by
  induction items generalizing s with
  | nil => rfl
  | cons item items ih =>
    obtain ⟨hitem, hrest⟩ := List.nodup_cons.mp hnodup
    rw [List.foldl_cons, ih hrest, writesFor_backFilled hitem]
    unfold writesFor
    cases hfill : s.backFill env item context with
    | none =>
      rw [List.filterMap_cons_none (by rw [hfill]; rfl), backFilled, hfill]
    | some value =>
      rw [List.filterMap_cons_some (by rw [hfill]; rfl), exec_cons, backFilled, hfill]
      rfl

theorem backFill_foldl (h : item ∉ items) :
    (items.foldl (fun s item => s.backFilled env item context) s).backFill env item context =
      s.backFill env item context := by
  induction items generalizing s with
  | nil => rfl
  | cons item' items ih =>
    rw [List.mem_cons, not_or] at h
    rw [List.foldl_cons, ih h.2, backFill, ownSetting_backFilled h.1, inheritedSetting_backFilled,
      ← backFill]

/-- A gap that was filled and can be read is none. -/
theorem backFill_backFilled
    (hquery : env.query context.userId (buildSettingKey item.key context) = .rows)
    (h : ∀ value, s.backFill env item context = some value →
      Succeeds env context s.settingDataManager (item, value)) :
    (s.backFilled env item context).backFill env item context = none := by
  cases hfill : s.backFill env item context with
  | none => rw [backFilled, hfill, hfill]
  | some value =>
    have hsucceeds := h value hfill
    rcases ownSetting_backFilled_self hfill with hcopy | ⟨-, hfailed⟩
    · rw [if_pos ⟨SettingDataManager.hasHelper_of_setStringValue hsucceeds, hquery⟩] at hcopy
      rw [backFill, hcopy]
    · exact absurd hsucceeds hfailed

theorem nothing_left
    (hquery : ∀ item : SettingItem,
      env.query context.userId (buildSettingKey item.key context) = .rows)
    (hnodup : items.Nodup)
    (h : Along (afterWrite env context) (Succeeds env context) s.settingDataManager
      (writesFor env context s items)) :
    ∀ item ∈ items, (items.foldl (fun s item => s.backFilled env item context) s).backFill env
      item context = none := by
  induction items generalizing s with
  | nil => exact nofun
  | cons item items ih =>
    obtain ⟨hitem, hrest⟩ := List.nodup_cons.mp hnodup
    have hwrites : (∀ value, s.backFill env item context = some value →
          Succeeds env context s.settingDataManager (item, value)) ∧
        Along (afterWrite env context) (Succeeds env context)
          (s.backFilled env item context).settingDataManager
          (writesFor env context (s.backFilled env item context) items) := by
      rw [writesFor_backFilled hitem]
      unfold writesFor at h
      cases hfill : s.backFill env item context with
      | none =>
        rw [List.filterMap_cons_none (by rw [hfill]; rfl)] at h
        rw [backFilled, hfill]
        exact ⟨nofun, h⟩
      | some value =>
        rw [List.filterMap_cons_some (by rw [hfill]; rfl)] at h
        rw [backFilled, hfill]
        refine ⟨fun value' hvalue => ?_, h.2⟩
        obtain rfl := Option.some.inj hvalue
        exact h.1
    intro item' hmem
    rw [List.foldl_cons]
    rcases List.mem_cons.mp hmem with rfl | hmem
    · rw [backFill_foldl hitem]
      exact backFill_backFilled (hquery item') hwrites.1
    · exact ih hrest hwrites.2 item' hmem

/-- What a load finds it leaves to be found. -/
theorem storedState_loadState :
    (s.loadState env context).1.storedState env context = s.storedState env context := by
  rw [loadState_fst]
  refine frame_foldl s (fun s => s.storedState env context) (fun s item => ?_) settingItems
  unfold storedState
  simp only [storedSetting_backFilled]

theorem fillsGap (h : w ∈ loadWrites env context s) : FillsGap env context s w := by
  obtain ⟨item, -, hitem⟩ := List.mem_filterMap.mp h
  obtain ⟨value, hfill, rfl⟩ := Option.map_eq_some_iff.mp hitem
  obtain ⟨hsub, hown, hinherited⟩ := backFill_eq_some hfill
  refine ⟨hsub, fun item' => Ne.symm (SettingItem.key_ne_buildSettingKey hsub _ item'), ?_, ?_⟩
  · intro context' item' huser hkey
    by_cases hsub' : context'.isSubProfileContext = true
    · unfold buildSettingKey at hkey
      rw [if_pos hsub, if_pos hsub'] at hkey
      obtain ⟨-, hprofile⟩ := SettingItem.suffixed_inj.mp hkey
      obtain ⟨userId, subProfileId⟩ := context
      obtain ⟨userId', subProfileId'⟩ := context'
      dsimp only at huser hprofile
      rw [huser, hprofile]
    · rw [buildSettingKey, if_neg hsub'] at hkey
      exact absurd hkey (SettingItem.key_ne_buildSettingKey hsub _ item')
  · intro hquery v hv hrow
    rw [inheritedSetting, if_pos hsub] at hinherited
    have hread : s.ownSetting env item context = _ :=
      SettingDataManager.getInt32ValueStrictly_row hv hrow
    rw [if_pos ⟨hasHelper_of_readSetting hinherited, hquery⟩] at hread
    cases hown.symm.trans hread

section Loads

variable (needUpdateCallback isDarkMode bootLoadFlag : Bool)

/-- Without a location the rest of a load leaves the settings alone. -/
theorem settingDataManager_loadUserSettingData (h : env.sunTimes = none) :
    (s.loadUserSettingData env context needUpdateCallback isDarkMode
      bootLoadFlag).service.settingDataManager =
      exec (afterWrite env context) s.settingDataManager (loadWrites env context s) := by
  have hloaded : (s.loadedService env context).settingDataManager =
      exec (afterWrite env context) s.settingDataManager (loadWrites env context s) := by
    have hrest : (s.loadedService env context).settingDataManager =
        (s.loadState env context).1.settingDataManager := by
      unfold loadedService expireTemporary
      split_ifs
      · change (setColorModeNormal env _ context).settingDataManager = _
        rw [settingDataManager_of_frame (beyondSchedule_setColorModeNormal env _ context)]
        rfl
      · rfl
    rw [hrest, loadState_fst, manager_foldl (by decide)]
    rfl
  have hinit (s : Service) :
      (s.initSunriseSunsetMode env context).settingDataManager = s.settingDataManager := by
    unfold initSunriseSunsetMode calculateAndApplySunriseSunsetTimes
    rw [h]
    dsimp only
    split_ifs <;> rfl
  unfold loadUserSettingData
  dsimp only
  rw [← loadedService]
  split_ifs
  · rw [hinit, settingDataManager_onStateChangeLocked, hloaded]
  · rw [settingDataManager_onStateChangeLocked, hloaded]

theorem stateOf_loadUserSettingData_eq :
    (s.loadUserSettingData env context needUpdateCallback isDarkMode
      bootLoadFlag).service.stateOf context = s.storedState env context := by
  rw [stateOf_loadUserSettingData, loadState_snd]

end Loads

section Reload

theorem ReadAlike.readSetting (h : ReadAlike env env' context)
    (hrows : s'.settingDataManager.rows = s.settingDataManager.rows) (key : String) :
    s'.readSetting env' key context.userId = s.readSetting env key context.userId := by
  have hinit : s'.settingDataManager.isInitialized = s.settingDataManager.isInitialized :=
    congrArg Prod.fst hrows
  have hrow := congrFun (congrFun (congrArg Prod.snd hrows) context.userId) key
  rw [readSetting_congr hinit hrow]
  unfold Service.readSetting SettingDataManager.getInt32ValueStrictly
    SettingDataManager.getStringValue SettingDataManager.hasHelper
  rw [h.connected, h.answered]

theorem ReadAlike.ownSetting (h : ReadAlike env env' context)
    (hrows : s'.settingDataManager.rows = s.settingDataManager.rows) (item : SettingItem) :
    s'.ownSetting env' item context = s.ownSetting env item context := h.readSetting hrows _

theorem ReadAlike.inheritedSetting (h : ReadAlike env env' context)
    (hrows : s'.settingDataManager.rows = s.settingDataManager.rows) (item : SettingItem) :
    s'.inheritedSetting env' item context = s.inheritedSetting env item context := by
  unfold Service.inheritedSetting
  rw [h.readSetting hrows]

theorem ReadAlike.storedState (h : ReadAlike env env' context)
    (hrows : s'.settingDataManager.rows = s.settingDataManager.rows) :
    s'.storedState env' context = s.storedState env context := by
  unfold Service.storedState storedSetting
  simp only [h.ownSetting hrows, h.inheritedSetting hrows]

theorem ReadAlike.loadWrites (h : ReadAlike env env' context)
    (hrows : s'.settingDataManager.rows = s.settingDataManager.rows) :
    loadWrites env' context s' = loadWrites env context s := by
  unfold Reloading.loadWrites writesFor backFill
  simp only [h.ownSetting hrows, h.inheritedSetting hrows]

/-- A second load of a context, over the settings as the first one left them, ends in the same
state. A load writes what it takes over, each time into a gap of the context itself; if the writes
of the first load succeeded, the second one makes none. -/
theorem reload (hlocation : env.sunTimes = none) (hlocation' : env'.sunTimes = none)
    (hread : ReadAlike env env' context) (needUpdateCallback isDarkMode bootLoadFlag : Bool)
    (hrows : s'.settingDataManager.rows = (s.loadUserSettingData env context needUpdateCallback
      isDarkMode bootLoadFlag).service.settingDataManager.rows)
    (needUpdateCallback' isDarkMode' bootLoadFlag' : Bool) :
    let first := (s.loadUserSettingData env context needUpdateCallback isDarkMode
      bootLoadFlag).service
    let second := (s'.loadUserSettingData env' context needUpdateCallback' isDarkMode'
      bootLoadFlag').service
    second.stateOf context = first.stateOf context ∧
      (first.settingDataManager =
          exec (afterWrite env context) s.settingDataManager (loadWrites env context s) ∧
        ∀ w ∈ loadWrites env context s, FillsGap env context s w) ∧
      ((∀ item : SettingItem,
          env.query context.userId (buildSettingKey item.key context) = .rows) →
        Along (afterWrite env context) (Succeeds env context) s.settingDataManager
          (loadWrites env context s) →
        loadWrites env' context s' = [] ∧ second.settingDataManager = s'.settingDataManager) := by
  intro first second
  have hfirst : first.settingDataManager = (s.loadState env context).1.settingDataManager := by
    rw [loadState_fst, manager_foldl (by decide)]
    exact settingDataManager_loadUserSettingData _ _ _ hlocation
  have hrows' : s'.settingDataManager.rows = (s.loadState env context).1.settingDataManager.rows :=
    hrows.trans (congrArg SettingDataManager.rows hfirst)
  refine ⟨?_, ⟨settingDataManager_loadUserSettingData _ _ _ hlocation, fun w => fillsGap⟩, ?_⟩
  · rw [stateOf_loadUserSettingData_eq, stateOf_loadUserSettingData_eq, hread.storedState hrows',
      storedState_loadState]
  · intro hquery hsucceed
    have hnone : loadWrites env' context s' = [] := by
      rw [hread.loadWrites hrows', loadState_fst, loadWrites, writesFor,
        List.filterMap_eq_nil_iff]
      intro item hmem
      rw [nothing_left hquery (by decide) hsucceed item hmem]
      rfl
    refine ⟨hnone, ?_⟩
    rw [settingDataManager_loadUserSettingData _ _ _ hlocation', hnone]
    rfl

/-- A sub-profile takes over one number; loaded again it has nothing left to take over. -/
theorem reload_subProfile :
    let env : Env := { clock := ⟨1000044, 43244, 956800, by decide⟩ }
    let context : AccountContext := ⟨100, 5⟩
    let s : Service :=
      { settingDataManager :=
        { isInitialized := true
          tables := fun _ => Table.empty.put SettingItem.mode.key "1" } }
    let first := (s.loadUserSettingData env context false false false).service
    loadWrites env context s = [(.mode, 1)] ∧ loadWrites env context first = [] := by
  intro env context s first
  have hwrites : loadWrites env context s = [(.mode, 1)] := by decide +kernel
  have hsucceed : Along (afterWrite env context) (Succeeds env context) s.settingDataManager
      (loadWrites env context s) := by
    rw [hwrites]
    exact ⟨by unfold Succeeds; decide +kernel, trivial⟩
  have hrows : first.settingDataManager.rows =
      (s.loadUserSettingData env context false false false).service.settingDataManager.rows := rfl
  refine ⟨hwrites, ?_⟩
  exact ((reload rfl rfl ⟨rfl, fun _ => rfl⟩ false false false hrows false false
    false).2.2 (fun _ => rfl) hsucceed).1

end Reload

end Reloading
end UiAppearance
