import UiAppearance.Ability.SwitchFrames
import UiAppearance.Ability.ParameterNames
import UiAppearance.Foundations.Transition

/-!
# Overrides across a restart

An override is kept twice, as a record in memory and in three parameters. The
flag is written with every change, the two times only with an override, so the
times of an earlier one stay behind; they are not looked at without the flag.
What is read back is then the record, whatever came before.
-/

namespace UiAppearance

/-- Printing and `atoll` are inverse to each other. -/
theorem atoll_toString (v : ℤ) : atoll (toString v) = v := by
  have hplus : '+' ∉ (toString v).toList := DecimalText.not_mem_toString (by decide) (by decide) v
  have hblank : ∀ c ∈ (toString v).toList, c.isWhitespace = false := by
    intro c hc
    by_contra hwhite
    have hcases : c = ' ' ∨ c = '\t' ∨ c = '\r' ∨ c = '\n' := by
      simpa [Char.isWhitespace, or_assoc, or_iff_not_imp_left] using hwhite
    rcases hcases with rfl | rfl | rfl | rfl <;>
      exact DecimalText.not_mem_toString (by decide) (by decide) v hc
  have hdrop : (toString v).toList.dropWhile Char.isWhitespace = (toString v).toList := by
    cases hlist : (toString v).toList with
    | nil => rfl
    | cons c cs =>
      rw [hlist] at hblank
      rw [List.dropWhile_cons, hblank c List.mem_cons_self, if_neg Bool.false_ne_true]
  unfold atoll
  rw [hdrop]
  split
  · next cs hlist =>
    rw [hlist] at hplus
    exact absurd List.mem_cons_self hplus
  · rw [DecimalText.readInt_toString]
    rfl

theorem toString_ne_empty (v : ℤ) : toString v ≠ "" := by
  intro h
  have hread := DecimalText.readInt_toString v
  rw [h] at hread
  cases hread

namespace RestoredOverrides

open Service TemporaryColorMode Transition

inductive Operation where
  | loadUserSettingData (context : AccountContext)
    (needUpdateCallback isDarkMode bootLoadFlag : Bool)
  | doSwitchTemporaryColorMode (context : AccountContext) (isDarkMode : Bool)
  | updateDarkModeSchedule (mode : DarkModeMode) (context : AccountContext)
    (resetTempColorModeFlag bootLoadFlag : Bool)
  | onChangeDarkMode (mode : DarkModeMode) (context : AccountContext)
  | screenOn
  | screenOff

def next (s : Service) (e : Env × Operation) : Service :=
  match e.2 with
  | .loadUserSettingData context needUpdateCallback isDarkMode bootLoadFlag =>
    (s.loadUserSettingData e.1 context needUpdateCallback isDarkMode bootLoadFlag).service
  | .doSwitchTemporaryColorMode context isDarkMode =>
    s.doSwitchTemporaryColorMode e.1 context isDarkMode
  | .updateDarkModeSchedule mode context resetTempColorModeFlag bootLoadFlag =>
    s.updateDarkModeSchedule e.1 mode context resetTempColorModeFlag bootLoadFlag
  | .onChangeDarkMode mode context => s.onChangeDarkMode e.1 mode context
  | .screenOn => s.screenOnCallback
  | .screenOff => s.screenOffCallback e.1

/-- The parameters spell the records in memory. -/
def Restorable (s : Service) : Prop :=
  ∀ context info, s.multiUserTempColorModeMap context = some info → s.persistedInfo context = info

/-- What the records and their parameters are. -/
def overrides (s : Service) : Table AccountContext TempColorModeInfo × Table String String :=
  (s.multiUserTempColorModeMap, fun key => if isTemporaryParam key then s.parameters key else none)

variable {env : Env} {s s' : Service} {context context' : AccountContext}

section Records

theorem persistedInfo_eq_of_parameters
    (hflag : s'.parameters (temporaryColorModeAssignUser context) =
      s.parameters (temporaryColorModeAssignUser context))
    (hstart : s'.parameters (temporaryStateStartTimeAssignUser context) =
      s.parameters (temporaryStateStartTimeAssignUser context))
    (hend : s'.parameters (temporaryStateEndTimeAssignUser context) =
      s.parameters (temporaryStateEndTimeAssignUser context)) :
    s'.persistedInfo context = s.persistedInfo context := by
  unfold persistedInfo
  rw [getParameterWrap_congr hflag, getParameterWrap_congr hstart, getParameterWrap_congr hend]

theorem Restorable.of_overrides (hs : Restorable s) (h : overrides s' = overrides s) :
    Restorable s' := by
  have hparameters (key : String) (hkey : isTemporaryParam key = true) :
      s'.parameters key = s.parameters key := by
    have hread := congrFun (congrArg Prod.snd h) key
    simpa only [overrides, hkey, if_true] using hread
  intro context info hinfo
  have hmap : s'.multiUserTempColorModeMap = s.multiUserTempColorModeMap := congrArg Prod.fst h
  rw [hmap] at hinfo
  rw [persistedInfo_eq_of_parameters (hparameters _ (isTemporaryParam_build _ _ (by decide)))
    (hparameters _ (isTemporaryParam_build _ _ (by decide)))
    (hparameters _ (isTemporaryParam_build _ _ (by decide)))]
  exact hs context info hinfo

end Records

section Saving

variable {info : TempColorModeInfo}

/-- What saving a record leaves in the parameters of its context. -/
structure Saved (s s' : Service) (context : AccountContext) (info : TempColorModeInfo) : Prop where
  map : s'.multiUserTempColorModeMap = s.multiUserTempColorModeMap.put context info
  flag : s'.parameters (temporaryColorModeAssignUser context) =
    some (if info.tempColorMode = .colorModeNormal then normalString else temporaryString)
  times : info.tempColorMode = .colorModeTemp →
    s'.parameters (temporaryStateStartTimeAssignUser context) =
        some (toString info.keepTemporaryStateStartTime) ∧
      s'.parameters (temporaryStateEndTimeAssignUser context) =
        some (toString info.keepTemporaryStateEndTime)
  others : ∀ (context' : AccountContext) (family : UserParamFamily), context' ≠ context →
    s'.parameters (AccountContext.buildUserParamKey family.paramName context') =
      s.parameters (AccountContext.buildUserParamKey family.paramName context')

theorem saved (hset : ∀ paramName value, env.setParameter paramName value = true) :
    Saved s ((s.setTempInfo context info).saveTempColorModeInfo env context) context info := by
  have hinfo : (s.setTempInfo context info).tempInfoOf context = info := Table.valueAt_put_self
  have htouch : (s.multiUserTempColorModeMap.put context info).touch context {} =
      s.multiUserTempColorModeMap.put context info := Table.touch_of_some Table.put_self
  have hwrite (s : Service) (paramName value : String) : s.setParameterWrap env paramName value =
      { s with parameters := s.parameters.put paramName value } := if_pos (hset paramName value)
  unfold saveTempColorModeInfo
  dsimp only
  rw [hinfo, hwrite, hwrite, hwrite]
  unfold setTempInfo
  dsimp only
  rw [htouch]
  have hne (family family' : UserParamFamily) {context context' : AccountContext}
      (h : ¬(family = family' ∧ context = context')) :
      AccountContext.buildUserParamKey family.paramName context ≠
        AccountContext.buildUserParamKey family'.paramName context' :=
    fun heq => h (UserParamFamily.buildUserParamKey_inj.mp heq)
  have hflagStart : temporaryColorModeAssignUser context ≠
      temporaryStateStartTimeAssignUser context := hne .temporaryFlag .temporaryStartTime (by simp)
  have hflagEnd : temporaryColorModeAssignUser context ≠
      temporaryStateEndTimeAssignUser context := hne .temporaryFlag .temporaryEndTime (by simp)
  have hstartEnd : temporaryStateStartTimeAssignUser context ≠
      temporaryStateEndTimeAssignUser context :=
    hne .temporaryStartTime .temporaryEndTime (by simp)
  by_cases htemp : info.tempColorMode = .colorModeTemp
  · rw [if_pos htemp]
    refine ⟨rfl, ?_, fun _ => ⟨?_, Table.put_self⟩, fun context' family hcontext => ?_⟩
    · dsimp only
      rw [Table.put_of_ne hflagEnd, Table.put_of_ne hflagStart, Table.put_self]
    · dsimp only
      rw [Table.put_of_ne hstartEnd, Table.put_self]
    · have hflag : _ ≠ temporaryColorModeAssignUser context :=
        hne family .temporaryFlag fun hsame => hcontext hsame.2
      have hstart : _ ≠ temporaryStateStartTimeAssignUser context :=
        hne family .temporaryStartTime fun hsame => hcontext hsame.2
      have hend : _ ≠ temporaryStateEndTimeAssignUser context :=
        hne family .temporaryEndTime fun hsame => hcontext hsame.2
      dsimp only
      rw [Table.put_of_ne hend, Table.put_of_ne hstart, Table.put_of_ne hflag]
  · rw [if_neg htemp]
    refine ⟨rfl, Table.put_self, fun h => absurd h htemp, fun context' family hcontext => ?_⟩
    exact Table.put_of_ne (hne family .temporaryFlag fun hsame => hcontext hsame.2)

/-- The saved parameters of a context spell its record, if a normal one has no times. -/
theorem Saved.persistedInfo (h : Saved s s' context info)
    (hnormal : info.tempColorMode = .colorModeNormal → info = {}) :
    s'.persistedInfo context = info := by
  have hread (key value : String) (default : String) (hvalue : value ≠ "")
      (hkey : s'.parameters key = some value) :
      s'.getParameterWrap key default = some value := by
    unfold getParameterWrap
    rw [hkey]
    exact if_neg hvalue
  unfold Service.persistedInfo
  cases hmode : info.tempColorMode with
  | colorModeNormal =>
    have hflag := h.flag
    rw [hmode, if_pos rfl] at hflag
    rw [hread _ _ _ (by decide) hflag, Option.getD_some, if_pos rfl, hnormal hmode]
  | colorModeTemp =>
    have hflag := h.flag
    rw [hmode, if_neg (by decide)] at hflag
    obtain ⟨hstart, hend⟩ := h.times hmode
    rw [hread _ _ _ (by decide) hflag, hread _ _ _ (toString_ne_empty _) hstart,
      hread _ _ _ (toString_ne_empty _) hend, Option.getD_some, Option.getD_some,
      Option.getD_some, atoll_toString, atoll_toString, if_neg (by decide), ← hmode]

theorem Saved.restorable (h : Saved s s' context info)
    (hnormal : info.tempColorMode = .colorModeNormal → info = {}) (hs : Restorable s) :
    Restorable s' := by
  intro context' info' hinfo
  rw [h.map] at hinfo
  by_cases hcontext : context' = context
  · subst hcontext
    rw [Table.put_self] at hinfo
    rw [h.persistedInfo hnormal, Option.some.inj hinfo]
  · rw [Table.put_of_ne hcontext] at hinfo
    rw [persistedInfo_eq_of_parameters (h.others context' .temporaryFlag hcontext)
      (h.others context' .temporaryStartTime hcontext)
      (h.others context' .temporaryEndTime hcontext)]
    exact hs context' info' hinfo

end Saving

section Steps

theorem overrides_setParameterWrap {paramName : String} (h : isTemporaryParam paramName = false)
    (value : String) : overrides (s.setParameterWrap env paramName value) = overrides s := by
  unfold setParameterWrap
  split_ifs
  · refine Prod.ext rfl (funext fun key => ?_)
    unfold overrides
    dsimp only
    split_ifs with hkey
    · refine Table.put_of_ne ?_
      rintro rfl
      rw [h] at hkey
      cases hkey
    · rfl
  · rfl

theorem overrides_updateConfiguration (config : Configuration) (userId : ℤ)
    (effectiveUserIds : List ℤ) :
    overrides (s.updateConfiguration env config userId effectiveUserIds).1 = overrides s := by
  unfold updateConfiguration
  dsimp only
  split_ifs <;> rfl

theorem overrides_configurePersistenceOfCallback (s : Service) (isDarkMode : Bool)
    (context : AccountContext) (paramValue : String) :
    overrides (s.configurePersistenceOfCallback env isDarkMode context paramValue) =
      overrides s :=
  overrides_setParameterWrap (not_isTemporaryParam_darkMode context) paramValue

/-- The callback writes parameters of the appearance. -/
theorem overrides_updateDarkModeCallback (isDarkMode : Bool) (userId : ℤ) :
    overrides (s.updateDarkModeCallback env isDarkMode userId) = overrides s := by
  unfold updateDarkModeCallback
  dsimp only
  split_ifs
  · exact overrides_updateConfiguration ..
  · rw [frame_foldl _ overrides fun s' effectiveUserId =>
      overrides_configurePersistenceOfCallback s' ..]
    exact (overrides_setParameterWrap (by decide) _).trans (overrides_updateConfiguration ..)
  · rw [overrides_configurePersistenceOfCallback]
    exact (overrides_setParameterWrap (by decide) _).trans (overrides_updateConfiguration ..)

variable (hset : ∀ paramName value, env.setParameter paramName value = true)

include hset

theorem restorable_setColorModeNormal (hs : Restorable s) (context : AccountContext) :
    Restorable (s.setColorModeNormal env context) :=
  (saved hset).restorable (fun _ => rfl) hs

theorem restorable_onChangeDarkMode (hs : Restorable s) (mode : DarkModeMode)
    (context : AccountContext) : Restorable (s.onChangeDarkMode env mode context) := by
  unfold onChangeDarkMode
  dsimp only
  have hupdated (isDarkMode : Bool) :
      Restorable ((s.emit (.updateCallback isDarkMode context)).updateDarkModeCallback env
        isDarkMode context.userId) :=
    hs.of_overrides ((overrides_updateDarkModeCallback ..).trans rfl)
  split_ifs
  · exact hs
  · exact restorable_setColorModeNormal hset (hupdated _) context
  · exact hupdated _

theorem restorable_updateDarkModeSchedule (hs : Restorable s) (mode : DarkModeMode)
    (context : AccountContext) (resetTempColorModeFlag bootLoadFlag : Bool) :
    Restorable (s.updateDarkModeSchedule env mode context resetTempColorModeFlag
      bootLoadFlag) := by
  have hreset : Restorable s.resetScreenOffOperateInfo := hs.of_overrides rfl
  unfold updateDarkModeSchedule
  dsimp only
  split_ifs
  · exact restorable_onChangeDarkMode hset hreset mode context
  · exact restorable_onChangeDarkMode hset hreset mode context
  · exact hreset
  · exact hreset.of_overrides rfl
  · exact hreset

theorem restorable_onStateChangeLocked (hs : Restorable s) (context : AccountContext)
    (needUpdateCallback isDarkMode resetTempColorModeFlag bootLoadFlag : Bool) :
    Restorable (s.onStateChangeLocked env context needUpdateCallback isDarkMode
      resetTempColorModeFlag bootLoadFlag).service := by
  have htouched : Restorable (s.touchState context) := hs.of_overrides rfl
  have hallDay (mode : DarkModeMode) : Restorable ((s.touchState context).onStateChangeToAllDayMode
      env context mode needUpdateCallback resetTempColorModeFlag bootLoadFlag).service := by
    unfold onStateChangeToAllDayMode
    dsimp only
    split_ifs
    · refine restorable_updateDarkModeSchedule hset ?_ _ _ _ _
      exact htouched.of_overrides rfl
    · exact htouched.of_overrides rfl
  have hschedule (state : DarkModeState) :
      Restorable ((s.touchState context).onStateChangeToCustomAutoMode env context state
        needUpdateCallback isDarkMode resetTempColorModeFlag bootLoadFlag).service := by
    unfold onStateChangeToCustomAutoMode
    dsimp only
    split_ifs
    · refine restorable_updateDarkModeSchedule hset ?_ _ _ _ _
      exact htouched.of_overrides rfl
    · exact htouched.of_overrides rfl
    · exact htouched.of_overrides rfl
  unfold onStateChangeLocked
  dsimp only
  split
  · exact hallDay _
  · exact hallDay _
  · exact hschedule _
  · exact hschedule _
  · exact htouched

theorem restorable_loadUserSettingData (hs : Restorable s) (context : AccountContext)
    (needUpdateCallback isDarkMode bootLoadFlag : Bool) :
    Restorable (s.loadUserSettingData env context needUpdateCallback isDarkMode
      bootLoadFlag).service := by
  have hstate : Restorable ((s.loadState env context).1.setState context
      (s.loadState env context).2) := by
    have hloaded := beyondLoading_loadState env s context
    exact hs.of_overrides (congrArg overrides hloaded :)
  have hinit : Restorable (((s.loadState env context).1.setState context
      (s.loadState env context).2).initData context) := by
    intro context' info hinfo
    by_cases hcontext : context' = context
    · subst hcontext
      exact Option.some.inj (Table.put_self.symm.trans hinfo)
    · exact hstate context' info ((Table.put_of_ne hcontext).symm.trans hinfo)
  have hexpired : Restorable (s.loadedService env context) := by
    unfold loadedService expireTemporary
    split_ifs
    · exact (restorable_setColorModeNormal hset hinit context).of_overrides rfl
    · exact hinit.of_overrides rfl
  have hreacted := restorable_onStateChangeLocked hset hexpired context needUpdateCallback
    isDarkMode false bootLoadFlag
  unfold loadUserSettingData
  dsimp only
  rw [← loadedService]
  split_ifs
  · have hinitialized := beyondLoading_initSunriseSunsetMode env ((s.loadedService env
      context).onStateChangeLocked env context needUpdateCallback isDarkMode false
        bootLoadFlag).service context
    exact hreacted.of_overrides (congrArg overrides hinitialized :)
  · exact hreacted

/-- Where an override starts there is a schedule, so it is saved. -/
theorem restorable_doSwitchTemporaryColorMode (hs : Restorable s) (context : AccountContext)
    (isDarkMode : Bool) : Restorable (s.doSwitchTemporaryColorMode env context isDarkMode) := by
  have htouched : Restorable (s.touchState context) := hs.of_overrides rfl
  have hreset : Restorable (s.touchState context).resetScreenOffOperateInfo :=
    htouched.of_overrides rfl
  unfold doSwitchTemporaryColorMode
  dsimp only
  split_ifs
  · split
    · exact hreset
    · next setting hsetting =>
      split_ifs
      · exact restorable_setColorModeNormal hset hreset context
      · refine Restorable.of_overrides ?_ rfl
        unfold setColorModeTemporary
        rw [hsetting]
        exact (saved hset).restorable nofun hreset
  · exact htouched

theorem restorable_next (hs : Restorable s) (operation : Operation) :
    Restorable (next s (env, operation)) := by
  cases operation with
  | loadUserSettingData context needUpdateCallback isDarkMode bootLoadFlag =>
    exact restorable_loadUserSettingData hset hs context needUpdateCallback isDarkMode bootLoadFlag
  | doSwitchTemporaryColorMode context isDarkMode =>
    exact restorable_doSwitchTemporaryColorMode hset hs context isDarkMode
  | updateDarkModeSchedule mode context resetTempColorModeFlag bootLoadFlag =>
    exact restorable_updateDarkModeSchedule hset hs mode context resetTempColorModeFlag
      bootLoadFlag
  | onChangeDarkMode mode context => exact restorable_onChangeDarkMode hset hs mode context
  | screenOn => exact hs.of_overrides rfl
  | screenOff =>
    have hoff : Restorable s.setScreenOff := hs.of_overrides rfl
    change Restorable (s.screenOffCallback env)
    unfold screenOffCallback
    dsimp only
    split_ifs
    · exact (restorable_onChangeDarkMode hset hoff _ _).of_overrides rfl
    · exact (restorable_onChangeDarkMode hset hoff _ _).of_overrides rfl
    · exact hoff

end Steps

/-- Whatever a process did, the next one reads the records it had, from the parameters alone. A
normal record has no times. -/
theorem overrides_survive (s : Service) (run : List (Env × Operation))
    (hset : ∀ e ∈ run, ∀ paramName value, e.1.setParameter paramName value = true)
    (tables : ℤ → Table String String) :
    let last := exec next { s with multiUserTempColorModeMap := Table.empty } run
    ∀ context info, last.multiUserTempColorModeMap context = some info →
      ((start last.parameters tables).initData context).multiUserTempColorModeMap context =
          some info ∧
        (info.tempColorMode = .colorModeNormal →
          info.keepTemporaryStateStartTime = 0 ∧ info.keepTemporaryStateEndTime = 0) := by
  intro last context info hinfo
  have hstart : Restorable { s with multiUserTempColorModeMap := Table.empty } := nofun
  have hlast : Restorable (exec next _ run) :=
    exec_invariant (I := Restorable)
      (fun _ (e : Env × Operation) hs hset => restorable_next hset hs e.2) hstart
      (along_of_forall hset)
  have hpersisted := hlast context info hinfo
  refine ⟨?_, fun hnormal => ?_⟩
  · have hread : (start last.parameters tables).persistedInfo context = info := hpersisted
    rw [initData, hread]
    exact Table.put_self
  · unfold persistedInfo at hpersisted
    dsimp only at hpersisted
    split_ifs at hpersisted
    · rw [← hpersisted]
      exact ⟨rfl, rfl⟩
    · rw [← hpersisted] at hnormal
      cases hnormal

/-- A choice against the schedule, and what the next process reads of it. -/
theorem overrides_survive_choice :
    let context : AccountContext := ⟨100, 5⟩
    let state : DarkModeState :=
      { settingMode := .customAuto, settingStartTime := 480, settingEndTime := 1080 }
    let env : Env := { clock := ⟨1000045, 43245, 956800, by decide⟩ }
    let last := exec next { darkModeStates := Table.empty.put context state }
      [(env, .doSwitchTemporaryColorMode context false)]
    ((start last.parameters fun _ => Table.empty).initData context).multiUserTempColorModeMap
      context = some ⟨.colorModeTemp, 1000045, 1071999⟩ := by
  intro context state env last
  have hset : ∀ e ∈ [(env, Operation.doSwitchTemporaryColorMode context false)],
      ∀ paramName value, e.1.setParameter paramName value = true := by
    intro e he paramName value
    rw [List.mem_singleton.mp he]
  exact (overrides_survive { darkModeStates := Table.empty.put context state } _ hset _ context _
    (by decide +kernel)).1

end RestoredOverrides
end UiAppearance
