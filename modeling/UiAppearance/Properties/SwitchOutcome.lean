import UiAppearance.Ability.SwitchFrames

/-!
# What a switch to a context decides

The colour after a switch is the one that the settings of the context ask for,
unless they ask for none or an override is in force; then it stays what it was.
An override whose time is over ends. No other context is concerned.
-/

namespace UiAppearance

namespace DarkModeState

/-- The colour of a schedule that the timers accept. -/
def scheduleColor (clock : Clock) (startTime endTime : ℤ) : Option Bool :=
  if AlarmTimerManager.isValidScheduleTime (toUInt64 startTime) (toUInt64 endTime) then
    some (AlarmTimerManager.isWithinTimeInterval clock (toUInt64 startTime) (toUInt64 endTime))
  else none

/-- The colour that a state asks for, if it does. -/
def demandedColor (clock : Clock) (state : DarkModeState) : Option Bool :=
  match state.settingMode with
  | .alwaysLight => some false
  | .alwaysDark => some true
  | .customAuto => scheduleColor clock state.settingStartTime state.settingEndTime
  | .sunriseSunset => scheduleColor clock state.settingSunsetTime state.settingSunriseTime
  | .invalid => none

/-- With timers at hand, a state that can be acted upon is one that asks for a colour. -/
theorem demandedColor_eq {env : Env} {state : DarkModeState}
    (hstart : AlarmTimerManager.canCreate env .start = true)
    (hfinish : AlarmTimerManager.canCreate env .finish = true) :
    state.demandedColor env.clock =
      if state.actionable env then some (state.wantsDark env.clock) else none := by
  have hschedule : (state.accepted && AlarmTimerManager.canCreate env .start &&
      AlarmTimerManager.canCreate env .finish) = state.accepted := by
    rw [hstart, hfinish, Bool.and_true, Bool.and_true]
  unfold demandedColor actionable wantsDark
  cases hmode : state.settingMode with
  | invalid => rfl
  | alwaysLight => rfl
  | alwaysDark => rfl
  | customAuto =>
    have htimes : state.scheduleTime = (state.settingStartTime, state.settingEndTime) := by
      unfold scheduleTime
      rw [hmode]
      rfl
    dsimp only
    rw [hschedule, accepted, within, htimes]
    rfl
  | sunriseSunset =>
    have htimes : state.scheduleTime = (state.settingSunsetTime, state.settingSunriseTime) :=
      if_pos hmode
    dsimp only
    rw [hschedule, accepted, within, htimes]
    rfl

end DarkModeState

namespace SwitchOutcome

open Service TemporaryColorMode

variable {env : Env} {s : Service} {context : AccountContext}

/-- The colour of the context after the switch. -/
def decidedColor (env : Env) (s : Service) (context : AccountContext) : DarkMode :=
  let state := (s.openSettings env).storedState env context
  match state.demandedColor env.clock with
  | none => (s.paramOf env context).darkMode
  | some isDarkMode =>
    if (s.persistedInfo context).effective env.clock then (s.paramOf env context).darkMode
    else .ofColor isDarkMode

/-- The stores before a switch and after it. -/
structure Decided (env : Env) (s s' : Service) (context : AccountContext) : Prop where
  entry : s'.usersParam context =
    some { s.paramOf env context with darkMode := decidedColor env s context }
  state : s'.darkModeStates context = some ((s.openSettings env).storedState env context)
  expired : (s.persistedInfo context).isTemporary = true →
    (s.persistedInfo context).effective env.clock = false →
      s'.multiUserTempColorModeMap context = some {} ∧
        (env.setParameter (temporaryColorModeAssignUser context) normalString = true →
          s'.parameters (temporaryColorModeAssignUser context) = some normalString)
  usersParam : ∀ c, c ≠ context → s'.usersParam c = s.usersParam c
  darkModeStates : ∀ c, c ≠ context → s'.darkModeStates c = s.darkModeStates c
  overrides : ∀ c, c ≠ context → s'.multiUserTempColorModeMap c = s.multiUserTempColorModeMap c ∧
    s'.persistedInfo c = s.persistedInfo c

section Color

theorem settledColor_of_timers (hstart : AlarmTimerManager.canCreate env .start = true)
    (hfinish : AlarmTimerManager.canCreate env .finish = true) :
    s.settledColor env context =
      if (s.persistedInfo context).effective env.clock then none
      else ((s.openSettings env).storedState env context).demandedColor env.clock := by
  unfold settledColor
  rw [Core.isTemporary_loadedRecord, switchState_eq, DarkModeState.demandedColor_eq hstart hfinish]
  cases (s.persistedInfo context).effective env.clock <;>
    cases ((s.openSettings env).storedState env context).actionable env <;> rfl

/-- The entry of the context keeps its font scales and holds the colour that was decided. -/
theorem switchedParam_eq (hfinished : s.isInitializationFinished = true)
    (hstart : AlarmTimerManager.canCreate env .start = true)
    (hfinish : AlarmTimerManager.canCreate env .finish = true) :
    s.switchedParam env context =
      { s.paramOf env context with darkMode := decidedColor env s context } := by
  unfold switchedParam decidedColor
  rw [settledColor_of_timers hstart hfinish, paramOf_switchPrepared hfinished]
  dsimp only
  cases ((s.openSettings env).storedState env context).demandedColor env.clock with
  | none => rw [ite_self]
  | some isDarkMode => cases (s.persistedInfo context).effective env.clock <;> rfl

end Color

section Parameters

/-- A switch writes one of the parameters that belong to overrides at most. -/
theorem parameters_of_temporary {key : String} (hkey : isTemporaryParam key = true) :
    (s.accountContextSwitchFunc env context).parameters key =
      (s.loadedOverride env context).parameters key := by
  have hitem (item : AppearanceItem) (context : AccountContext) :
      key ≠ item.paramAssignUser context := by
    rintro rfl
    rw [item.isTemporaryParam_paramAssignUser context] at hkey
    cases hkey
  have hglobal (item : AppearanceItem) : key ≠ item.globalParam := by
    rintro rfl
    rw [item.isTemporaryParam_globalParam] at hkey
    cases hkey
  have hfirst : key ≠ firstInitialization := by
    rintro rfl
    exact absurd hkey (by decide)
  rw [parameters_accountContextSwitchFunc _ _ _ hglobal, ← parameters_switchLoaded]
  have hmigrated (s : Service) : (s.doCompatibleProcess env).parameters key = s.parameters key :=
    parameters_doCompatibleProcess_of_ne env s hitem hfirst
  have hinitialised (s : Service) : (s.doInitProcess env).parameters key = s.parameters key :=
    parameters_doInitProcess_of_ne env s hitem
  unfold switchPrepared
  dsimp only
  split_ifs
  · exact hmigrated _
  · rw [hinitialised]
    exact hmigrated _
  · rfl
  · exact hinitialised _

theorem persistedInfo_of_ne {c : AccountContext} (hc : c ≠ context) :
    (s.accountContextSwitchFunc env context).persistedInfo c = s.persistedInfo c := by
  have hread (name : String) (htemporary : isTemporaryParam name = true)
      (hne : AccountContext.buildUserParamKey name c ≠ temporaryColorModeAssignUser context)
      (default : String) :
      (s.accountContextSwitchFunc env context).getParameterWrap
        (AccountContext.buildUserParamKey name c) default =
          s.getParameterWrap (AccountContext.buildUserParamKey name c) default := by
    refine getParameterWrap_congr ?_ default
    rw [parameters_of_temporary (isTemporaryParam_build c name htemporary),
      parameters_loadedOverride_of_ne env s context hne]
  have hflag := hread colorModeParamString (by decide)
    (fun heq => hc (AccountContext.buildUserParamKey_injective heq)) normalString
  have hstart := hread startTimeParamString (by decide)
    (AccountContext.buildUserParamKey_ne_build (by decide) (by decide) c context) "0"
  have hend := hread endTimeParamString (by decide)
    (AccountContext.buildUserParamKey_ne_build (by decide) (by decide) c context) "0"
  unfold persistedInfo temporaryColorModeAssignUser temporaryStateStartTimeAssignUser
    temporaryStateEndTimeAssignUser
  rw [hflag, hstart, hend]

end Parameters

/-- What a switch decides, whatever the stores and the clock say. -/
theorem accountContextSwitchFunc_decided (hfinished : s.isInitializationFinished = true)
    (hstart : AlarmTimerManager.canCreate env .start = true)
    (hfinish : AlarmTimerManager.canCreate env .finish = true) :
    Decided env s (s.accountContextSwitchFunc env context) context where
  entry := by
    rw [usersParam_accountContextSwitchFunc, Table.put_self,
      switchedParam_eq hfinished hstart hfinish]
  state := by
    rw [darkModeStates_accountContextSwitchFunc, Table.put_self, switchState_eq]
  expired := by
    intro htemporary heffective
    constructor
    · rw [multiUserTempColorModeMap_accountContextSwitchFunc, Table.put_self]
      unfold Core.loadedRecord
      rw [htemporary, heffective]
      rfl
    · intro hwrite
      have hkey : isTemporaryParam (temporaryColorModeAssignUser context) = true :=
        isTemporaryParam_build context _ (by decide)
      rw [parameters_of_temporary hkey, parameters_loadedOverride_flag, htemporary, heffective,
        hwrite]
      rfl
  usersParam := by
    intro c hc
    rw [usersParam_accountContextSwitchFunc, Table.put_of_ne hc,
      usersParam_switchPrepared hfinished]
  darkModeStates := by
    intro c hc
    rw [darkModeStates_accountContextSwitchFunc, Table.put_of_ne hc]
  overrides := by
    intro c hc
    refine ⟨?_, persistedInfo_of_ne hc⟩
    rw [multiUserTempColorModeMap_accountContextSwitchFunc, Table.put_of_ne hc]

/-- The account keeps a schedule from 18:00 to 7:00; its sub-profile has an override of long ago. -/
def expiredOverride : Service where
  isInitializationFinished := true
  settingDataManager :=
    { tables := fun _ => ((Table.empty.put SettingItem.mode.key "2").put SettingItem.startTime.key
        "1080").put SettingItem.endTime.key "1860" }
  parameters := ((Table.empty.put (temporaryColorModeAssignUser ⟨100, 5⟩) temporaryString).put
    (temporaryStateStartTimeAssignUser ⟨100, 5⟩) "10").put
    (temporaryStateEndTimeAssignUser ⟨100, 5⟩) "20"

def evening : Env := { clock := ⟨1070600, 72600, 998000, by decide⟩ }

/-- In the evening the sub-profile turns dark, and its override is gone. -/
theorem expiredOverride_decided :
    Decided evening expiredOverride (expiredOverride.accountContextSwitchFunc evening ⟨100, 5⟩)
      ⟨100, 5⟩ ∧
    decidedColor evening expiredOverride ⟨100, 5⟩ = .alwaysDark ∧
    (expiredOverride.persistedInfo ⟨100, 5⟩).isTemporary = true ∧
    (expiredOverride.persistedInfo ⟨100, 5⟩).effective evening.clock = false := by
  refine ⟨accountContextSwitchFunc_decided rfl (by decide) (by decide), ?_, ?_, ?_⟩ <;>
    decide +kernel

end SwitchOutcome
end UiAppearance
