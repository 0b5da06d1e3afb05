import UiAppearance.Ability.SettingWrites
import UiAppearance.Ability.SwitchFrames
import UiAppearance.DarkMode.ObserverSteps
import UiAppearance.Properties.Reloading
import UiAppearance.Properties.SettingIsolation

/-!
# Who may change a stored setting

Other processes and the callers of `SetSettingData` write what they like. The
service itself writes the mode at a choice by hand, and the sun times at a
recalculation for a context in sun mode. A load takes over the setting of the
account for a sub-profile that has none that can be read. Everything else
leaves a stored setting as it is: switches, timers, font changes, migrations and
restarts, in any order. So the start and the end time of an account are never
the service's own doing.
-/

namespace UiAppearance
namespace KeptSettings

open Service Transition SettingIsolation AccountContext
open SettingDataManager (number)

/-- One row stays as it is. -/
def KeepsRow (userId : ℤ) (key : String) (m m' : SettingDataManager DarkModeObserver) : Prop :=
  m'.tables userId key = m.tables userId key

instance (userId : ℤ) (key : String) : IsPreorder _ (KeepsRow userId key) where
  refl _ := rfl
  trans _ _ _ h h' := h'.trans h

/-- The context whose settings an entry loads, and the service when it begins to read them. -/
def loading (s : Service) (env : Env) : Event → Option (Service × AccountContext)
  | .bootCompleted =>
    if s.bootCompleteFlag then none
    else some (s.openSettings env,
      getForegroundContext env (env.activeOsAccountIds.headD user100))
  | .userSwitched userId => some (s.openSettings env, getForegroundContext env userId)
  | .subProfileSwitched userId subProfileId =>
    if env.enableSubspace ∧ userId = user100 then
      some (s.openSettings env, subProfileContext env userId subProfileId)
    else none
  | .loadUserSettingData context _ _ => some (s, context)
  | _ => none

/-- A load of the context does not write to the setting: it takes nothing over, and recalculates no
sun times. -/
structure LoadSpares (item : SettingItem) (context : AccountContext) (s : Service) (env : Env) :
    Prop where
  inherited : s.backFill env item context = none
  recalculated : item.isSun = true → (s.storedState env context).settingMode = .sunriseSunset →
    env.sunTimes = none

/-- A mode callback of the context that reads now finds the sun mode. -/
def ReadsSunMode (s : Service) (env : Env) (key : String) (context : AccountContext) : Prop :=
  DarkModeMode.ofInt (s.settingValue env key context SettingItem.mode.fallback) = .sunriseSunset

/-- An entry that is no load recalculates the sun times of the context, which is in sun mode or
enters it. -/
def Recalculates (context : AccountContext) (s : Service) (env : Env) : Event → Prop
  | .timeChanged =>
    s.observedContext = context ∧ (s.stateOf context).settingMode = .sunriseSunset
  | .timerFired (.recalculation context') =>
    context' = context ∧ (s.stateOf context).settingMode = .sunriseSunset
  | .settingChanged observer => observer = ⟨.mode, context⟩ ∧
      ReadsSunMode s env (buildSettingKey SettingItem.mode.key context) context
  | .delivered n => ∃ o, s.settingDataManager.inFlight[n]? = some o ∧
      o.updateFunc = ⟨.mode, context⟩ ∧ ReadsSunMode s env o.key context
  | _ => False

/-- Somebody asks for a write of the setting. -/
def Asks (item : SettingItem) (context : AccountContext) (env : Env) : Event → Prop
  | .setDarkMode _ => item = .mode ∧ context ∈ affectedContexts env (getCallingAccountContext env)
  | .setSettingData key _ => context.userId = (getCallingAccountContext env).userId ∧
      buildSettingKey item.key context = buildSettingKey key (getCallingAccountContext env)
  | .settingWritten userId key _ => context.userId = userId ∧
      buildSettingKey item.key context = key
  | _ => False

/-- The step leaves the setting of the context alone. -/
structure Spares (item : SettingItem) (context : AccountContext) (s : Service) (e : Env × Event) :
    Prop where
  asked : ¬Asks item context e.1 e.2
  loaded : ∀ s', loading s e.1 e.2 = some (s', context) → LoadSpares item context s' e.1
  recalculated : item.isSun = true → Recalculates context s e.1 e.2 → e.1.sunTimes = none

variable {env : Env} {s s' : Service} {item : SettingItem} {context : AccountContext}

section Keys

variable {item' : SettingItem} {context' : AccountContext}

/-- The settings of all contexts have rows of their own. -/
theorem row_inj (huser : context'.userId = context.userId)
    (hkey : buildSettingKey item'.key context' = buildSettingKey item.key context) :
    context' = context ∧ item' = item := by
  obtain ⟨userId, subProfileId⟩ := context
  obtain ⟨userId', subProfileId'⟩ := context'
  dsimp only at huser
  subst huser
  by_cases hsub : (AccountContext.mk userId' subProfileId).isSubProfileContext = true
  · by_cases hsub' : (AccountContext.mk userId' subProfileId').isSubProfileContext = true
    · unfold buildSettingKey at hkey
      rw [if_pos hsub, if_pos hsub', SettingItem.suffixed_inj] at hkey
      obtain ⟨hitem, rfl⟩ := hkey
      exact ⟨rfl, SettingItem.key_injective hitem⟩
    · have hplain : buildSettingKey item'.key ⟨userId', subProfileId'⟩ = item'.key := if_neg hsub'
      rw [hplain] at hkey
      exact absurd hkey (SettingItem.key_ne_buildSettingKey hsub item.key item')
  · have hplain : buildSettingKey item.key ⟨userId', subProfileId⟩ = item.key := if_neg hsub
    by_cases hsub' : (AccountContext.mk userId' subProfileId').isSubProfileContext = true
    · rw [hplain] at hkey
      exact absurd hkey.symm (SettingItem.key_ne_buildSettingKey hsub' item'.key item)
    · have hcontext := (eq_of_base hsub').trans (eq_of_base hsub).symm
      rw [hcontext, buildSettingKey_inj] at hkey
      exact ⟨hcontext, SettingItem.key_injective hkey⟩

end Keys

section Writes

variable {context' : AccountContext}

/-- Both rows of a pair are sun times. -/
theorem sunWritten_keeps
    (h : item.isSun = true → context' = context → env.sunTimes = none) :
    SunWritten (KeepsRow context.userId (buildSettingKey item.key context)) env context' := by
  intro times htimes m
  have hother (item' : SettingItem) (hsun : item'.isSun = true) :
      context.userId ≠ context'.userId ∨
        buildSettingKey item.key context ≠ buildSettingKey item'.key context' := by
    rw [← not_and_or]
    rintro ⟨huser, hkey⟩
    obtain ⟨hcontext, rfl⟩ := row_inj huser.symm hkey.symm
    rw [h hsun hcontext] at htimes
    cases htimes
  exact SettingDataManager.tables_setInt32ValuePair_of_ne (hother .sunset rfl) (hother .sunrise rfl)

theorem modeWritten_keeps (h : ¬(item = .mode ∧ context' = context)) :
    ModeWritten (KeepsRow context.userId (buildSettingKey item.key context)) env context' := by
  intro m value
  refine SettingDataManager.tables_setStringValue_of_ne ?_
  rw [← not_and_or]
  rintro ⟨huser, hkey⟩
  obtain ⟨hcontext, hitem⟩ := row_inj huser.symm hkey.symm
  exact h ⟨hitem.symm, hcontext⟩

end Writes

section Loading

variable {context' : AccountContext}

theorem ownRow_backFilled (item' : SettingItem)
    (h : context' = context → s.backFill env item context = none) :
    ownRow (s.backFilled env item' context') item context = ownRow s item context := by
  unfold backFilled
  cases hfill : s.backFill env item' context' with
  | none => rfl
  | some value =>
    refine SettingDataManager.tables_setStringValue_of_ne ?_
    rw [← not_and_or]
    rintro ⟨huser, hkey⟩
    obtain ⟨rfl, rfl⟩ := row_inj huser.symm hkey.symm
    rw [h rfl] at hfill
    cases hfill

/-- What is not taken over is not taken over later in the load. -/
theorem backFill_backFilled_of_none (item' : SettingItem) (h : s.backFill env item context = none) :
    (s.backFilled env item' context).backFill env item context = none := by
  by_cases hsame : item' = item
  · subst hsame
    unfold backFilled
    rw [h]
    exact h
  · unfold backFill at h ⊢
    rw [ownSetting_backFilled (Ne.symm hsame), inheritedSetting_backFilled]
    exact h

theorem ownRow_loadState (h : context' = context → s.backFill env item context = none) :
    ownRow (s.loadState env context').1 item context = ownRow s item context := by
  rw [Reloading.loadState_fst]
  refine (List.foldlRecOn (motive := fun s' : Service =>
    ownRow s' item context = ownRow s item context ∧
      (context' = context → s'.backFill env item context = none)) _ _ ⟨rfl, h⟩ ?_).1
  rintro s' ⟨hkept, hnone⟩ item' -
  refine ⟨(ownRow_backFilled item' hnone).trans hkept, ?_⟩
  rintro rfl
  exact backFill_backFilled_of_none item' (hnone rfl)

theorem ownRow_loadUserSettingData (needUpdateCallback isDarkMode bootLoadFlag : Bool)
    (h : context' = context → LoadSpares item context s env) :
    ownRow (s.loadUserSettingData env context' needUpdateCallback isDarkMode bootLoadFlag).service
      item context = ownRow s item context := by
  have hsun (hmode : (s.loadState env context').2.settingMode = .sunriseSunset) :
      SunWritten (KeepsRow context.userId (buildSettingKey item.key context)) env context' := by
    refine sunWritten_keeps fun hitem hsame => (h hsame).recalculated hitem ?_
    rwa [loadState_snd, hsame] at hmode
  have hloaded := writing_loadUserSettingData env s context' needUpdateCallback isDarkMode
    bootLoadFlag hsun
  exact hloaded.settings.trans (ownRow_loadState fun hsame => (h hsame).inherited)

/-- What a load does depends on the rows. -/
theorem LoadSpares.of_rows (h : LoadSpares item context s env)
    (hrows : s'.settingDataManager.rows = s.settingDataManager.rows) :
    LoadSpares item context s' env where
  inherited := (backFill_of_rows hrows).trans h.inherited
  recalculated := by
    rw [storedState_of_rows hrows]
    exact h.recalculated

/-- Opening the settings and moving the observers does not write. -/
theorem ownRow_onSwitchContext (env : Env) (s : Service) (context' : AccountContext) :
    ownRow (s.onSwitchContext env context').1 item context = ownRow s item context := by
  have hrows := rows_onSwitchContext env s context'
  have hopened : (s.openSettings env).settingDataManager.tables = s.settingDataManager.tables := by
    unfold openSettings withSettings SettingDataManager.initializeManager
    split_ifs <;> rfl
  unfold ownRow
  rw [← hopened]
  exact congrFun (congrFun (congrArg Prod.snd hrows) _) _

theorem ownRow_switchLoaded (needUpdateCallback isDarkMode bootLoadFlag : Bool)
    (h : context' = context → LoadSpares item context (s.openSettings env) env) :
    ownRow ((s.onSwitchContext env context').1.loadUserSettingData env context' needUpdateCallback
      isDarkMode bootLoadFlag).service item context = ownRow s item context :=
  (ownRow_loadUserSettingData _ _ _ fun hsame =>
    (h hsame).of_rows (rows_onSwitchContext env s context')).trans
      (ownRow_onSwitchContext env s context')

theorem ownRow_of_beyondAbility (h : s'.beyondAbility = s.beyondAbility) :
    ownRow s' item context = ownRow s item context :=
  (Writing.of_beyondAbility (R := KeepsRow context.userId (buildSettingKey item.key context))
    h).settings

theorem ownRow_accountContextSwitchFunc
    (h : context' = context → LoadSpares item context (s.openSettings env) env) :
    ownRow (s.accountContextSwitchFunc env context') item context = ownRow s item context :=
  (ownRow_of_beyondAbility (beyondAbility_accountContextSwitchFunc env s context')).trans
    (ownRow_switchLoaded _ _ _ h)

/-- The other users take over an appearance and no setting. -/
theorem ownRow_handleSubProfileSwitched (userId subProfileId : ℤ)
    (h : ∀ s', loading s env (.subProfileSwitched userId subProfileId) = some (s', context) →
      LoadSpares item context s' env) :
    ownRow (s.handleSubProfileSwitched env userId subProfileId) item context =
      ownRow s item context := by
  unfold handleSubProfileSwitched
  split_ifs with hdisabled hother
  · rfl
  · rfl
  · exact ownRow_of_beyondAbility (beyondAbility_applyAppearanceContextToUser ..)
  · have hloading : loading s env (.subProfileSwitched userId subProfileId) =
        some (s.openSettings env, subProfileContext env userId subProfileId) :=
      if_pos ⟨by simpa using hdisabled, not_not.mp hother⟩
    have hswitched : ownRow (s.accountContextSwitchFunc env
        (subProfileContext env userId subProfileId)) item context = ownRow s item context :=
      ownRow_accountContextSwitchFunc fun hsame => h _ (hsame ▸ hloading)
    refine (ownRow_of_beyondAbility ?_).trans hswitched
    refine frame_foldl _ beyondAbility (fun s effectiveUserId => ?_) _
    split_ifs
    · rfl
    · exact beyondAbility_applyAppearanceContextToUser ..

end Loading

section Callbacks

variable {observer : DarkModeObserver}

theorem ownRow_observerLocked (value : ℤ) :
    ownRow (s.observerLocked env observer value) item context = ownRow s item context :=
  (writing_onStateChangeLocked (R := KeepsRow context.userId (buildSettingKey item.key context)) env
    (s.setState observer.context (observer.item.assign value (s.stateOf observer.context)))
    observer.context true false observer.item.resets false).settings

theorem ownRow_recalculation {value : ℤ}
    (hsun : item.isSun = true → observer.context = context →
      DarkModeMode.ofInt value = .sunriseSunset → env.sunTimes = none) :
    ownRow (observerStep env s observer (.recalculation value)).1 item context =
      ownRow s item context := by
  have hclear := Writing.of_beyondSchedule
    (R := KeepsRow context.userId (buildSettingKey item.key context))
    (beyondSchedule_clearRecalculationTimer env s observer.context)
  dsimp only [observerStep]
  split_ifs with hmode
  · have hinit := writing_initSunriseSunsetMode env s observer.context fun _ =>
      sunWritten_keeps fun hitem hsame => hsun hitem hsame hmode
    exact hinit.settings
  · exact hclear.settings

/-- Of the callbacks that of the mode alone may write, when it reads the sun mode. -/
theorem ownRow_observerUpdateFunc {key : String}
    (hsun : item.isSun = true → observer = ⟨.mode, context⟩ → ReadsSunMode s env key context →
      env.sunTimes = none) :
    ownRow (s.observerUpdateFunc env observer key) item context = ownRow s item context := by
  obtain ⟨item', context'⟩ := observer
  rw [observerUpdateFunc_eq]
  dsimp only
  split_ifs with hitem
  · subst hitem
    refine (ownRow_recalculation fun hitem hsame hmode => ?_).trans (ownRow_observerLocked _)
    dsimp only at hsame
    subst hsame
    exact hsun hitem rfl hmode
  · exact ownRow_observerLocked _

theorem ownRow_deliver {n : ℕ}
    (hsun : item.isSun = true → Recalculates context s env (.delivered n) → env.sunTimes = none) :
    ownRow (s.deliver env n) item context = ownRow s item context := by
  unfold deliver
  cases hn : s.settingDataManager.inFlight[n]? with
  | none => rfl
  | some o =>
    have hkept : ownRow ((s.takeNotification n).observerUpdateFunc env o.updateFunc o.key) item
        context = ownRow (s.takeNotification n) item context :=
      ownRow_observerUpdateFunc fun hitem hobserver hmode => hsun hitem ⟨o, hn, hobserver, hmode⟩
    exact hkept

end Callbacks

section Runs

variable {event : Event}

theorem written_keeps (h : Spares item context s (env, event)) :
    Written (KeepsRow context.userId (buildSettingKey item.key context)) s env event := by
  cases event with
  | timeChanged =>
    intro hmode
    refine sunWritten_keeps fun hsun hsame => h.recalculated hsun ⟨hsame, ?_⟩
    rwa [hsame] at hmode
  | timerFired callback =>
    cases callback with
    | schedule startTime endTime context' => trivial
    | recalculation context' =>
      intro hmode
      refine sunWritten_keeps fun hsun hsame => h.recalculated hsun ⟨hsame, ?_⟩
      rwa [hsame] at hmode
  | setDarkMode mode =>
    intro context' hmem
    refine modeWritten_keeps ?_
    rintro ⟨hitem, rfl⟩
    exact h.asked ⟨hitem, hmem⟩
  | setSettingData key value =>
    intro m
    exact SettingDataManager.tables_setStringValue_of_ne (not_and_or.mp h.asked)
  | _ => trivial

theorem ownRow_step (h : Spares item context s (env, event)) :
    ownRow (s.step (env, event)) item context = ownRow s item context := by
  by_cases hannounces : event.announces = true
  · exact (writing_step s hannounces (written_keeps h)).settings
  · have hload {s' : Service} {context' : AccountContext}
        (hloading : loading s env event = some (s', context')) (hsame : context' = context) :
        LoadSpares item context s' env := h.loaded s' (hsame ▸ hloading)
    cases event with
    | onAddSystemAbility =>
      exact (ownRow_of_beyondAbility (beyondAbility_onAddSystemAbility ..)).trans rfl
    | bootCompleted =>
      change ownRow (s.bootCompletedCallback env) item context = _
      unfold bootCompletedCallback
      split_ifs with hcompleted
      · rfl
      · refine ownRow_switchLoaded (s := { s with bootCompleteFlag := true }) _ _ _ fun hsame => ?_
        exact (hload (if_neg hcompleted) hsame).of_rows rfl
    | userSwitched userId => exact ownRow_accountContextSwitchFunc (hload rfl)
    | subProfileSwitched userId subProfileId =>
      exact ownRow_handleSubProfileSwitched userId subProfileId h.loaded
    | settingChanged observer =>
      refine ownRow_observerUpdateFunc fun hitem hobserver hmode => ?_
      subst hobserver
      exact h.recalculated hitem ⟨rfl, hmode⟩
    | delivered n => exact ownRow_deliver h.recalculated
    | loadUserSettingData context' needUpdateCallback bootLoadFlag =>
      exact ownRow_loadUserSettingData _ _ _ (hload rfl)
    | settingWritten userId key value =>
      exact tables_settingWritten_of_ne value (not_and_or.mp h.asked)
    | rebooted => rfl
    | _ => exact absurd rfl hannounces

end Runs

open Scenario

/-- The sub-profile 5 starts at 10:00, its account at 11:00. -/
def profileRow (userId : ℤ) (key : String) : Option String :=
  if userId = 100 ∧ key = buildSettingKey SettingItem.startTime.key ⟨100, 5⟩ then some "600"
  else customRow userId key

def inProfile : Env :=
  { noon with
    enableSubspace := true
    foregroundSubProfileId := fun _ => some 5 }

/-- The account changes its start time, and the sub-profile is loaded and chooses light. -/
def visited : Run := bootRun ++ [(noon, .setSettingData SettingItem.startTime.key "720"),
  (inProfile, .userSwitched 100), (inProfile, .setDarkMode 1), (inProfile, .delivered 0),
  (inProfile, .timeChanged), (noon, .rebooted)]

end KeptSettings
end UiAppearance
