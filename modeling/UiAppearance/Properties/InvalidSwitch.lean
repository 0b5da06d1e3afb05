import UiAppearance.Properties.ShownConfiguration
import UiAppearance.Schedule.DisposableTimers

/-!
# A switch to an invalid user

The settings refuse to follow such a switch, and still it goes on: it loads,
adopts a colour and sends a configuration. Nothing changes only where all of
this has been there before, as it is after earlier switches to the same user.
-/

namespace UiAppearance
namespace InvalidSwitch

open Service Transition Scenario TemporaryColorMode
open AlarmTimerManager (canCreate Disposable)
open ShownConfiguration (World sent sent_eq update addressee
  configurations_accountContextSwitchFunc_eq)

/-- The application manager holds what it was sent until it goes away. -/
def next (w : World) (e : Env × Event) : World where
  service := w.service.step e
  shown :=
    match e.2 with
    | .onRemoveSystemAbility => fun _ => {}
    | .rebooted => fun _ => {}
    | _ => (sent w.service (w.service.step e)).foldr update w.shown

/-- The settings are at hand, and refuse to observe the context that is switched to. -/
structure Rejected (s : Service) (e : Env × Event) (context : AccountContext) : Prop where
  switched : ∃ userId, e.2 = .userSwitched userId ∧ context = .getForegroundContext e.1 userId
  opened : (s.settingDataManager.initializeManager e.1).2 = .ok
  invalid : context.userId ≤ invalidUserId

/-- The operation that waits for the screen to go off. -/
def pendingOperate (m : ScreenSwitchOperatorManager) : Option (Bool × ℤ) :=
  if m.haveScreenOffOperate then some m.getScreenOffOperateInfo else none

structure Unaffected (w w' : World) : Prop where
  usersParam : w'.service.usersParam = w.service.usersParam
  darkModeStates : w'.service.darkModeStates = w.service.darkModeStates
  overrides : w'.service.multiUserTempColorModeMap = w.service.multiUserTempColorModeMap
  pending : pendingOperate w'.service.screenSwitchOperatorMgr =
    pendingOperate w.service.screenSwitchOperatorMgr
  timers : w'.service.alarmTimerManager = w.service.alarmTimerManager
  parameters : w'.service.parameters = w.service.parameters
  shown : w'.shown = w.shown

/-- There is no timer that a reaction to the state could clear, and none that it could set for
good: a schedule is rejected, or its timers cannot both be had. -/
structure TimersIdle (env : Env) (m : AlarmTimerManager TimerCallback) (userId : ℕ)
    (state : DarkModeState) : Prop where
  unarmed : state.settingMode.isSchedule = true → state.accepted = true →
    (canCreate env .start = false ∨ canCreate env .finish = false) ∧
      Disposable env m .start ∧ Disposable env m .finish
  recalculation : state.settingMode = .sunriseSunset →
    canCreate env .recalculation = false ∧ Disposable env m .recalculation
  absent : state.settingMode ≠ .invalid → m.timerIdMap.lookup userId = none ∧
    m.recalculationTimerIdMap userId = none ∧ m.initialSetupTimeMap userId = none

/-- The global parameters that can be written hold the entry of the context already, and so
does the application manager if it takes an update for the user it would be sent to. -/
structure Told (env : Env) (w : World) (context : AccountContext) (param : UiAppearanceParam) :
    Prop where
  parameters : ∀ item : AppearanceItem,
    env.setParameter item.globalParam (item.valueOf param) = true →
      w.service.parameters item.globalParam = some (item.valueOf param)
  shown : env.updateConfiguration
      [addressee w.service context context.isSubProfileContext] = true →
    w.shown (addressee w.service context context.isSubProfileContext) = .ofParam param

/-- Whatever a switch to the context stores is stored already. -/
structure Settled (env : Env) (w : World) (context : AccountContext) : Prop where
  migrated : w.service.isNeedDoCompatibleProcess = false
  initialised : w.service.isInitializationFinished = true
  state : w.service.darkModeStates context =
    some ((w.service.openSettings env).storedState env context)
  record : w.service.multiUserTempColorModeMap context =
    some (Core.loadedRecord env.clock (w.service.persistedInfo context))
  ended : (w.service.persistedInfo context).isTemporary = true →
    (w.service.persistedInfo context).effective env.clock = false →
      env.setParameter (temporaryColorModeAssignUser context) normalString = false
  pending : w.service.screenSwitchOperatorMgr.haveScreenOffOperate = false
  timers : TimersIdle env w.service.alarmTimerManager context.buildTimerKey
    ((w.service.openSettings env).storedState env context)
  entry : ∃ param, w.service.usersParam context = some param ∧
    (∀ isDarkMode, ((w.service.openSettings env).storedState env context).settingMode =
        .ofColor isDarkMode → (w.service.persistedInfo context).effective env.clock = false →
      param.darkMode = .ofColor isDarkMode) ∧
    (env.appManager = true → Told env w context param)

variable {env : Env} {s : Service} {w : World} {context : AccountContext}
  {param : UiAppearanceParam}

section Load

theorem onSwitchContext_of_rejected {e : Env × Event} (h : Rejected s e context) :
    s.onSwitchContext e.1 context = (s.openSettings e.1, .invalidOperation) := by
  unfold onSwitchContext
  dsimp only
  rw [if_neg (not_not_intro h.opened), if_pos h.invalid]
  rfl

/-- A load leaves the timers alone where they are idle. -/
theorem timersFor_of_idle {m : AlarmTimerManager TimerCallback} {state : DarkModeState}
    (h : TimersIdle env m context.buildTimerKey state) : timersFor env context m state = m := by
  have hclear (hmode : state.settingMode ≠ .invalid) :
      m.clearTimerByUserId env context.buildTimerKey = m := by
    obtain ⟨htimers, hrecalculation, hsetup⟩ := h.absent hmode
    exact AlarmTimerManager.clearTimerByUserId_of_none htimers hrecalculation hsetup
  have hschedule (hmode : state.settingMode.isSchedule = true)
      (hvalid : state.settingMode ≠ .invalid) :
      scheduleTimers env context m state.scheduleTime = m := by
    obtain ⟨htimers, hrecalculation, hsetup⟩ := h.absent hvalid
    unfold scheduleTimers
    dsimp only
    rw [if_neg]
    · exact AlarmTimerManager.clearTimerByUserId_setScheduleTime htimers hrecalculation hsetup
        (h.unarmed hmode)
    · rw [AlarmTimerManager.setScheduleTime_ok_iff]
      rintro ⟨haccepted, hstart, hfinish⟩
      rcases (h.unarmed hmode haccepted).1 with hmissing | hmissing
      · exact Bool.false_ne_true (hmissing.symm.trans hstart)
      · exact Bool.false_ne_true (hmissing.symm.trans hfinish)
  have hallDay (hvalid : state.settingMode ≠ .invalid) :
      (m.clearRecalculationTimer env context.buildTimerKey).clearTimerByUserId env
        context.buildTimerKey = m := by
    rw [AlarmTimerManager.clearRecalculationTimer_of_none (h.absent hvalid).2.1]
    exact hclear hvalid
  unfold timersFor
  dsimp only
  cases hmode : state.settingMode with
  | invalid => rfl
  | alwaysLight => exact hallDay (by rw [hmode]; decide)
  | alwaysDark => exact hallDay (by rw [hmode]; decide)
  | customAuto => exact hschedule (by rw [hmode]; rfl) (by rw [hmode]; decide)
  | sunriseSunset => exact hschedule (by rw [hmode]; rfl) (by rw [hmode]; decide)

theorem alarmTimerManager_accountContextSwitchFunc
    (hrejected : (s.onSwitchContext env context).1 = s.openSettings env)
    (h : TimersIdle env s.alarmTimerManager context.buildTimerKey
      ((s.openSettings env).storedState env context)) :
    (s.accountContextSwitchFunc env context).alarmTimerManager = s.alarmTimerManager := by
  change (s.accountContextSwitchFunc env context).beyondAbility.alarmTimerManager = _
  rw [beyondAbility_switched]
  change (s.switchLoaded env context).alarmTimerManager = _
  unfold switchLoaded
  have hidle : timersFor env context (s.openSettings env).alarmTimerManager
      ((s.openSettings env).storedState env context) = s.alarmTimerManager := timersFor_of_idle h
  rw [alarmTimerManager_loadUserSettingData, hrejected, loadState_snd]
  dsimp only
  rw [hidle]
  split_ifs with hsun
  · obtain ⟨hmissing, hdispose⟩ := h.recalculation hsun
    exact AlarmTimerManager.setRecalculationTimer_of_disposable hmissing hdispose
  · rfl

/-- An override that is over stays in the parameters only if it cannot be ended there. -/
theorem parameters_loadedOverride_of_ended
    (h : (s.persistedInfo context).isTemporary = true →
      (s.persistedInfo context).effective env.clock = false →
        env.setParameter (temporaryColorModeAssignUser context) normalString = false) :
    (s.loadedOverride env context).parameters = s.parameters := by
  funext key
  by_cases hkey : key = temporaryColorModeAssignUser context
  · subst hkey
    rw [parameters_loadedOverride_flag, if_neg]
    intro hwritten
    simp only [Bool.and_eq_true, Bool.not_eq_true'] at hwritten
    rw [h hwritten.1.1 hwritten.1.2] at hwritten
    exact Bool.false_ne_true hwritten.2
  · exact parameters_loadedOverride_of_ne env s context hkey

end Load

section Configuration

/-- Writing what is there already, or cannot be written, changes nothing. -/
theorem setParameterWrap_of_kept {paramName value : String}
    (h : env.setParameter paramName value = true → s.parameters paramName = some value) :
    s.setParameterWrap env paramName value = s := by
  unfold setParameterWrap
  split_ifs with hwrite
  · rw [Table.put_of_some (h hwrite)]
  · rfl

theorem parameters_updateCurrentUserConfiguration_of_kept (isForceUpdate : Bool)
    (h : env.appManager = true → ∀ item : AppearanceItem,
      env.setParameter item.globalParam (item.valueOf (s.paramOf env context)) = true →
        s.parameters item.globalParam = some (item.valueOf (s.paramOf env context))) :
    (s.updateCurrentUserConfiguration env context isForceUpdate).parameters = s.parameters := by
  have hkept (s' : Service) (hsame : s'.parameters = s.parameters)
      (hmanager : env.appManager = true) :
      ((s'.setParameterWrap env persistDarkmodeKey (colorName
        ((s.paramOf env context).darkMode = .alwaysDark))).setParameterWrap env fontScaleForUser0
        (s.paramOf env context).fontScale).setParameterWrap env fontWeightScaleForUser0
        (s.paramOf env context).fontWeightScale = s' := by
    rw [← hsame] at h
    have hcolor := setParameterWrap_of_kept (h hmanager .darkMode)
    have hsize := setParameterWrap_of_kept (h hmanager .fontScale)
    have hweight := setParameterWrap_of_kept (h hmanager .fontWeightScale)
    dsimp only [AppearanceItem.globalParam, AppearanceItem.valueOf] at hcolor hsize hweight
    rw [hcolor, hsize, hweight]
  unfold updateCurrentUserConfiguration
  dsimp only
  cases hmanager : env.appManager with
  | false => rfl
  | true =>
    rw [Bool.not_true, if_neg Bool.false_ne_true, hkept _ _ hmanager]
    · split_ifs <;> rfl
    · split_ifs <;> rfl

end Configuration

section Switch

/-- A schedule that cannot be armed leaves the colours to the two all-day modes. -/
theorem settledColor_of_settled (h : Settled env w context) {isDarkMode : Bool}
    (hcolor : w.service.settledColor env context = some isDarkMode) :
    ((w.service.openSettings env).storedState env context).settingMode = .ofColor isDarkMode ∧
      (w.service.persistedInfo context).effective env.clock = false := by
  unfold settledColor at hcolor
  rw [switchState_eq, Core.isTemporary_loadedRecord] at hcolor
  split_ifs at hcolor with hdemanded
  obtain ⟨hactionable, hended⟩ := (Bool.and_eq_true ..).mp hdemanded
  rw [← Option.some.inj hcolor]
  refine ⟨DarkModeState.allDay_of_actionable hactionable fun hmode => ?_,
    (Bool.not_eq_true' _).mp hended⟩
  exact or_iff_not_imp_left.mpr fun haccepted =>
    (h.timers.unarmed hmode (Bool.not_eq_false _ ▸ haccepted)).1

variable (h : Settled env w context) (hentry : w.service.usersParam context = some param)
  (hcolor : ∀ isDarkMode, ((w.service.openSettings env).storedState env context).settingMode =
    .ofColor isDarkMode → (w.service.persistedInfo context).effective env.clock = false →
      param.darkMode = .ofColor isDarkMode)

include h hentry hcolor

/-- The switch finds the entry as it leaves it, and forces no update. -/
theorem switched_of_settled : w.service.switchedParam env context = param ∧
    w.service.switchForced env context = context.isSubProfileContext := by
  have hparam : (w.service.switchPrepared env context).paramOf env context = param := by
    rw [paramOf_switchPrepared h.initialised]
    exact Table.valueAt_of_some hentry
  unfold switchedParam switchForced
  rw [hparam]
  cases hsettled : w.service.settledColor env context with
  | none => exact ⟨rfl, Bool.false_or _⟩
  | some isDarkMode =>
    obtain ⟨hmode, hended⟩ := settledColor_of_settled h hsettled
    have hsame := hcolor isDarkMode hmode hended
    dsimp only
    rw [← hsame, decide_eq_false (not_not_intro rfl), Bool.false_or]
    exact ⟨rfl, rfl⟩

theorem parameters_switch_of_settled (htold : env.appManager = true → Told env w context param) :
    (w.service.accountContextSwitchFunc env context).parameters = w.service.parameters := by
  have hloaded : (w.service.switchAdopted env context).parameters = w.service.parameters := by
    have hneed : (w.service.switchLoaded env context).isNeedDoCompatibleProcess = false :=
      (congrArg Appearance.isNeedDoCompatibleProcess
        (appearance_switchLoaded env w.service context)).trans h.migrated
    rw [parameters_switchAdopted, switchPrepared_eq h.initialised, hneed,
      if_neg Bool.false_ne_true, parameters_switchLoaded, parameters_loadedOverride_of_ended h.ended]
  obtain ⟨hparam, -⟩ := switched_of_settled h hentry hcolor
  rw [accountContextSwitchFunc_eq, parameters_updateCurrentUserConfiguration_of_kept, hloaded]
  intro hmanager
  rw [paramOf_switchAdopted, hparam, hloaded]
  exact (htold hmanager).parameters

/-- At most the configuration on show is sent, to the user it is shown to. -/
theorem shown_switch_of_settled (htold : env.appManager = true → Told env w context param) :
    (sent w.service (w.service.accountContextSwitchFunc env context)).foldr update w.shown =
      w.shown := by
  obtain ⟨hparam, hforced⟩ := switched_of_settled h hentry hcolor
  have hsent := configurations_accountContextSwitchFunc_eq env w.service context
  rw [hparam, hforced] at hsent
  rw [sent_eq hsent]
  split_ifs with htaken
  · obtain ⟨hmanager, hupdate⟩ := (Bool.and_eq_true ..).mp htaken
    have hshown := (htold hmanager).shown hupdate
    funext userId
    change (if userId ∈ [_] then (Configuration.ofParam param).merge _ else _) = _
    split_ifs with huser
    · rw [List.mem_singleton.mp huser, hshown]
      rfl
    · rfl
  · rfl

end Switch

/-- One switch: every store is written, and with what it holds. -/
theorem unaffected_of_settled {e : Env × Event} (hrejected : Rejected w.service e context)
    (h : Settled e.1 w context) : Unaffected w (next w e) := by
  obtain ⟨userId, hevent, hcontext⟩ := hrejected.switched
  have hstep : w.service.step e = w.service.accountContextSwitchFunc e.1 context := by
    obtain ⟨env, event⟩ := e
    dsimp only at hevent hcontext
    rw [hevent, hcontext]
    rfl
  have hshown : (next w e).shown = (sent w.service (w.service.step e)).foldr update w.shown := by
    unfold next
    rw [hevent]
  have hrefused := congrArg Prod.fst (onSwitchContext_of_rejected hrejected)
  obtain ⟨param, hentry, hcolor, htold⟩ := h.entry
  constructor
  · change (w.service.step e).usersParam = _
    rw [hstep, usersParam_accountContextSwitchFunc, usersParam_switchPrepared h.initialised,
      (switched_of_settled h hentry hcolor).1, Table.put_of_some hentry]
  · change (w.service.step e).darkModeStates = _
    rw [hstep, darkModeStates_accountContextSwitchFunc, switchState_eq, Table.put_of_some h.state]
  · change (w.service.step e).multiUserTempColorModeMap = _
    rw [hstep, multiUserTempColorModeMap_accountContextSwitchFunc, Table.put_of_some h.record]
  · change pendingOperate (w.service.step e).screenSwitchOperatorMgr = _
    rw [hstep, screenSwitchOperatorMgr_accountContextSwitchFunc]
    unfold pendingOperate
    rw [h.pending]
    rfl
  · change (w.service.step e).alarmTimerManager = _
    rw [hstep, alarmTimerManager_accountContextSwitchFunc hrefused h.timers]
  · change (w.service.step e).parameters = _
    rw [hstep, parameters_switch_of_settled h hentry hcolor htold]
  · rw [hshown, hstep, shown_switch_of_settled h hentry hcolor htold]

/-- In a run whose rejected switches all find everything in place, none of them matters. -/
theorem rejectedSwitch_unaffected {run : Run}
    (h : Along next (fun w e => ∀ context, Rejected w.service e context → Settled e.1 w context)
      w run) :
    Along next (fun w e => ∀ context, Rejected w.service e context → Unaffected w (next w e))
      w run :=
  along_mono (fun _ _ hsettled context hrejected =>
    unaffected_of_settled hrejected (hsettled context hrejected)) h

def nobody : AccountContext := .createBaseContext invalidUserId

def invalidSwitch : Env × Event := (noon, .userSwitched invalidUserId)

/-- A fresh service that has loaded its account. -/
def begun : World :=
  exec next ⟨start Table.empty fun _ => Table.empty, fun _ => {}⟩ [(noon, .onAddSystemAbility)]

theorem rejected_begun : Rejected begun.service invalidSwitch nobody :=
  ⟨⟨_, rfl, rfl⟩, rfl, Int.le_refl _⟩

/-- The first of such switches makes an appearance and a state for nobody, and shows it. -/
theorem firstSwitch_affected :
    Rejected begun.service invalidSwitch nobody ∧
      begun.service.usersParam nobody = none ∧
      (next begun invalidSwitch).service.usersParam nobody = some {} ∧
      begun.service.darkModeStates nobody = none ∧
      (next begun invalidSwitch).service.darkModeStates nobody = some {} ∧
      begun.shown invalidUserId = {} ∧
      (next begun invalidSwitch).shown invalidUserId = .ofParam {} ∧
      ¬Unaffected begun (next begun invalidSwitch) := by
  have hbefore : begun.service.usersParam nobody = none := by decide +kernel
  have hafter : (next begun invalidSwitch).service.usersParam nobody = some {} := by decide +kernel
  refine ⟨rejected_begun, hbefore, hafter, by decide +kernel, by decide +kernel,
    by decide +kernel, by decide +kernel, fun h => ?_⟩
  rw [h.usersParam, hbefore] at hafter
  cases hafter

/-- Two switches later user 0 has been told as well, and everything is in place. -/
def repeated : World := exec next begun [invalidSwitch, invalidSwitch]

theorem repeatedSwitch_unaffected :
    Along next (fun w e => ∀ context, Rejected w.service e context → Unaffected w (next w e))
      repeated [invalidSwitch] ∧ Rejected repeated.service invalidSwitch nobody := by
  refine ⟨rejectedSwitch_unaffected ⟨?_, trivial⟩, ⟨_, rfl, rfl⟩, rfl, Int.le_refl _⟩
  intro context hrejected
  obtain ⟨userId, huser, hcontext⟩ := hrejected.switched
  obtain rfl : invalidUserId = userId := Event.userSwitched.inj huser
  obtain rfl : context = nobody := hcontext
  exact
    { migrated := by decide +kernel
      initialised := by decide +kernel
      state := by decide +kernel
      record := by decide +kernel
      ended := by decide +kernel
      pending := by decide +kernel
      timers := ⟨by decide +kernel, by decide +kernel, by decide +kernel⟩
      entry := by
        refine ⟨{}, by decide +kernel, ?_, fun _ => ⟨?_, ?_⟩⟩
        · intro isDarkMode
          cases isDarkMode <;> decide +kernel
        · intro item
          cases item <;> decide +kernel
        · decide +kernel }

end InvalidSwitch
end UiAppearance
