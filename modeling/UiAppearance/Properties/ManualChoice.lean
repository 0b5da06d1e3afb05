import UiAppearance.Ability.ChoiceSteps
import UiAppearance.Ability.Setters

/-!
# The last manual choice

`SetDarkMode` changes the colour in memory at once and the stored mode only
when the mode in memory says that this is necessary. That mode is refreshed by
a notification later on. A second choice made before then is compared with the
mode of before the first one, and is not stored although it differs from what
is stored by now.
-/

namespace UiAppearance
namespace ManualChoice

open Transition Service Scenario

/-- Calls of `SetDarkMode` come one after the other; `succeeded` is the mode of the last one
that returned `SUCCEEDED`. -/
structure Board where
  service : Service
  call : ChoicePhase
  succeeded : Option DarkMode

inductive Event where
  | setDarkMode (mode : ℤ)
  | proceed
  | deliver (n : ℕ)
  deriving DecidableEq

/-- The mode of a call that is about to ask whether it has to be stored. -/
def notifies : ChoicePhase → Option DarkMode
  | .notifyDarkModeUpdate mode _ _ => some mode
  | _ => none

/-- The mode of a call that has changed the colour in memory and has not yet returned. -/
def assigned : ChoicePhase → Option DarkMode
  | .setParameter mode _ _ => some mode
  | .notifyDarkModeUpdate mode _ _ => some mode
  | _ => none

def isReturned : ChoicePhase → Bool
  | .returned _ => true
  | _ => false

/-- A call begins when the one before has returned. -/
def next (b : Board) (e : Env × Event) : Board :=
  match e.2 with
  | .setDarkMode mode => if isReturned b.call then { b with call := .compare mode } else b
  | .proceed =>
    let r := b.service.choiceStep e.1 b.call
    { service := r.1
      call := r.2
      succeeded := if r.2 = .returned .succeeded then (notifies b.call).or b.succeeded
        else b.succeeded }
  | .deliver n => { b with service := b.service.deliver e.1 n }

def start (s : Service) : Board := ⟨s, .returned .succeeded, none⟩

/-- What the observer of the mode makes of a row. -/
def rowMode : Option String → DarkModeMode
  | none => .invalid
  | some text =>
    match fromChars text with
    | none => .invalid
    | some value => if toString value = text then .ofInt value else .invalid

def storedMode (s : Service) (context : AccountContext) : DarkModeMode :=
  rowMode (s.settingDataManager.tables context.userId (modeKey context))

def memoryMode (s : Service) (context : AccountContext) : DarkModeMode :=
  (s.stateOf context).settingMode

def memoryColor (s : Service) (context : AccountContext) : Option DarkMode :=
  (s.usersParam context).map (·.darkMode)

def modeOf (mode : DarkMode) : DarkModeMode := .ofColor (mode = .alwaysDark)

def modeObserver (context : AccountContext) : SettingDataObserver DarkModeObserver :=
  ⟨modeKey context, context.userId, ⟨.mode, context⟩⟩

/-- The caller belongs to the context, there is one effective user at most, and every call that
leaves the service succeeds. -/
structure Healthy (context : AccountContext) (env : Env) : Prop where
  caller : getCallingAccountContext env = context
  oneUser : env.foregroundOsAccounts.length ≤ 1
  appManager : env.appManager = true
  updateConfiguration : ∀ userIds, env.updateConfiguration userIds = true
  setParameter : ∀ paramName value, env.setParameter paramName value = true
  createHelper : env.createHelper context.userId = true
  query : env.query context.userId (modeKey context) = .rows
  insert : ∀ value, env.insert context.userId (modeKey context) value = true

/-- What memory, settings and notifications of a context have to do with each other. -/
structure Consistent (context : AccountContext) (s : Service) : Prop where
  callback : s.hasUpdateCallback = true
  initialized : s.settingDataManager.isInitialized = true
  observed : (s.settingDataManager.registered.filter fun observer =>
    createUri observer.userId observer.key = createUri context.userId (modeKey context)) =
      [modeObserver context]
  inFlight : ∀ observer ∈ s.settingDataManager.inFlight, observer = modeObserver context
  memory : (memoryMode s context).isSchedule = false
  agree : s.settingDataManager.inFlight = [] → memoryMode s context = storedMode s context
  stored : s.settingDataManager.inFlight ≠ [] →
    ∃ isDarkMode, storedMode s context = .ofColor isDarkMode

/-- A call that finds its mode in memory finds it in the settings as well. -/
def Informed (context : AccountContext) (b : Board) (e : Env × Event) : Prop :=
  e.2 = .proceed → ∀ mode ∈ notifies b.call,
    memoryMode b.service context = modeOf mode → storedMode b.service context = modeOf mode

instance (context : AccountContext) (b : Board) (e : Env × Event) :
    Decidable (Informed context b e) :=
  inferInstanceAs (Decidable (_ → ∀ mode ∈ notifies b.call, _ → _))

section Service

variable {context : AccountContext} {env : Env} {s s' : Service}

theorem Healthy.foreground (hh : Healthy context env) :
    AccountContext.getForegroundContext env context.userId = context := by
  have huser : context.userId = getCallingUserId env := by
    rw [← hh.caller]
    exact AccountContext.getForegroundContext_userId ..
  rw [huser]
  exact hh.caller

theorem Healthy.sent (hh : Healthy context env) (config : Configuration) (userId : ℤ) :
    (s.updateConfiguration env config userId (getMultipleUsers env)).2 = true := by
  simp [Service.updateConfiguration, hh.appManager, hh.updateConfiguration]

theorem Healthy.affected (hh : Healthy context env) : affectedContexts env context = [context] :=
  if_neg (Nat.not_lt.mpr hh.oneUser)

theorem Healthy.hasHelper (hh : Healthy context env)
    (hinit : s.settingDataManager.isInitialized = true) :
    s.settingDataManager.hasHelper env context.userId = true := by
  simp [SettingDataManager.hasHelper, hinit, hh.createHelper]

theorem Consistent.of_same (h : Consistent context s)
    (hsettings : s'.settingDataManager = s.settingDataManager)
    (hstate : s'.stateOf context = s.stateOf context)
    (hcallback : s'.hasUpdateCallback = s.hasUpdateCallback) : Consistent context s' := by
  have hmemory : memoryMode s' context = memoryMode s context := by
    unfold memoryMode
    rw [hstate]
  have hstored : storedMode s' context = storedMode s context := by
    unfold storedMode
    rw [hsettings]
  refine ⟨hcallback.trans h.callback, ?_, ?_, ?_, ?_, ?_, ?_⟩
  · rw [hsettings]
    exact h.initialized
  · rw [hsettings]
    exact h.observed
  · rw [hsettings]
    exact h.inFlight
  · rw [hmemory]
    exact h.memory
  · rw [hsettings, hmemory, hstored]
    exact h.agree
  · rw [hsettings, hstored]
    exact h.stored

/-- An all-day mode is stored, and memory shows it as soon as no notification is in flight. -/
theorem Consistent.of_stored (h : Consistent context s)
    (hcallback : s'.hasUpdateCallback = s.hasUpdateCallback)
    (hinitialized : s'.settingDataManager.isInitialized = s.settingDataManager.isInitialized)
    (hregistered : s'.settingDataManager.registered = s.settingDataManager.registered)
    (hinFlight : ∀ observer ∈ s'.settingDataManager.inFlight, observer = modeObserver context)
    (hmemory : (memoryMode s' context).isSchedule = false) {isDarkMode : Bool}
    (hstored : storedMode s' context = .ofColor isDarkMode)
    (hagree : s'.settingDataManager.inFlight = [] → memoryMode s' context = .ofColor isDarkMode) :
    Consistent context s' := by
  refine ⟨hcallback.trans h.callback, hinitialized.trans h.initialized, ?_, hinFlight, hmemory,
    ?_, ?_⟩
  · rw [hregistered]
    exact h.observed
  · intro hnone
    rw [hstored]
    exact hagree hnone
  · intro _
    exact ⟨isDarkMode, hstored⟩

/-- The observer reads the stored mode. -/
theorem ofInt_settingValue (hh : Healthy context env)
    (hinit : s.settingDataManager.isInitialized = true) :
    DarkModeMode.ofInt (s.settingValue env (modeKey context) context DarkModeMode.invalid.toInt) =
      storedMode s context := by
  unfold settingValue SettingDataManager.getInt32ValueStrictly SettingDataManager.getStringValue
    storedMode rowMode
  rw [hh.hasHelper hinit, hh.query, if_pos rfl]
  cases s.settingDataManager.tables context.userId (modeKey context) with
  | none => rfl
  | some text =>
    dsimp only
    cases fromChars text with
    | none => rfl
    | some value =>
      by_cases hcanonical : toString value = text
      · simp only [if_pos hcanonical]
      · simp only [if_neg hcanonical]
        rfl

/-- A colour that reaches the update callback is the colour in memory afterwards. -/
theorem memoryColor_onChangeDarkMode (hh : Healthy context env)
    (hcallback : s.hasUpdateCallback = true) (mode : DarkModeMode) :
    memoryColor (s.onChangeDarkMode env mode context) context =
      some (.ofColor (mode = .alwaysDark)) := by
  have hupdate (s : Service) (isDarkMode : Bool) :
      memoryColor (s.updateDarkModeCallback env isDarkMode context.userId) context =
        some (.ofColor isDarkMode) := by
    have hone : ¬1 < (getMultipleUsers env).length := Nat.not_lt.mpr hh.oneUser
    unfold updateDarkModeCallback
    dsimp only
    rw [hh.sent, if_neg (by decide), if_neg hone, hh.foreground]
    simp [memoryColor, configurePersistenceOfCallback, setDarkModeOf]
  unfold onChangeDarkMode
  rw [hcallback, if_neg (by decide)]
  dsimp only
  split_ifs
  · unfold memoryColor
    rw [usersParam_of_appearance (appearance_setColorModeNormal ..)]
    exact hupdate _ _
  · exact hupdate _ _

theorem rowMode_choiceText (isDarkMode : Bool) :
    rowMode (some (choiceText isDarkMode)) = .ofColor isDarkMode := by
  cases isDarkMode <;> decide

/-- A choice that differs from the mode in memory is stored, and the observer will hear of it. -/
theorem notifyDarkModeUpdate_of_ne (hh : Healthy context env) (h : Consistent context s)
    {isDarkMode : Bool} (hne : memoryMode s context ≠ .ofColor isDarkMode) :
    Consistent context (s.notifyDarkModeUpdate env context isDarkMode) ∧
      storedMode (s.notifyDarkModeUpdate env context isDarkMode) context = .ofColor isDarkMode ∧
      (s.notifyDarkModeUpdate env context isDarkMode).settingDataManager.inFlight ≠ [] := by
  have hguard : (s.stateOf context).settingMode = .ofColor (!isDarkMode) ∨
      (s.stateOf context).settingMode = .invalid := by
    have hmemory := h.memory
    unfold memoryMode at hmemory hne
    cases isDarkMode <;> cases hmode : (s.stateOf context).settingMode <;> rw [hmode] at hmemory hne
      <;> first | exact .inl rfl | exact .inr rfl | exact absurd rfl hne | cases hmemory
  have hsettings : (s.notifyDarkModeUpdate env context isDarkMode).settingDataManager =
      (s.settingDataManager.putRow context.userId (modeKey context)
        (choiceText isDarkMode)).notifyChange context.userId (modeKey context) := by
    rw [notifyDarkModeUpdate_eq, if_pos hguard]
    exact congrArg Prod.fst
      (SettingDataManager.setStringValue_ok (hh.hasHelper h.initialized) (hh.insert _))
  have hinFlight : (s.notifyDarkModeUpdate env context isDarkMode).settingDataManager.inFlight =
      s.settingDataManager.inFlight ++ [modeObserver context] := by
    rw [hsettings, ← h.observed]
    rfl
  have hsome : (s.notifyDarkModeUpdate env context isDarkMode).settingDataManager.inFlight ≠ [] := by
    rw [hinFlight]
    simp
  have hstored : storedMode (s.notifyDarkModeUpdate env context isDarkMode) context =
      .ofColor isDarkMode := by
    unfold storedMode
    rw [hsettings, SettingDataManager.notifyChange_tables, SettingDataManager.putRow_tables_self]
    exact rowMode_choiceText isDarkMode
  have hstate : memoryMode (s.notifyDarkModeUpdate env context isDarkMode) context =
      memoryMode s context := by
    unfold memoryMode
    rw [stateOf_notifyDarkModeUpdate]
  have hcallback : (s.notifyDarkModeUpdate env context isDarkMode).core.hasUpdateCallback =
      s.core.hasUpdateCallback := by
    rw [core_notifyDarkModeUpdate]
  refine ⟨h.of_stored hcallback ?_ ?_ ?_ ?_ hstored ?_, hstored, hsome⟩
  · rw [hsettings]
    rfl
  · rw [hsettings]
    rfl
  · intro observer hmem
    rw [hinFlight] at hmem
    rcases List.mem_append.mp hmem with hold | hnew
    · exact h.inFlight observer hold
    · exact List.mem_singleton.mp hnew
  · rw [hstate]
    exact h.memory
  · intro hnone
    exact absurd hnone hsome

/-- A choice that is the mode in memory changes nothing. -/
theorem notifyDarkModeUpdate_of_eq {isDarkMode : Bool}
    (heq : memoryMode s context = .ofColor isDarkMode) :
    s.notifyDarkModeUpdate env context isDarkMode = s.touchState context := by
  rw [notifyDarkModeUpdate_eq]
  apply if_neg
  have hmode : (s.stateOf context).settingMode = .ofColor isDarkMode := heq
  rw [hmode]
  cases isDarkMode <;> decide

theorem memoryMode_settingDataDarkModeModeLocked (value : ℤ) :
    memoryMode (s.settingDataDarkModeModeLocked env value context) context = .ofInt value := by
  unfold memoryMode settingDataDarkModeModeLocked
  rw [stateOf_onStateChangeLocked, stateOf_setState_self]

theorem hasUpdateCallback_settingDataDarkModeModeLocked (value : ℤ) :
    (s.settingDataDarkModeModeLocked env value context).core.hasUpdateCallback =
      s.core.hasUpdateCallback := by
  unfold settingDataDarkModeModeLocked
  rw [core_onStateChangeLocked, Core.hasUpdateCallback_react, core_setState]
  rfl

/-- The locked step of the observer applies an all-day mode. -/
theorem memoryColor_settingDataDarkModeModeLocked (hh : Healthy context env)
    (hcallback : s.hasUpdateCallback = true) {value : ℤ} {isDarkMode : Bool}
    (hvalue : DarkModeMode.ofInt value = .ofColor isDarkMode) :
    memoryColor (s.settingDataDarkModeModeLocked env value context) context =
      some (.ofColor isDarkMode) := by
  unfold settingDataDarkModeModeLocked onStateChangeLocked
  dsimp only
  rw [stateOf_setState_self, hvalue]
  cases isDarkMode with
  | false =>
    change memoryColor (onChangeDarkMode env (resetScreenOffOperateInfo _) .alwaysLight context) _ = _
    apply memoryColor_onChangeDarkMode hh
    exact hcallback
  | true =>
    change memoryColor (onChangeDarkMode env (resetScreenOffOperateInfo _) .alwaysDark context) _ = _
    apply memoryColor_onChangeDarkMode hh
    exact hcallback

/-- A delivered notification brings memory in line with the settings. -/
theorem deliver_some (hh : Healthy context env) (h : Consistent context s) {n : ℕ}
    {observer : SettingDataObserver DarkModeObserver}
    (hn : s.settingDataManager.inFlight[n]? = some observer) :
    ∃ isDarkMode, storedMode s context = .ofColor isDarkMode ∧
      Consistent context (s.deliver env n) ∧
      storedMode (s.deliver env n) context = .ofColor isDarkMode ∧
      memoryColor (s.deliver env n) context = some (.ofColor isDarkMode) := by
  obtain rfl := h.inFlight observer (List.mem_of_getElem? hn)
  obtain ⟨isDarkMode, hstored⟩ := h.stored (List.ne_nil_of_mem (List.mem_of_getElem? hn))
  have hvalue : DarkModeMode.ofInt ((s.takeNotification n).settingValue env (modeKey context)
      context DarkModeMode.invalid.toInt) = .ofColor isDarkMode :=
    (ofInt_settingValue hh h.initialized).trans hstored
  have hdeliver : s.deliver env n =
      (s.takeNotification n).settingDataDarkModeModeUpdateFunc env (modeKey context) context := by
    unfold deliver
    rw [hn]
    rfl
  rw [hdeliver]
  unfold settingDataDarkModeModeUpdateFunc
  dsimp only
  generalize (s.takeNotification n).settingValue env (modeKey context) context
    DarkModeMode.invalid.toInt = value at hvalue ⊢
  have hsun : DarkModeMode.ofInt value ≠ .sunriseSunset := by
    rw [hvalue]
    cases isDarkMode <;> decide
  rw [if_neg hsun]
  have hsettings : ((s.takeNotification n).settingDataDarkModeModeLocked env value
      context).settingDataManager = (s.takeNotification n).settingDataManager :=
    settingDataManager_onStateChangeLocked ..
  have hmemory : memoryMode ((s.takeNotification n).settingDataDarkModeModeLocked env value
      context) context = .ofColor isDarkMode := by
    rw [memoryMode_settingDataDarkModeModeLocked, hvalue]
  have hstored' : storedMode ((s.takeNotification n).settingDataDarkModeModeLocked env value
      context) context = .ofColor isDarkMode := by
    unfold storedMode
    rw [hsettings]
    exact hstored
  have hlocked : Consistent context ((s.takeNotification n).settingDataDarkModeModeLocked env value
      context) := by
    refine h.of_stored (hasUpdateCallback_settingDataDarkModeModeLocked value) ?_ ?_ ?_ ?_ hstored'
      fun _ => hmemory
    · rw [hsettings]
      rfl
    · rw [hsettings]
      rfl
    · intro observer hmem
      rw [hsettings] at hmem
      exact h.inFlight observer (List.mem_of_mem_eraseIdx hmem)
    · rw [hmemory]
      cases isDarkMode <;> rfl
  exact ⟨isDarkMode, hstored, hlocked.of_same rfl rfl rfl, hstored',
    memoryColor_settingDataDarkModeModeLocked (s := s.takeNotification n) hh h.callback hvalue⟩

end Service

/-- A call with the only context and with a colour. -/
def Concerns (context : AccountContext) : ChoicePhase → Prop
  | .compare _ => True
  | .updateConfiguration mode context' => context' = context ∧ mode ≠ .unknown
  | .doSwitchTemporaryColorMode mode context' rest =>
    context' = context ∧ rest = [] ∧ mode ≠ .unknown
  | .assignDarkMode mode context' rest => context' = context ∧ rest = [] ∧ mode ≠ .unknown
  | .setParameter mode context' rest => context' = context ∧ rest = [] ∧ mode ≠ .unknown
  | .notifyDarkModeUpdate mode context' rest => context' = context ∧ rest = [] ∧ mode ≠ .unknown
  | .returned _ => True

/-- What holds between any two steps. The last successful choice is the stored one. It is the
colour in memory too unless a notification or a running call has yet to set that colour. -/
structure Safe (context : AccountContext) (b : Board) : Prop where
  service : Consistent context b.service
  call : Concerns context b.call
  chosen : ∀ mode ∈ b.succeeded, mode ≠ .unknown ∧ storedMode b.service context = modeOf mode ∧
    (memoryColor b.service context = some mode ∨ b.service.settingDataManager.inFlight ≠ [] ∨
      (assigned b.call).isSome = true)
  assigned : ∀ mode ∈ assigned b.call, memoryColor b.service context = some mode ∨
    ∃ isDarkMode, storedMode b.service context = .ofColor isDarkMode ∧
      memoryColor b.service context = some (.ofColor isDarkMode)

section Steps

variable {context : AccountContext} {env : Env} {s s' : Service} {call call' : ChoicePhase}
  {succeeded : Option DarkMode}

theorem ofColor_of_modeOf {mode : DarkMode} {isDarkMode : Bool} (hmode : mode ≠ .unknown)
    (h : modeOf mode = .ofColor isDarkMode) : DarkMode.ofColor isDarkMode = mode := by
  cases mode <;> cases isDarkMode <;> first | rfl | exact absurd rfl hmode | cases h

/-- A step outside the data of the choice. -/
theorem Safe.of_same (h : Safe context ⟨s, call, succeeded⟩)
    (hsettings : s'.settingDataManager = s.settingDataManager)
    (hstate : s'.stateOf context = s.stateOf context)
    (hcallback : s'.hasUpdateCallback = s.hasUpdateCallback)
    (hparam : s'.usersParam = s.usersParam) (hcall : Concerns context call')
    (hassigned : ManualChoice.assigned call' = ManualChoice.assigned call) :
    Safe context ⟨s', call', succeeded⟩ := by
  have hstored : storedMode s' context = storedMode s context := by
    unfold storedMode
    rw [hsettings]
  have hcolor : memoryColor s' context = memoryColor s context := by
    unfold memoryColor
    rw [hparam]
  refine ⟨h.service.of_same hsettings hstate hcallback, hcall, ?_, ?_⟩
  · rw [hstored, hcolor, hsettings, hassigned]
    exact h.chosen
  · rw [hstored, hcolor, hassigned]
    exact h.assigned

theorem next_proceed (hnotifies : notifies call = none) :
    next ⟨s, call, succeeded⟩ (env, .proceed) =
      ⟨(s.choiceStep env call).1, (s.choiceStep env call).2, succeeded⟩ := by
  simp [next, hnotifies]

theorem safe_compare {mode : ℤ} (h : Safe context ⟨s, .compare mode, succeeded⟩)
    (hh : Healthy context env) :
    Safe context (next ⟨s, .compare mode, succeeded⟩ (env, .proceed)) := by
  rw [next_proceed rfl]
  unfold choiceStep
  dsimp only
  split_ifs with hgranted hsame hunknown
  · exact h.of_same rfl rfl rfl rfl trivial rfl
  · exact h.of_same rfl rfl rfl rfl trivial rfl
  · exact h.of_same rfl rfl rfl rfl trivial rfl
  · exact h.of_same rfl rfl rfl rfl ⟨hh.caller, hunknown⟩ rfl

theorem safe_updateConfiguration {mode : DarkMode} {context' : AccountContext}
    (h : Safe context ⟨s, .updateConfiguration mode context', succeeded⟩)
    (hh : Healthy context env) :
    Safe context (next ⟨s, .updateConfiguration mode context', succeeded⟩ (env, .proceed)) := by
  obtain ⟨rfl, hmode⟩ := h.call
  rw [next_proceed rfl]
  unfold choiceStep
  dsimp only
  rw [hh.sent, if_neg (by decide), hh.affected]
  have hframe : ((s.updateConfiguration env
      { colorMode := some (colorName (mode = .alwaysDark)) } context'.userId
      (getMultipleUsers env)).1.setParameterWrap env persistDarkmodeKey
      (colorName (mode = .alwaysDark))).beyondSchedule = s.beyondSchedule := by
    simp
  apply h.of_same
  · exact settingDataManager_of_frame hframe
  · exact stateOf_of_frame hframe context'
  · exact hasUpdateCallback_of_frame hframe
  · simp
  · exact ⟨rfl, rfl, hmode⟩
  · rfl

theorem safe_doSwitchTemporaryColorMode {mode : DarkMode} {context' : AccountContext}
    {rest : List AccountContext}
    (h : Safe context ⟨s, .doSwitchTemporaryColorMode mode context' rest, succeeded⟩) :
    Safe context
      (next ⟨s, .doSwitchTemporaryColorMode mode context' rest, succeeded⟩ (env, .proceed)) := by
  have hcore := core_doSwitchTemporaryColorMode env s context' (mode = .alwaysDark)
  rw [next_proceed rfl]
  apply h.of_same
  · exact settingDataManager_doSwitchTemporaryColorMode ..
  · have hstate := congrArg (fun k => k.stateOf context) hcore
    rw [Core.stateOf_choose] at hstate
    exact hstate
  · have hcallback := congrArg Core.hasUpdateCallback hcore
    rw [Core.hasUpdateCallback_choose] at hcallback
    exact hcallback
  · exact usersParam_of_appearance (appearance_doSwitchTemporaryColorMode ..)
  · exact h.call
  · rfl

/-- From here to the end of the call the colour in memory is the requested one, or one that a
notification brought in line with the settings in the meantime. -/
theorem safe_assignDarkMode {mode : DarkMode} {context' : AccountContext}
    {rest : List AccountContext}
    (h : Safe context ⟨s, .assignDarkMode mode context' rest, succeeded⟩) :
    Safe context (next ⟨s, .assignDarkMode mode context' rest, succeeded⟩ (env, .proceed)) := by
  obtain ⟨rfl, hrest, hmode⟩ := h.call
  rw [next_proceed rfl]
  refine ⟨h.service.of_same rfl rfl rfl, ⟨rfl, hrest, hmode⟩, ?_, ?_⟩
  · intro last hlast
    obtain ⟨hlastMode, hstored, -⟩ := h.chosen last hlast
    exact ⟨hlastMode, hstored, .inr (.inr rfl)⟩
  · rintro mode' ⟨⟩
    left
    simp [memoryColor, choiceStep, setDarkModeOf]

theorem safe_setParameter {mode : DarkMode} {context' : AccountContext}
    {rest : List AccountContext}
    (h : Safe context ⟨s, .setParameter mode context' rest, succeeded⟩) (hh : Healthy context env) :
    Safe context (next ⟨s, .setParameter mode context' rest, succeeded⟩ (env, .proceed)) := by
  rw [next_proceed rfl]
  unfold choiceStep
  dsimp only
  rw [hh.setParameter, if_neg (by decide)]
  have hframe := beyondSchedule_setParameterWrap env s (darkModeParamAssignUser context')
    (colorName (mode = .alwaysDark))
  apply h.of_same
  · exact settingDataManager_of_frame hframe
  · exact stateOf_of_frame hframe context
  · exact hasUpdateCallback_of_frame hframe
  · simp
  · exact h.call
  · rfl

/-- A choice is stored, or it is found in memory and then in the settings as well. -/
theorem safe_notifyDarkModeUpdate {mode : DarkMode} {context' : AccountContext}
    {rest : List AccountContext}
    (h : Safe context ⟨s, .notifyDarkModeUpdate mode context' rest, succeeded⟩)
    (hh : Healthy context env)
    (hok : Informed context ⟨s, .notifyDarkModeUpdate mode context' rest, succeeded⟩
      (env, .proceed)) :
    Safe context (next ⟨s, .notifyDarkModeUpdate mode context' rest, succeeded⟩
      (env, .proceed)) := by
  obtain ⟨rfl, rfl, hmode⟩ := h.call
  have hnext : next ⟨s, .notifyDarkModeUpdate mode context' [], succeeded⟩ (env, .proceed) =
      ⟨s.notifyDarkModeUpdate env context' (mode = .alwaysDark), .returned .succeeded,
        some mode⟩ := rfl
  rw [hnext]
  by_cases hsame : memoryMode s context' = modeOf mode
  · have hstored : storedMode s context' = modeOf mode := hok rfl mode rfl hsame
    rw [notifyDarkModeUpdate_of_eq hsame]
    refine ⟨h.service.of_same rfl (stateOf_touchState ..) rfl, trivial, ?_, nofun⟩
    rintro last ⟨⟩
    refine ⟨hmode, hstored, .inl ?_⟩
    rcases h.assigned mode rfl with hcolor | ⟨isDarkMode, hrow, hcolor⟩
    · exact hcolor
    · rw [← ofColor_of_modeOf hmode (hstored.symm.trans hrow)]
      exact hcolor
  · obtain ⟨hconsistent, hstored, hsome⟩ := notifyDarkModeUpdate_of_ne hh h.service hsame
    refine ⟨hconsistent, trivial, ?_, nofun⟩
    rintro last ⟨⟩
    exact ⟨hmode, hstored, .inr (.inl hsome)⟩

/-- A delivered notification brings the colour in memory in line with the stored choice. -/
theorem safe_deliver (h : Safe context ⟨s, call, succeeded⟩) (hh : Healthy context env) (n : ℕ) :
    Safe context ⟨s.deliver env n, call, succeeded⟩ := by
  cases hn : s.settingDataManager.inFlight[n]? with
  | none =>
    have hidle : s.deliver env n = s := by
      unfold deliver
      rw [hn]
    rw [hidle]
    exact h
  | some observer =>
    obtain ⟨isDarkMode, hrow, hconsistent, hstored, hcolor⟩ := deliver_some hh h.service hn
    refine ⟨hconsistent, h.call, ?_, fun _ _ => .inr ⟨isDarkMode, hstored, hcolor⟩⟩
    intro last hlast
    obtain ⟨hmode, hchosen, -⟩ := h.chosen last hlast
    have hsame : modeOf last = .ofColor isDarkMode := hchosen.symm.trans hrow
    refine ⟨hmode, hstored.trans hsame.symm, .inl ?_⟩
    rw [← ofColor_of_modeOf hmode hsame]
    exact hcolor

end Steps

theorem safe_next {context : AccountContext} (b : Board) (e : Env × Event)
    (h : Safe context b) (hok : Healthy context e.1 ∧ Informed context b e) :
    Safe context (next b e) := by
  obtain ⟨s, call, succeeded⟩ := b
  obtain ⟨env, event⟩ := e
  obtain ⟨hh, hinformed⟩ := hok
  cases event with
  | setDarkMode mode =>
    unfold next
    dsimp only
    split_ifs with hreturned
    · refine h.of_same rfl rfl rfl rfl trivial ?_
      cases call <;> first | rfl | cases hreturned
    · exact h
  | proceed =>
    cases call with
    | compare mode => exact safe_compare h hh
    | updateConfiguration mode context' => exact safe_updateConfiguration h hh
    | doSwitchTemporaryColorMode mode context' rest => exact safe_doSwitchTemporaryColorMode h
    | assignDarkMode mode context' rest => exact safe_assignDarkMode h
    | setParameter mode context' rest => exact safe_setParameter h hh
    | notifyDarkModeUpdate mode context' rest => exact safe_notifyDarkModeUpdate h hh hinformed
    | returned result =>
      rw [next_proceed rfl]
      exact h
  | deliver n => exact safe_deliver h hh n

/-- No notification is in flight and no call is running. -/
def Quiet (b : Board) : Prop :=
  b.service.settingDataManager.inFlight = [] ∧ isReturned b.call = true

instance (b : Board) : Decidable (Quiet b) := inferInstanceAs (Decidable (_ ∧ _))

/-- Colour, setting and mode in memory agree with a choice. -/
def Shows (context : AccountContext) (s : Service) (mode : DarkMode) : Prop :=
  memoryColor s context = some mode ∧ storedMode s context = modeOf mode ∧
    memoryMode s context = modeOf mode

instance (context : AccountContext) (s : Service) (mode : DarkMode) :
    Decidable (Shows context s mode) := inferInstanceAs (Decidable (_ ∧ _ ∧ _))

/-- In a run whose calls are informed, the last successful choice is shown in every quiet
state. -/
theorem lastChoice_shown {context : AccountContext} {s : Service} {es : List (Env × Event)}
    (hstart : Consistent context s) (hhealthy : ∀ e ∈ es, Healthy context e.1)
    (hok : Along next (Informed context) (start s) es) (hquiet : Quiet (exec next (start s) es)) :
    ∀ mode ∈ (exec next (start s) es).succeeded,
      Shows context (exec next (start s) es).service mode := by
  have hsafe : Safe context (exec next (start s) es) :=
    exec_invariant safe_next ⟨hstart, trivial, nofun, nofun⟩
      (along_and (along_of_forall hhealthy) hok)
  intro mode hmode
  obtain ⟨-, hstored, hcolor⟩ := hsafe.chosen mode hmode
  have hmemory := hsafe.service.agree hquiet.1
  have hnone : (assigned (exec next (start s) es).call).isSome = false := by
    have hreturned := hquiet.2
    cases hcall : (exec next (start s) es).call <;> rw [hcall] at hreturned <;>
      first | rfl | cases hreturned
  refine ⟨?_, hstored, hmemory.trans hstored⟩
  rcases hcolor with hcolor | hsome | hassigned
  · exact hcolor
  · exact absurd hquiet.1 hsome
  · rw [hnone] at hassigned
    cases hassigned

def lightRow (userId : ℤ) (key : String) : Option String :=
  if userId = 100 ∧ key = SettingItem.mode.key then some "0" else none

def booted : Service :=
  exec Service.step (Service.start Table.empty lightRow)
    ([(noon, .onAddSystemAbility), (noon, .bootCompleted)] ++
      List.replicate 5 (noon, .delivered 0))

theorem booted_consistent : Consistent account booted where
  callback := by decide
  initialized := by decide
  observed := by decide
  inFlight := by decide
  memory := by decide
  agree := by decide
  stored := fun h => absurd (by decide) h

theorem noon_healthy : Healthy account noon where
  caller := by decide
  oneUser := by decide
  appManager := rfl
  updateConfiguration := fun _ => rfl
  setParameter := fun _ _ => rfl
  createHelper := rfl
  query := rfl
  insert := fun _ => rfl

/-- A call that nothing interrupts. -/
def call (mode : ℤ) : List Event := .setDarkMode mode :: List.replicate 6 .proceed

/-- The events at noon. -/
def atNoon (events : List Event) : List (Env × Event) := events.map fun event => (noon, event)

def after (events : List Event) : Board := exec next (start booted) (atNoon events)

/-- Dark, then light before the notification about dark is delivered: dark remains. -/
theorem lastChoice_undone :
    Consistent account booted ∧ Healthy account noon ∧
      Quiet (after (call 0 ++ call 1 ++ [.deliver 0])) ∧
      (after (call 0 ++ call 1 ++ [.deliver 0])).succeeded = some .alwaysLight ∧
      Shows account (after (call 0 ++ call 1 ++ [.deliver 0])).service .alwaysDark := by
  refine ⟨booted_consistent, noon_healthy, ?_⟩
  decide +kernel

/-- The second call, with the notification delivered halfway through it. -/
def secondCall : List Event :=
  .setDarkMode 1 :: List.replicate 3 .proceed ++ .deliver 0 :: List.replicate 3 .proceed

/-- It is enough that the notification arrives while the second call is running. -/
theorem lastChoice_shown_light :
    Shows account (after (call 0 ++ secondCall ++ [.deliver 0])).service .alwaysLight := by
  have hnoon : ∀ e ∈ atNoon (call 0 ++ secondCall ++ [.deliver 0]), Healthy account e.1 := by
    intro e he
    obtain ⟨event, -, rfl⟩ := List.mem_map.mp he
    exact noon_healthy
  apply lastChoice_shown booted_consistent hnoon
  all_goals decide +kernel

end ManualChoice
end UiAppearance
