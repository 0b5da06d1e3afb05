import UiAppearance.Ability.Events
import UiAppearance.DarkMode.Timers

/-!
# What the ability leaves alone

`beyondAbility` blanks the data the ability keeps for itself: the appearance in
memory, the parameters, its flags, and the trace. Everything the ability does
apart from its calls into the dark mode manager preserves what is left.
-/

namespace UiAppearance
namespace Service

/-- Migration and initialisation write no more than these four. -/
def beyondStores (s : Service) : Service :=
  { s with
    usersParam := Table.empty
    parameters := Table.empty
    isNeedDoCompatibleProcess := false
    isInitializationFinished := false }

def beyondAbility (s : Service) : Service :=
  { s with
    usersParam := Table.empty
    parameters := Table.empty
    isNeedDoCompatibleProcess := false
    isInitializationFinished := false
    onceFlag := fun _ => false
    trace := [] }

section Fields

variable {s s' : Service}

theorem beyondAbility_of_beyondStores (h : s'.beyondStores = s.beyondStores) :
    s'.beyondAbility = s.beyondAbility := by
  change s'.beyondStores.beyondAbility = s.beyondStores.beyondAbility
  rw [h]

theorem trace_of_beyondStores (h : s'.beyondStores = s.beyondStores) : s'.trace = s.trace := by
  change s'.beyondStores.trace = _
  rw [h]
  rfl

theorem onceFlag_of_beyondStores (h : s'.beyondStores = s.beyondStores) :
    s'.onceFlag = s.onceFlag := by
  change s'.beyondStores.onceFlag = _
  rw [h]
  rfl

theorem alarmTimerManager_of_beyondAbility (h : s'.beyondAbility = s.beyondAbility) :
    s'.alarmTimerManager = s.alarmTimerManager := by
  change s'.beyondAbility.alarmTimerManager = _
  rw [h]
  rfl

end Fields

variable (env : Env) (s : Service) (context : AccountContext)

@[simp] theorem beyondAbility_setParameterWrap (paramName value : String) :
    (s.setParameterWrap env paramName value).beyondAbility = s.beyondAbility := by
  unfold setParameterWrap
  split_ifs <;> rfl

@[simp] theorem beyondAbility_updateConfiguration (config : Configuration) (userId : ℤ)
    (effectiveUserIds : List ℤ) :
    (s.updateConfiguration env config userId effectiveUserIds).1.beyondAbility =
      s.beyondAbility := by
  unfold updateConfiguration
  dsimp only
  split_ifs <;> rfl

section Fonts

variable (property : FontProperty) (value : String)

@[simp] theorem beyondAbility_configureFontPersistence :
    (s.configureFontPersistence env property context value).1.beyondAbility =
      s.beyondAbility := by
  unfold configureFontPersistence
  rw [beyondAbility_setParameterWrap]
  rfl

theorem beyondAbility_configureFontPersistenceAll (contexts : List AccountContext) :
    (configureFontPersistenceAll env property value contexts s).1.beyondAbility =
      s.beyondAbility := by
  induction contexts generalizing s with
  | nil => rfl
  | cons context rest ih =>
    unfold configureFontPersistenceAll
    dsimp only
    split_ifs <;> simp [ih]

@[simp] theorem beyondAbility_setFont :
    (s.setFont env property value).1.beyondAbility = s.beyondAbility := by
  unfold setFont onSetFont
  dsimp only
  split_ifs <;> simp [beyondAbility_configureFontPersistenceAll]

end Fonts

section Initialisation

@[simp] theorem beyondStores_setParameterWrap (paramName value : String) :
    (s.setParameterWrap env paramName value).beyondStores = s.beyondStores := by
  unfold setParameterWrap
  split_ifs <;> rfl

@[simp] theorem beyondStores_migrateParam (paramName value : String) :
    (s.migrateParam env paramName value).beyondStores = s.beyondStores := by
  unfold migrateParam
  split_ifs <;> simp

@[simp] theorem beyondStores_migrateFamily (oldParam default : String)
    (refine : Service → String → String) (paramAssignUser : AccountContext → String)
    (contexts : List AccountContext) :
    (s.migrateFamily env oldParam default refine paramAssignUser contexts).beyondStores =
      s.beyondStores := by
  unfold migrateFamily
  split
  · rfl
  · exact frame_foldl _ beyondStores (fun _ _ => beyondStores_migrateParam ..) _

@[simp] theorem beyondStores_doCompatibleProcess :
    (s.doCompatibleProcess env).beyondStores = s.beyondStores := by
  unfold doCompatibleProcess
  change (setParameterWrap env _ _ _).beyondStores = _
  simp

@[simp] theorem beyondStores_loadContextParam (contextKey baseKey defaultValue : String) :
    (s.loadContextParam env context contextKey baseKey defaultValue).1.beyondStores =
      s.beyondStores := by
  rcases s.loadContextParam_cases env context contextKey baseKey defaultValue with h | ⟨-, -, h⟩
  · rw [h]
  · rw [h, beyondStores_setParameterWrap]

@[simp] theorem beyondStores_initContext :
    (s.initContext env context).beyondStores = s.beyondStores := by
  unfold initContext
  change (loadContextParam env _ context _ _ _).1.beyondStores = _
  simp

@[simp] theorem beyondStores_doInitProcess :
    (s.doInitProcess env).beyondStores = s.beyondStores :=
  frame_foldl s beyondStores (fun _ _ => beyondStores_initContext ..) _

@[simp] theorem beyondAbility_doCompatibleProcess :
    (s.doCompatibleProcess env).beyondAbility = s.beyondAbility :=
  beyondAbility_of_beyondStores (beyondStores_doCompatibleProcess env s)

@[simp] theorem beyondAbility_doInitProcess :
    (s.doInitProcess env).beyondAbility = s.beyondAbility :=
  beyondAbility_of_beyondStores (beyondStores_doInitProcess env s)

@[simp] theorem beyondAbility_updateCurrentUserConfiguration (isForceUpdate : Bool) :
    (s.updateCurrentUserConfiguration env context isForceUpdate).beyondAbility =
      s.beyondAbility := by
  unfold updateCurrentUserConfiguration
  dsimp only
  split_ifs <;> (try simp only [beyondAbility_setParameterWrap]) <;> rfl

@[simp] theorem beyondAbility_adoptLoadedColor (code : ErrCode) (isDarkMode : Bool) :
    (s.adoptLoadedColor env context code isDarkMode).1.beyondAbility = s.beyondAbility := by
  unfold adoptLoadedColor
  split_ifs <;> rfl

@[simp] theorem beyondAbility_applyAppearanceContextToUser (target : AccountContext) :
    (s.applyAppearanceContextToUser env context target).beyondAbility = s.beyondAbility := by
  unfold applyAppearanceContextToUser
  split
  · rfl
  · simp only [beyondAbility_updateCurrentUserConfiguration, beyondAbility_setParameterWrap]
    rfl

/-- Beyond the ability, a switch is the change of the observed context and a load. -/
theorem beyondAbility_accountContextSwitchFunc :
    (s.accountContextSwitchFunc env context).beyondAbility = ((s.onSwitchContext env
      context).1.loadUserSettingData env context false false false).service.beyondAbility := by
  unfold accountContextSwitchFunc
  dsimp only
  rw [beyondAbility_updateCurrentUserConfiguration, beyondAbility_adoptLoadedColor]
  split_ifs <;> simp

theorem beyondAbility_onAddSystemAbility :
    (s.onAddSystemAbility env).beyondAbility = s.initializeManager.beyondAbility := by
  unfold onAddSystemAbility
  dsimp only
  split_ifs <;> (try simp only [beyondAbility_updateCurrentUserConfiguration,
    beyondAbility_doInitProcess, beyondAbility_doCompatibleProcess]) <;> rfl

end Initialisation
end Service
end UiAppearance
