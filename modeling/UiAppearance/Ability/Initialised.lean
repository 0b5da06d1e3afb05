import UiAppearance.Ability.ColorCallback
import UiAppearance.Ability.ContextSwitch

/-!
# After the initialisation

Migration and initialisation happen once. No operation on the appearance makes
them due again.
-/

namespace UiAppearance

namespace Service

/-- The one-time processes are over. -/
def initialised (s : Service) : Bool := s.isInitializationFinished && !s.isNeedDoCompatibleProcess

variable (env : Env) (s : Service)

/-- The flags of the ability: what is still due, and who has been told. -/
def flags (s : Service) : Bool × Bool × (AccountContext → Bool) :=
  (s.isNeedDoCompatibleProcess, s.isInitializationFinished, s.onceFlag)

section Flags

variable {s s' : Service}

theorem initialised_of_flags (h : s'.flags = s.flags) : s'.initialised = s.initialised := by
  unfold initialised
  rw [show s'.isInitializationFinished = s.isInitializationFinished from congrArg (·.2.1) h,
    show s'.isNeedDoCompatibleProcess = s.isNeedDoCompatibleProcess from congrArg Prod.fst h]

theorem flags_of_appearance (h : s'.appearance = s.appearance) : s'.flags = s.flags :=
  congrArg (fun a : Appearance =>
    (a.isNeedDoCompatibleProcess, a.isInitializationFinished, a.onceFlag)) h

end Flags

@[simp] theorem flags_setParameterWrap (paramName value : String) :
    (s.setParameterWrap env paramName value).flags = s.flags := by
  unfold setParameterWrap
  split_ifs <;> rfl

@[simp] theorem flags_updateConfiguration (config : Configuration) (userId : ℤ)
    (effectiveUserIds : List ℤ) :
    (s.updateConfiguration env config userId effectiveUserIds).1.flags = s.flags := by
  unfold updateConfiguration
  dsimp only
  split_ifs <;> rfl

theorem flags_configurePersistenceAll (mode : DarkMode) (paramValue : String)
    (contexts : List AccountContext) :
    (configurePersistenceAll env mode paramValue contexts s).1.flags = s.flags := by
  induction contexts generalizing s with
  | nil => rfl
  | cons context rest ih =>
    have hpersisted : (s.persistColor env context mode paramValue).flags = s.flags := by
      have hswitched := flags_of_appearance
        (appearance_doSwitchTemporaryColorMode env s context (mode = .alwaysDark))
      unfold persistColor
      rw [flags_setParameterWrap]
      exact hswitched
    unfold configurePersistenceAll
    rw [configurePersistence_eq]
    split_ifs with hwrite
    · exact (ih _).trans ((flags_of_appearance
        (appearance_notifyDarkModeUpdate ..)).trans hpersisted)
    · exact hpersisted

theorem flags_configureFontPersistenceAll (property : FontProperty) (value : String)
    (contexts : List AccountContext) :
    (configureFontPersistenceAll env property value contexts s).1.flags = s.flags := by
  induction contexts generalizing s with
  | nil => rfl
  | cons context rest ih =>
    have hpersisted : (s.configureFontPersistence env property context value).1.flags =
        s.flags := by
      unfold configureFontPersistence
      exact flags_setParameterWrap ..
    unfold configureFontPersistenceAll
    dsimp only
    split_ifs
    · exact hpersisted
    · rw [ih, hpersisted]

@[simp] theorem flags_call (r : Request) : (r.call env s).1.flags = s.flags := by
  cases h : r.admitted env s with
  | false => rw [(Request.call_of_refused h).1]
  | true =>
    cases r with
    | setDarkMode mode =>
      rw [Request.call_setDarkMode h, flags_configurePersistenceAll]
      simp [configured]
    | setFontScale fontScale =>
      rw [Request.call_setFontScale h, flags_configureFontPersistenceAll]
      simp [Request.sentFont]
    | setFontWeightScale fontWeightScale =>
      rw [Request.call_setFontWeightScale h, flags_configureFontPersistenceAll]
      simp [Request.sentFont]

@[simp] theorem flags_updateDarkModeCallback (isDarkMode : Bool) (userId : ℤ) :
    (s.updateDarkModeCallback env isDarkMode userId).flags = s.flags := by
  have hcontext (s : Service) (context : AccountContext) :
      (s.configurePersistenceOfCallback env isDarkMode context (colorName isDarkMode)).flags =
        s.flags := flags_setParameterWrap ..
  rw [updateDarkModeCallback_eq]
  split_ifs
  · rw [frame_foldl _ flags hcontext]
    simp [callbackSent]
  · rfl

@[simp] theorem initialised_setParameterWrap (paramName value : String) :
    (s.setParameterWrap env paramName value).initialised = s.initialised :=
  initialised_of_flags (flags_setParameterWrap ..)

@[simp] theorem initialised_updateCurrentUserConfiguration (context : AccountContext)
    (isForceUpdate : Bool) :
    (s.updateCurrentUserConfiguration env context isForceUpdate).initialised = s.initialised := by
  simp [initialised]

@[simp] theorem initialised_applyAppearanceContextToUser (source target : AccountContext) :
    (s.applyAppearanceContextToUser env source target).initialised = s.initialised := by
  unfold applyAppearanceContextToUser
  split
  · rfl
  · simp only [initialised_updateCurrentUserConfiguration, initialised_setParameterWrap]
    rfl

variable {s} in
theorem initialised_accountContextSwitchFunc (h : s.initialised = true) (context : AccountContext) :
    (s.accountContextSwitchFunc env context).initialised = true := by
  have hflags : s.isInitializationFinished = true ∧ s.isNeedDoCompatibleProcess = false := by
    simpa [initialised] using h
  have hprepared := appearance_switchPrepared env context hflags.2 hflags.1
  rw [accountContextSwitchFunc_eq, initialised_updateCurrentUserConfiguration, ← h,
    ← initialised_of_flags (flags_of_appearance hprepared)]
  unfold switchAdopted
  split_ifs <;> rfl

theorem flags_migrateFamily (oldParam default : String) (refine : Service → String → String)
    (paramAssignUser : AccountContext → String) (contexts : List AccountContext) :
    (s.migrateFamily env oldParam default refine paramAssignUser contexts).flags = s.flags := by
  have hparam (s : Service) (paramName value : String) :
      (s.migrateParam env paramName value).flags = s.flags := by
    unfold migrateParam
    split_ifs
    · rfl
    · exact flags_setParameterWrap ..
  unfold migrateFamily
  split
  · rfl
  · exact frame_foldl s flags (fun s context => hparam s _ _) contexts

theorem isInitializationFinished_doCompatibleProcess :
    (s.doCompatibleProcess env).isInitializationFinished = s.isInitializationFinished := by
  have hflags : ((s.doCompatibleProcess env).isInitializationFinished,
      (s.doCompatibleProcess env).onceFlag) = s.flags.2 := by
    unfold doCompatibleProcess
    change (flags (setParameterWrap env _ _ _)).2 = _
    simp only [flags_setParameterWrap, flags_migrateFamily]
  exact congrArg Prod.fst hflags

theorem isNeedDoCompatibleProcess_loadContextParam (context : AccountContext)
    (contextKey baseKey defaultValue : String) :
    (s.loadContextParam env context contextKey baseKey defaultValue).1.isNeedDoCompatibleProcess =
      s.isNeedDoCompatibleProcess := by
  rcases s.loadContextParam_cases env context contextKey baseKey defaultValue with h | ⟨-, -, h⟩
  · rw [h]
  · rw [h]
    exact congrArg Prod.fst (flags_setParameterWrap ..)

/-- Nor does the initialisation itself. -/
theorem initialised_doInitProcess (h : s.isNeedDoCompatibleProcess = false) :
    (s.doInitProcess env).initialised = true := by
  have hcontext (s : Service) (context : AccountContext) :
      (s.initContext env context).isNeedDoCompatibleProcess = s.isNeedDoCompatibleProcess := by
    have hload := isNeedDoCompatibleProcess_loadContextParam env
    exact (hload ..).trans ((hload ..).trans (hload ..))
  have hkept : (s.doInitProcess env).isNeedDoCompatibleProcess = s.isNeedDoCompatibleProcess :=
    frame_foldl s isNeedDoCompatibleProcess hcontext _
  unfold initialised
  rw [hkept, h]
  rfl

end Service
end UiAppearance
