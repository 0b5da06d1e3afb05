import UiAppearance.Ability.Setters

/-!
# The colour callback

`UpdateDarkModeCallback` is told a user, not a context. Once the configuration
is accepted it writes the colour to the foreground context of that user, or of
every effective user where there are several.
-/

namespace UiAppearance
namespace Service

variable (env : Env) (s : Service)

/-- The contexts that a colour change of a user is made persistent for. -/
def callbackContexts (userId : ℤ) : List AccountContext :=
  affectedContexts env (.getForegroundContext env userId)

/-- Whether the application manager takes a configuration, or has it already. -/
def acceptsConfiguration (userId : ℤ) (effectiveUserIds : List ℤ) : Bool :=
  env.appManager && (env.updateConfiguration
    (if 1 < effectiveUserIds.length then effectiveUserIds else [userId]) ||
      env.configurationInForce)

/-- The contexts that a colour change of a user reaches. -/
def callbackReached (userId : ℤ) : List AccountContext :=
  if acceptsConfiguration env userId (getMultipleUsers env) then callbackContexts env userId else []

/-- The state in which the loop over the contexts begins. -/
def callbackSent (isDarkMode : Bool) (userId : ℤ) : Service :=
  (s.updateConfiguration env { colorMode := some (colorName isDarkMode) } userId
    (getMultipleUsers env)).1.setParameterWrap env persistDarkmodeKey (colorName isDarkMode)

theorem updateConfiguration_accepted (config : Configuration) (userId : ℤ)
    (effectiveUserIds : List ℤ) :
    (s.updateConfiguration env config userId effectiveUserIds).2 =
      acceptsConfiguration env userId effectiveUserIds := by
  unfold updateConfiguration acceptsConfiguration
  dsimp only
  cases env.appManager with
  | false => rfl
  | true => cases env.updateConfiguration _ <;> rfl

theorem updateDarkModeCallback_eq (isDarkMode : Bool) (userId : ℤ) :
    s.updateDarkModeCallback env isDarkMode userId =
      if acceptsConfiguration env userId (getMultipleUsers env) then
        (callbackContexts env userId).foldl (fun s context =>
          s.configurePersistenceOfCallback env isDarkMode context (colorName isDarkMode))
          (s.callbackSent env isDarkMode userId)
      else s := by
  unfold updateDarkModeCallback
  dsimp only
  rw [updateConfiguration_accepted]
  cases haccepted : acceptsConfiguration env userId (getMultipleUsers env) with
  | false =>
    rw [← updateConfiguration_accepted env s] at haccepted
    exact updateConfiguration_of_refused env s haccepted
  | true =>
    unfold callbackSent callbackContexts affectedContexts
    dsimp only
    rw [if_neg (by decide), if_pos rfl]
    split_ifs
    · rw [List.foldl_map]
    · rfl

theorem newParam_configurePersistenceOfCallback (isDarkMode : Bool) (context : AccountContext)
    (paramValue : String) :
    (s.configurePersistenceOfCallback env isDarkMode context paramValue).newParam env =
      s.newParam env :=
  newParam_setParameterWrap env _ (AppearanceItem.darkMode.paramAssignUser_ne_standard context) _

theorem usersParam_configurePersistenceOfCallback (isDarkMode : Bool) (context : AccountContext)
    (paramValue : String) :
    (s.configurePersistenceOfCallback env isDarkMode context paramValue).usersParam =
      s.usersParam.put context { s.paramOf env context with darkMode := .ofColor isDarkMode } :=
  usersParam_setParameterWrap ..

theorem assigned_configurePersistenceOfCallback (isDarkMode : Bool) (paramValue : String)
    (contexts : List AccountContext) :
    Table.Assigned (fun param => { param with darkMode := .ofColor isDarkMode }) (s.newParam env)
      contexts s.usersParam
      (contexts.foldl (fun s context =>
        s.configurePersistenceOfCallback env isDarkMode context paramValue) s).usersParam := by
  induction contexts generalizing s with
  | nil => exact .nil
  | cons context rest ih =>
    refine .cons (fun _ => rfl)
      (usersParam_configurePersistenceOfCallback env s isDarkMode context paramValue) ?_
    rw [← newParam_configurePersistenceOfCallback env s isDarkMode context paramValue]
    exact ih _

theorem usersParam_callbackSent (isDarkMode : Bool) (userId : ℤ) :
    (s.callbackSent env isDarkMode userId).usersParam = s.usersParam := by
  unfold callbackSent
  rw [usersParam_setParameterWrap, usersParam_updateConfiguration]

theorem newParam_callbackSent (isDarkMode : Bool) (userId : ℤ) :
    (s.callbackSent env isDarkMode userId).newParam env = s.newParam env := by
  unfold callbackSent
  exact (newParam_setParameterWrap env _ AppearanceItem.darkMode.globalParam_ne_standard _).trans
    (Request.newParam_updateConfiguration ..)

/-- The entries that a colour change writes. -/
theorem assigned_updateDarkModeCallback (isDarkMode : Bool) (userId : ℤ) :
    Table.Assigned (fun param => { param with darkMode := .ofColor isDarkMode }) (s.newParam env)
      (callbackReached env userId) s.usersParam
      (s.updateDarkModeCallback env isDarkMode userId).usersParam := by
  rw [updateDarkModeCallback_eq]
  unfold callbackReached
  split_ifs
  · rw [← usersParam_callbackSent env s isDarkMode userId,
      ← newParam_callbackSent env s isDarkMode userId]
    exact assigned_configurePersistenceOfCallback ..
  · exact .nil

end Service
end UiAppearance
