import UiAppearance.Ability.SetDarkMode
import UiAppearance.Foundations.Transition

/-!
# `SetDarkMode` in steps

A call takes several locks one after the other and writes to the parameters in
between, so notifications may be delivered while it runs. Without interruption
its steps amount to the function.
-/

namespace UiAppearance

/-- What a call of `SetDarkMode` does next, with the contexts it still has to come to. -/
inductive ChoicePhase where
  | compare (mode : ℤ)
  | updateConfiguration (mode : DarkMode) (context : AccountContext)
  | doSwitchTemporaryColorMode (mode : DarkMode) (context : AccountContext)
      (rest : List AccountContext)
  | assignDarkMode (mode : DarkMode) (context : AccountContext) (rest : List AccountContext)
  | setParameter (mode : DarkMode) (context : AccountContext) (rest : List AccountContext)
  | notifyDarkModeUpdate (mode : DarkMode) (context : AccountContext) (rest : List AccountContext)
  | returned (result : FuncResult)
  deriving DecidableEq

/-- The beginning of `ConfigurePersistence` for the next context. -/
def ChoicePhase.persist (mode : DarkMode) : List AccountContext → ChoicePhase
  | [] => .returned .succeeded
  | context :: rest => .doSwitchTemporaryColorMode mode context rest

namespace Service

variable (env : Env) (s : Service)

def choiceStep : ChoicePhase → Service × ChoicePhase
  | .compare mode =>
    let darkMode := DarkMode.ofInt mode
    (s,
      if !env.accessGranted then .returned .permissionErr
      else if darkMode = s.currentDarkMode (getCallingAccountContext env) then .returned .sysErr
      else if darkMode = .unknown then .returned .invalidArg
      else .updateConfiguration darkMode (getCallingAccountContext env))
  | .updateConfiguration mode context =>
    let paramValue := colorName (mode = .alwaysDark)
    let r := s.updateConfiguration env { colorMode := some paramValue } context.userId
      (getMultipleUsers env)
    if !r.2 then (r.1, .returned .sysErr)
    else (r.1.setParameterWrap env persistDarkmodeKey paramValue,
      .persist mode (affectedContexts env context))
  | .doSwitchTemporaryColorMode mode context rest =>
    (s.doSwitchTemporaryColorMode env context (mode = .alwaysDark),
      .assignDarkMode mode context rest)
  | .assignDarkMode mode context rest =>
    (s.setDarkModeOf env context mode, .setParameter mode context rest)
  | .setParameter mode context rest =>
    let paramValue := colorName (mode = .alwaysDark)
    (s.setParameterWrap env (darkModeParamAssignUser context) paramValue,
      if !env.setParameter (darkModeParamAssignUser context) paramValue then .returned .sysErr
      else .notifyDarkModeUpdate mode context rest)
  | .notifyDarkModeUpdate mode context rest =>
    (s.notifyDarkModeUpdate env context (mode = .alwaysDark), .persist mode rest)
  | .returned result => (s, .returned result)

/-- A call that nobody interrupts. -/
def choiceAlone (r : Service × ChoicePhase) (_ : Unit) : Service × ChoicePhase :=
  choiceStep env r.1 r.2

theorem choiceAlone_returned (result : FuncResult) (n : ℕ) :
    Transition.exec (choiceAlone env) (s, .returned result) (List.replicate n ()) =
      (s, .returned result) := by
  induction n with
  | zero => rfl
  | succ n ih => exact ih

/-- Four steps for each context that is reached, and none after the first that fails. -/
theorem configurePersistenceAll_alone (mode : DarkMode) (contexts : List AccountContext) :
    Transition.exec (choiceAlone env) (s, .persist mode contexts)
        (List.replicate (4 * contexts.length) ()) =
      ((configurePersistenceAll env mode (colorName (mode = .alwaysDark)) contexts s).1,
        .returned (configurePersistenceAll env mode (colorName (mode = .alwaysDark))
          contexts s).2) := by
  induction contexts generalizing s with
  | nil => rfl
  | cons context rest ih =>
    have hsteps : Transition.exec (choiceAlone env) (s, .persist mode (context :: rest))
        (List.replicate (4 * (context :: rest).length) ()) =
        Transition.exec (choiceAlone env) (choiceStep env
          (s.persistColor env context mode (colorName (mode = .alwaysDark)))
          (if !env.setParameter (darkModeParamAssignUser context) (colorName (mode = .alwaysDark))
            then .returned .sysErr else .notifyDarkModeUpdate mode context rest))
        (List.replicate (4 * rest.length) ()) := rfl
    rw [hsteps]
    unfold configurePersistenceAll configurePersistence
    cases env.setParameter (darkModeParamAssignUser context) (colorName (mode = .alwaysDark)) with
    | false => exact choiceAlone_returned env _ .sysErr _
    | true => exact ih _

theorem setDarkMode_alone (mode : ℤ) :
    Transition.exec (choiceAlone env) (s, .compare mode) (List.replicate
        (4 * (affectedContexts env (getCallingAccountContext env)).length + 2) ()) =
      ((s.setDarkMode env mode).1, .returned (s.setDarkMode env mode).2) := by
  change Transition.exec _ (choiceAlone env (choiceStep env s (.compare mode)) ())
    (List.replicate (4 * _) ()) = _
  unfold setDarkMode onSetDarkMode choiceStep
  dsimp only
  split_ifs with hgranted hsame hunknown hsent
  · exact choiceAlone_returned ..
  · exact choiceAlone_returned ..
  · exact choiceAlone_returned ..
  · change Transition.exec _ (ite _ _ _) _ = _
    rw [if_pos hsent]
    exact choiceAlone_returned ..
  · change Transition.exec _ (ite _ _ _) _ = _
    rw [if_neg hsent]
    exact configurePersistenceAll_alone ..

end Service
end UiAppearance
