import UiAppearance.Ability.Simulation

/-!
# A manual choice and a stored schedule

`SetDarkMode` spares a schedule it knows about. It asks the mode in memory,
while the schedule is in the settings. The two differ for a context that was
never loaded, or was loaded while the settings could not be read: its mode is
then `INVALID`, and the stored schedule is replaced by an all-day mode.
-/

namespace UiAppearance
namespace StoredSchedule

open Transition Service

/-- The row of the mode setting of a context. -/
def storedMode (s : Service) (context : AccountContext) : Option String :=
  s.settingDataManager.tables context.userId
    (AccountContext.buildSettingKey SettingItem.mode.key context)

def StoresSchedule (s : Service) (context : AccountContext) : Prop :=
  storedMode s context = some (toString DarkModeMode.customAuto.toInt) ∨
    storedMode s context = some (toString DarkModeMode.sunriseSunset.toInt)

instance (s : Service) (context : AccountContext) : Decidable (StoresSchedule s context) :=
  inferInstanceAs (Decidable (_ ∨ _))

/-- The mode in memory lets the choice through and the row can be written. -/
def Overwrites (env : Env) (s : Service) (context : AccountContext) (isDarkMode : Bool) : Prop :=
  ((s.stateOf context).settingMode = .ofColor (!isDarkMode) ∨
      (s.stateOf context).settingMode = .invalid) ∧
    s.settingDataManager.hasHelper env context.userId = true ∧
    (env.update context.userId (AccountContext.buildSettingKey SettingItem.mode.key context)
        (choiceText isDarkMode) = true ∨
      env.insert context.userId (AccountContext.buildSettingKey SettingItem.mode.key context)
        (choiceText isDarkMode) = true)

instance (env : Env) (s : Service) (context : AccountContext) (isDarkMode : Bool) :
    Decidable (Overwrites env s context isDarkMode) :=
  inferInstanceAs (Decidable ((_ ∨ _) ∧ _ ∧ (_ ∨ _)))

/-- The loop over `contexts` comes to this one and its parameter is written. -/
def ReachedIn (env : Env) (paramValue : String) (contexts : List AccountContext)
    (context : AccountContext) : Prop :=
  context ∈ Service.chosenContexts env paramValue contexts ∧
    env.setParameter (darkModeParamAssignUser context) paramValue = true

instance (env : Env) (paramValue : String) (contexts : List AccountContext)
    (context : AccountContext) : Decidable (ReachedIn env paramValue contexts context) :=
  inferInstanceAs (Decidable (_ ∧ _))

/-- A call of `SetDarkMode` is admitted and gets as far as this context. -/
def Reached (env : Env) (s : Service) (mode : ℤ) (context : AccountContext) : Prop :=
  s.admitsSetDarkMode env mode = true ∧
    ReachedIn env (colorName (DarkMode.ofInt mode = .alwaysDark))
      (Service.affectedContexts env (Service.getCallingAccountContext env)) context

instance (env : Env) (s : Service) (mode : ℤ) (context : AccountContext) :
    Decidable (Reached env s mode context) :=
  inferInstanceAs (Decidable (_ ∧ _))

section OneContext

variable {env : Env} {s s' : Service} {context context' : AccountContext} {isDarkMode : Bool}

/-- Whether a row is overwritten depends on the mode in memory and the connection only. -/
theorem overwrites_congr (hstate : s'.stateOf context = s.stateOf context)
    (hinit : s'.settingDataManager.isInitialized = s.settingDataManager.isInitialized) :
    Overwrites env s' context isDarkMode ↔ Overwrites env s context isDarkMode := by
  unfold Overwrites SettingDataManager.hasHelper
  rw [hstate, hinit]

theorem storedMode_congr (h : s'.settingDataManager = s.settingDataManager) :
    storedMode s' context = storedMode s context := by
  unfold storedMode
  rw [h]

/-- With a row in place, the notification replaces it exactly when it overwrites. -/
theorem storedMode_notifyDarkModeUpdate (hrow : (storedMode s context).isSome = true) :
    storedMode (s.notifyDarkModeUpdate env context isDarkMode) context =
      if Overwrites env s context isDarkMode then some (choiceText isDarkMode)
      else storedMode s context := by
  have hsome : (s.settingDataManager.tables context.userId
      (AccountContext.buildSettingKey SettingItem.mode.key context)).isSome = true := hrow
  rw [notifyDarkModeUpdate_eq]
  by_cases hguard : (s.stateOf context).settingMode = .ofColor (!isDarkMode) ∨
      (s.stateOf context).settingMode = .invalid
  · rw [if_pos hguard]
    change (SettingDataManager.setStringValue ..).1.tables _ _ = _
    unfold Overwrites SettingDataManager.setStringValue SettingDataManager.updateValue storedMode
    simp only [hguard, hsome, true_and, Bool.and_true]
    split_ifs <;> simp_all
  · rw [if_neg hguard, if_neg fun h => hguard h.1]
    rfl

/-- The row of another user is left alone. -/
theorem storedMode_notifyDarkModeUpdate_of_ne (h : context'.userId ≠ context.userId) :
    storedMode (s.notifyDarkModeUpdate env context isDarkMode) context' =
      storedMode s context' := by
  rw [notifyDarkModeUpdate_eq]
  split_ifs
  · exact SettingDataManager.tables_setStringValue_of_ne (.inl h)
  · rfl

end OneContext

section Loop

variable (env : Env) {context : AccountContext} (mode : DarkMode) (paramValue : String)

/-- One context of the loop whose parameter was written. -/
def chosen (s : Service) (context : AccountContext) : Service :=
  (s.persistColor env context mode paramValue).notifyDarkModeUpdate env context (mode = .alwaysDark)

theorem overwrites_chosen (s : Service) (head : AccountContext) :
    Overwrites env (chosen env mode paramValue s head) context (mode = .alwaysDark) ↔
      Overwrites env s context (mode = .alwaysDark) := by
  refine overwrites_congr ?_ ?_
  · exact (stateOf_notifyDarkModeUpdate ..).trans (stateOf_persistColor ..)
  · exact (isInitialized_notifyDarkModeUpdate ..).trans
      (congrArg _ (settingDataManager_persistColor ..))

theorem storedMode_chosen (s : Service) (hrow : (storedMode s context).isSome = true) :
    storedMode (chosen env mode paramValue s context) context =
      if Overwrites env s context (mode = .alwaysDark) then some (choiceText (mode = .alwaysDark))
      else storedMode s context := by
  have hsame : storedMode (s.persistColor env context mode paramValue) context =
      storedMode s context := storedMode_congr (settingDataManager_persistColor ..)
  have hover : Overwrites env (s.persistColor env context mode paramValue) context
      (mode = .alwaysDark) ↔ Overwrites env s context (mode = .alwaysDark) :=
    overwrites_congr (stateOf_persistColor ..)
      (congrArg _ (settingDataManager_persistColor ..))
  unfold chosen
  rw [storedMode_notifyDarkModeUpdate (by rw [hsame]; exact hrow), hsame]
  simp only [hover]

theorem storedMode_chosen_of_ne (s : Service) {head : AccountContext}
    (h : context.userId ≠ head.userId) :
    storedMode (chosen env mode paramValue s head) context = storedMode s context :=
  (storedMode_notifyDarkModeUpdate_of_ne h).trans
    (storedMode_congr (settingDataManager_persistColor ..))

/-- The loop ends at a context whose parameter is not written, and that context is not reached. -/
theorem not_reachedIn_of_failed {head : AccountContext} (rest : List AccountContext)
    (hparam : env.setParameter (darkModeParamAssignUser head) paramValue = false) :
    ¬ReachedIn env paramValue (head :: rest) context := by
  rintro ⟨hmem, hok⟩
  simp only [Service.chosenContexts, hparam, Bool.false_eq_true, if_false,
    List.mem_singleton] at hmem
  rw [hmem, hparam] at hok
  cases hok

theorem reachedIn_cons {head : AccountContext} (rest : List AccountContext)
    (hparam : env.setParameter (darkModeParamAssignUser head) paramValue = true) :
    ReachedIn env paramValue (head :: rest) context ↔
      context = head ∨ ReachedIn env paramValue rest context := by
  simp only [ReachedIn, Service.chosenContexts, hparam, if_true, List.mem_cons]
  constructor
  · rintro ⟨hhead | hmem, hok⟩
    · exact .inl hhead
    · exact .inr ⟨hmem, hok⟩
  · rintro (rfl | ⟨hmem, hok⟩)
    · exact ⟨.inl rfl, hparam⟩
    · exact ⟨.inr hmem, hok⟩

/-- The loop replaces the row exactly when it reaches the context and overwrites there. -/
theorem storedMode_configurePersistenceAll (contexts : List AccountContext) (s : Service)
    (hrow : (storedMode s context).isSome = true)
    (hown : ∀ context' ∈ contexts, context'.userId = context.userId → context' = context) :
    storedMode (Service.configurePersistenceAll env mode paramValue contexts s).1 context =
      if ReachedIn env paramValue contexts context ∧
          Overwrites env s context (mode = .alwaysDark) then some (choiceText (mode = .alwaysDark))
      else storedMode s context := by
  induction contexts generalizing s with
  | nil => simp [Service.configurePersistenceAll, ReachedIn, Service.chosenContexts]
  | cons head rest ih =>
    have hpersist : (s.persistColor env head mode paramValue).settingDataManager =
        s.settingDataManager := settingDataManager_persistColor ..
    unfold Service.configurePersistenceAll Service.configurePersistence
    dsimp only
    cases hparam : env.setParameter (darkModeParamAssignUser head) paramValue with
    | false =>
      simp only [Bool.not_false, if_true, ne_eq, reduceCtorEq, not_false_eq_true]
      rw [if_neg fun h => not_reachedIn_of_failed env paramValue rest hparam h.1]
      exact storedMode_congr hpersist
    | true =>
      have hreach : ReachedIn env paramValue (head :: rest) context ↔
          context = head ∨ ReachedIn env paramValue rest context :=
        reachedIn_cons env paramValue rest hparam
      have hrest := fun context' hmem => hown context' (List.mem_cons_of_mem head hmem)
      simp only [Bool.not_true, Bool.false_eq_true, if_false, ne_eq, not_true_eq_false]
      change storedMode (Service.configurePersistenceAll env mode paramValue rest
        (chosen env mode paramValue s head)).1 context = _
      by_cases hhead : context = head
      · subst hhead
        have hstep := storedMode_chosen env mode paramValue s hrow
        rw [ih _ (by rw [hstep]; split_ifs <;> simp [hrow]) hrest, hstep]
        simp only [overwrites_chosen, hreach, true_or, true_and]
        split_ifs <;> simp_all
      · have hstep := storedMode_chosen_of_ne env mode paramValue s
          fun heq => hhead (hown head List.mem_cons_self heq.symm).symm
        rw [ih _ (by rw [hstep]; exact hrow) hrest, hstep]
        simp only [overwrites_chosen, hreach, hhead, false_or]

end Loop

section Call

variable {env : Env} {s : Service} {context : AccountContext} {mode : ℤ}

/-- A call replaces a present row exactly when it reaches the context and overwrites there. -/
theorem storedMode_setDarkMode
    (hc : context ∈ Service.affectedContexts env (Service.getCallingAccountContext env))
    (hrow : (storedMode s context).isSome = true) :
    storedMode (s.setDarkMode env mode).1 context =
      if Reached env s mode context ∧ Overwrites env s context (DarkMode.ofInt mode = .alwaysDark)
      then some (choiceText (DarkMode.ofInt mode = .alwaysDark)) else storedMode s context := by
  have hown (context' : AccountContext)
      (hmem : context' ∈ Service.affectedContexts env (Service.getCallingAccountContext env))
      (huser : context'.userId = context.userId) : context' = context :=
    Service.affectedContexts_own hc hmem huser
  have hsettings : (s.configured env (DarkMode.ofInt mode)).settingDataManager =
      s.settingDataManager := by
    unfold Service.configured
    rw [Service.settingDataManager_of_frame (Service.beyondSchedule_setParameterWrap ..),
      Service.settingDataManager_of_frame (Service.beyondSchedule_updateConfiguration ..)]
  have hstate : (s.configured env (DarkMode.ofInt mode)).stateOf context = s.stateOf context :=
    congrFun (congrArg Core.stateOf (Service.core_configured env s _)) context
  have hsame : storedMode (s.configured env (DarkMode.ofInt mode)) context = storedMode s context :=
    storedMode_congr hsettings
  rw [Service.setDarkMode_eq]
  unfold Reached
  by_cases hcalled : s.admitsSetDarkMode env mode = true
  · rw [if_pos hcalled, storedMode_configurePersistenceAll env _ _ _ _ (by rw [hsame]; exact hrow)
      hown, hsame]
    simp only [hcalled, true_and, overwrites_congr hstate (congrArg _ hsettings)]
  · rw [if_neg hcalled, if_neg fun h => hcalled h.1.1]

/-- A stored schedule survives a manual choice exactly when the call does not reach its
context, or the mode in memory is neither absent nor the opposite all-day mode, or the row
cannot be written. -/
theorem schedule_kept_iff
    (hc : context ∈ Service.affectedContexts env (Service.getCallingAccountContext env))
    (hstored : StoresSchedule s context) :
    storedMode (s.setDarkMode env mode).1 context = storedMode s context ↔
      ¬(Reached env s mode context ∧
        Overwrites env s context (DarkMode.ofInt mode = .alwaysDark)) := by
  have hrow : (storedMode s context).isSome = true := by
    rcases hstored with h | h <;> rw [h] <;> rfl
  have hdiffers : some (choiceText (DarkMode.ofInt mode = .alwaysDark)) ≠ storedMode s context := by
    cases DarkMode.ofInt mode <;> rcases hstored with h | h <;> rw [h] <;> decide
  rw [storedMode_setDarkMode hc hrow]
  split_ifs with h
  · exact iff_of_false hdiffers (not_not.mpr h)
  · exact iff_of_true rfl h

end Call

/-- Two users are in the foreground, and the second one follows the sun. -/
def twoUsers : Env :=
  { clock := ⟨1000000, 36000, 964000, by decide⟩, foregroundOsAccounts := [100, 101] }

def sunUser : AccountContext := .createBaseContext 101

/-- The boot loads the first user only. -/
def booted : Service :=
  exec Service.step (Service.start Table.empty fun userId key =>
      if userId = 101 ∧ key = SettingItem.mode.key then some "3" else none)
    [(twoUsers, .onAddSystemAbility), (twoUsers, .bootCompleted)]

/-- The first user chooses dark, and the second one loses the sun schedule. -/
theorem sunUser_overwritten :
    storedMode booted sunUser = some "3" ∧
      (booted.setDarkMode twoUsers 0).2 = .succeeded ∧
      sunUser ∈ Service.affectedContexts twoUsers (Service.getCallingAccountContext twoUsers) ∧
      storedMode (booted.setDarkMode twoUsers 0).1 sunUser = some "1" := by
  decide

/-- Once the second user was loaded as well, the schedule is kept. -/
theorem sunUser_kept :
    storedMode ((booted.step (twoUsers, .userSwitched 101)).setDarkMode twoUsers 0).1 sunUser =
      storedMode (booted.step (twoUsers, .userSwitched 101)) sunUser :=
  (schedule_kept_iff (by decide) (by decide)).mpr (by decide)

end StoredSchedule
end UiAppearance
