import UiAppearance.Ability.SwitchFrames

/-!
# The configuration on show

The application manager keeps one configuration for each user, the service one
appearance for each context. A switch that is not forced, to a context that was
visited before, addresses its configuration to user 0; whether the user's own
applications show the context then depends on what they have been told since.
-/

namespace UiAppearance

namespace Configuration

/-- The configuration of an entry. -/
def ofParam (param : UiAppearanceParam) : Configuration :=
  ⟨some (colorName (param.darkMode = .alwaysDark)), some param.fontScale,
    some param.fontWeightScale⟩

/-- The items of an update replace those in force. -/
def merge (config old : Configuration) : Configuration where
  colorMode := config.colorMode <|> old.colorMode
  fontSizeScale := config.fontSizeScale <|> old.fontSizeScale
  fontWeightScale := config.fontWeightScale <|> old.fontWeightScale

@[simp] theorem merge_ofParam (param : UiAppearanceParam) (old : Configuration) :
    (ofParam param).merge old = ofParam param := rfl

end Configuration

namespace ShownConfiguration

open Service Transition Scenario

/-- The service, and what the application manager holds for each user. -/
structure World where
  service : Service
  shown : ℤ → Configuration

inductive Move where
  | accountContextSwitchFunc (context : AccountContext)
  | request (r : Request)
  | updateDarkModeCallback (isDarkMode : Bool) (userId : ℤ)
  | onRemoveSystemAbility
  | onAddSystemAbility
  | settingWritten (userId : ℤ) (key : String) (value : Option String)

def act (s : Service) (env : Env) : Move → Service
  | .accountContextSwitchFunc context => s.accountContextSwitchFunc env context
  | .request r => (r.call env s).1
  | .updateDarkModeCallback isDarkMode userId => s.updateDarkModeCallback env isDarkMode userId
  | .onRemoveSystemAbility => s.onRemoveSystemAbility
  | .onAddSystemAbility => s.onAddSystemAbility env
  | .settingWritten userId key value => s.settingWritten userId key value

/-- The configurations that were sent between two states, newest first. -/
def sent (s s' : Service) : List (Configuration × List ℤ) :=
  s'.appearance.configurations.take
    (s'.appearance.configurations.length - s.appearance.configurations.length)

/-- An update reaches the users it is addressed to, and no others. -/
def update (message : Configuration × List ℤ) (shown : ℤ → Configuration) : ℤ → Configuration :=
  fun userId => if userId ∈ message.2 then message.1.merge (shown userId) else shown userId

/-- A restart of the application manager loses what it held. -/
def next (w : World) (e : Env × Move) : World where
  service := act w.service e.1 e.2
  shown :=
    match e.2 with
    | .onRemoveSystemAbility => fun _ => {}
    | _ => (sent w.service (act w.service e.1 e.2)).foldr update w.shown

/-- The application manager is there and takes every update. -/
structure Healthy (env : Env) : Prop where
  appManager : env.appManager = true
  updateConfiguration : ∀ userIds, env.updateConfiguration userIds = true

/-- After a switch the user's applications show the entry of the context. -/
def Shown (w : World) (e : Env × Move) : Prop :=
  ∀ context, e.2 = .accountContextSwitchFunc context →
    ∃ param, (next w e).service.usersParam context = some param ∧
      (next w e).shown context.userId = .ofParam param

/-- The switch is to a sub-profile or to a context of user 0, it is the first since the
application manager started, its settings change the colour, or the entry is shown already. -/
def Told (w : World) (e : Env × Move) : Prop :=
  ∀ context, e.2 = .accountContextSwitchFunc context →
    context.isSubProfileContext = true ∨ context.userId = user0 ∨
      w.service.onceFlag context = false ∨
      (∃ isDarkMode, w.service.settledColor e.1 context = some isDarkMode ∧
        (w.service.paramOf e.1 context).darkMode ≠ .ofColor isDarkMode) ∨
      w.shown context.userId = .ofParam (w.service.paramOf e.1 context)

/-- Only an initialised service has told anybody. -/
def Inv (s : Service) : Prop :=
  ∀ context, s.onceFlag context = true → s.isInitializationFinished = true

variable {env : Env} {s s' : Service} {context : AccountContext}

section Sending

theorem sent_eq {news : List (Configuration × List ℤ)}
    (h : s'.appearance.configurations = news ++ s.appearance.configurations) :
    sent s s' = news := by
  unfold sent
  rw [h, List.length_append, Nat.add_sub_cancel, List.take_left]

/-- The user a configuration of a context is addressed to. -/
def addressee (s : Service) (context : AccountContext) (isForceUpdate : Bool) : ℤ :=
  if isForceUpdate || !s.onceFlag context then context.userId else user0

/-- One configuration goes to the application manager, if it is there and takes it. -/
theorem configurations_updateCurrentUserConfiguration_eq (env : Env) (s : Service)
    (context : AccountContext) (isForceUpdate : Bool) :
    (s.updateCurrentUserConfiguration env context isForceUpdate).appearance.configurations =
      (if env.appManager && env.updateConfiguration [addressee s context isForceUpdate] then
        [(.ofParam (s.paramOf env context), [addressee s context isForceUpdate])] else []) ++
        s.appearance.configurations := by
  unfold updateCurrentUserConfiguration addressee
  dsimp only
  cases env.appManager with
  | false => rfl
  | true =>
    rw [Bool.true_and, Bool.not_true, if_neg Bool.false_ne_true]
    simp only [configurations_setParameterWrap]
    split_ifs <;> rfl

theorem configurations_updateCurrentUserConfiguration (h : Healthy env) (isForceUpdate : Bool) :
    (s.updateCurrentUserConfiguration env context isForceUpdate).appearance.configurations =
      (.ofParam (s.paramOf env context), [addressee s context isForceUpdate]) ::
        s.appearance.configurations := by
  rw [configurations_updateCurrentUserConfiguration_eq, h.appManager, h.updateConfiguration]
  rfl

end Sending

section Switch

theorem configurations_accountContextSwitchFunc_eq (env : Env) (s : Service)
    (context : AccountContext) :
    (s.accountContextSwitchFunc env context).appearance.configurations =
      (if env.appManager &&
          env.updateConfiguration [addressee s context (s.switchForced env context)] then
        [(.ofParam (s.switchedParam env context),
          [addressee s context (s.switchForced env context)])] else []) ++
        s.appearance.configurations := by
  obtain ⟨hconfigurations, honce⟩ := told_switchAdopted env s context
  have haddressee (isForceUpdate : Bool) : addressee (s.switchAdopted env context) context
      isForceUpdate = addressee s context isForceUpdate := by
    unfold addressee
    rw [honce]
  rw [accountContextSwitchFunc_eq, configurations_updateCurrentUserConfiguration_eq,
    paramOf_switchAdopted, hconfigurations, haddressee]

theorem configurations_accountContextSwitchFunc (h : Healthy env) :
    (s.accountContextSwitchFunc env context).appearance.configurations =
      (.ofParam (s.switchedParam env context),
        [addressee s context (s.switchForced env context)]) :: s.appearance.configurations := by
  rw [configurations_accountContextSwitchFunc_eq, h.appManager, h.updateConfiguration]
  rfl

theorem shown_next_switch (h : Healthy env) (w : World) :
    (next w (env, .accountContextSwitchFunc context)).shown =
      update (.ofParam (w.service.switchedParam env context),
        [if w.service.switchForced env context || !w.service.onceFlag context then context.userId
          else user0]) w.shown := by
  have hsent : sent w.service (w.service.accountContextSwitchFunc env context) =
      [(.ofParam (w.service.switchedParam env context),
        [if w.service.switchForced env context || !w.service.onceFlag context then context.userId
          else user0])] :=
    sent_eq (configurations_accountContextSwitchFunc h)
  change (sent w.service (w.service.accountContextSwitchFunc env context)).foldr update w.shown = _
  rw [hsent]
  rfl

/-- A switch that is not told to the user leaves the entry as it was. -/
theorem switchedParam_of_not_forced (hforced : s.switchForced env context = false) :
    s.switchedParam env context = (s.switchPrepared env context).paramOf env context := by
  unfold switchForced at hforced
  unfold switchedParam
  cases hsettled : s.settledColor env context with
  | none => rfl
  | some isDarkMode =>
    rw [hsettled] at hforced
    simp only [Bool.or_eq_false_iff, decide_eq_false_iff_not, not_not] at hforced
    dsimp only
    rw [← hforced.1]

theorem switchForced_iff (env : Env) (context : AccountContext)
    (hfinished : s.isInitializationFinished = true) :
    s.switchForced env context = true ↔ context.isSubProfileContext = true ∨
      ∃ isDarkMode, s.settledColor env context = some isDarkMode ∧
        (s.paramOf env context).darkMode ≠ .ofColor isDarkMode := by
  unfold switchForced
  rw [paramOf_switchPrepared hfinished, Bool.or_eq_true, or_comm]
  cases s.settledColor env context <;> simp

theorem shown_switch_iff (h : Healthy env) (w : World) (hw : Inv w.service) :
    Shown w (env, .accountContextSwitchFunc context) ↔
      Told w (env, .accountContextSwitchFunc context) := by
  have hentry : (next w (env, .accountContextSwitchFunc context)).service.usersParam context =
      some (w.service.switchedParam env context) := by
    change (w.service.accountContextSwitchFunc env context).usersParam context = _
    rw [usersParam_accountContextSwitchFunc, Table.put_self]
  have hshown : Shown w (env, .accountContextSwitchFunc context) ↔
      (next w (env, .accountContextSwitchFunc context)).shown context.userId =
        .ofParam (w.service.switchedParam env context) := by
    constructor
    · intro hall
      obtain ⟨param, hparam, heq⟩ := hall context rfl
      rw [hentry] at hparam
      rw [heq, Option.some.inj hparam]
    · intro heq context' hcontext
      obtain rfl := Move.accountContextSwitchFunc.inj hcontext
      exact ⟨_, hentry, heq⟩
  have htold : Told w (env, .accountContextSwitchFunc context) ↔
      context.isSubProfileContext = true ∨ context.userId = user0 ∨
        w.service.onceFlag context = false ∨
        (∃ isDarkMode, w.service.settledColor env context = some isDarkMode ∧
          (w.service.paramOf env context).darkMode ≠ .ofColor isDarkMode) ∨
        w.shown context.userId = .ofParam (w.service.paramOf env context) := by
    constructor
    · exact fun hall => hall context rfl
    · intro hcase context' hcontext
      obtain rfl := Move.accountContextSwitchFunc.inj hcontext
      exact hcase
  rw [hshown, htold, shown_next_switch h]
  unfold update
  cases honce : w.service.onceFlag context with
  | false => simp
  | true =>
    have hfinished := hw context honce
    have hforced := switchForced_iff env context hfinished
    cases hforce : w.service.switchForced env context with
    | true =>
      rw [hforce] at hforced
      have htold := hforced.mp rfl
      simp only [Bool.true_or, if_true, List.mem_singleton, Configuration.merge_ofParam, true_iff]
      rcases htold with hsub | hcolor
      · exact .inl hsub
      · exact .inr (.inr (.inr (.inl hcolor)))
    | false =>
      rw [hforce] at hforced
      obtain ⟨hsub, hcolor⟩ := not_or.mp (mt hforced.mpr Bool.false_ne_true)
      rw [switchedParam_of_not_forced hforce, paramOf_switchPrepared hfinished, or_iff_right hsub]
      by_cases huser : context.userId = user0
      · simp [huser]
      · have hother : ¬(context.userId ∈ [if (false || !true) = true then context.userId
            else user0]) := List.mem_singleton.not.mpr huser
        rw [if_neg hother, or_iff_right huser, or_iff_right (by decide), or_iff_right hcolor]

end Switch

section Run

theorem isInitializationFinished_accountContextSwitchFunc :
    (s.accountContextSwitchFunc env context).isInitializationFinished = true := by
  have hprepared : (s.switchPrepared env context).isInitializationFinished = true := by
    unfold switchPrepared
    dsimp only
    split_ifs with hneed hdone hdone
    · exact hdone
    · rfl
    · exact hdone
    · rfl
  rw [accountContextSwitchFunc_eq, isInitializationFinished_updateCurrentUserConfiguration,
    ← hprepared]
  unfold switchAdopted
  split_ifs <;> rfl

theorem inv_of_flags (h : s'.flags = s.flags) (hs : Inv s) : Inv s' := by
  intro context honce
  have honce' : s'.onceFlag = s.onceFlag := congrArg (·.2.2) h
  have hfinished : s'.isInitializationFinished = s.isInitializationFinished := congrArg (·.2.1) h
  rw [hfinished]
  exact hs context (honce' ▸ honce)

theorem inv_onAddSystemAbility (hs : Inv s) (env : Env) : Inv (s.onAddSystemAbility env) := by
  have hmigrated (s : Service) (hs : Inv s) : Inv (s.doCompatibleProcess env) := by
    intro context honce
    rw [onceFlag_of_beyondStores (beyondStores_doCompatibleProcess env s)] at honce
    rw [isInitializationFinished_doCompatibleProcess]
    exact hs context honce
  unfold onAddSystemAbility
  dsimp only
  split_ifs
  · intro context _
    rw [isInitializationFinished_updateCurrentUserConfiguration]
    rfl
  · exact hmigrated _ hs
  · intro context _
    rw [isInitializationFinished_updateCurrentUserConfiguration]
    rfl
  · exact hs

theorem inv_next {w : World} {e : Env × Move} (hw : Inv w.service) : Inv (next w e).service := by
  obtain ⟨env, move⟩ := e
  cases move with
  | accountContextSwitchFunc context =>
    exact fun _ _ => isInitializationFinished_accountContextSwitchFunc
  | request r => exact inv_of_flags (flags_call env w.service r) hw
  | updateDarkModeCallback isDarkMode userId =>
    exact inv_of_flags (flags_updateDarkModeCallback env w.service isDarkMode userId) hw
  | onRemoveSystemAbility => exact fun _ honce => absurd honce Bool.false_ne_true
  | onAddSystemAbility => exact inv_onAddSystemAbility hw env
  | settingWritten userId key value => exact hw

/-- In every run of a fresh process, every switch shows its context exactly if it is told. -/
theorem shown_along_iff {parameters : Table String String} {tables : ℤ → Table String String}
    {shown : ℤ → Configuration} {run : List (Env × Move)} (hrun : ∀ e ∈ run, Healthy e.1) :
    Along next Shown ⟨start parameters tables, shown⟩ run ↔
      Along next Told ⟨start parameters tables, shown⟩ run := by
  refine along_iff_of_invariant (I := fun w => Inv w.service) (fun w e hw _ _ => inv_next hw)
    (fun w e hw henv => ?_) (fun _ honce => absurd honce Bool.false_ne_true)
    (along_of_forall (P := fun e => Healthy e.1) hrun)
  obtain ⟨env, move⟩ := e
  cases move with
  | accountContextSwitchFunc context => exact shown_switch_iff henv w hw
  | _ => exact iff_of_true nofun nofun

end Run

/-- An account with a sub-profile, and what they are stored with: only the latter is dark. -/
def profileEnv : Env := { noon with subProfileIds := fun _ => [1] }

def profile : AccountContext := ⟨100, 1⟩

def darkProfile : Table String String := Table.empty.put (darkModeParamAssignUser profile) dark

def visitedWorld : World := ⟨start darkProfile fun _ => Table.empty, fun _ => {}⟩

def firstVisits : List (Env × Move) :=
  [(profileEnv, .onAddSystemAbility), (profileEnv, .accountContextSwitchFunc account),
    (profileEnv, .accountContextSwitchFunc profile)]

theorem firstVisits_shown : Along next Shown visitedWorld firstVisits ↔
    Along next Told visitedWorld firstVisits := by
  refine shown_along_iff fun e he => ?_
  have henv : e.1 = profileEnv := by
    simp only [firstVisits, List.mem_cons, List.not_mem_nil, or_false] at he
    rcases he with rfl | rfl | rfl <;> rfl
  rw [henv]
  exact ⟨rfl, fun _ => rfl⟩

/-- Back at the account the applications keep the colour of the sub-profile. -/
theorem back_not_shown :
    Healthy profileEnv ∧ ¬Along next Shown visitedWorld
      (firstVisits ++ [(profileEnv, .accountContextSwitchFunc account)]) := by
  refine ⟨⟨rfl, fun _ => rfl⟩, ?_⟩
  rintro ⟨-, -, -, hback, -⟩
  obtain ⟨param, hparam, hshown⟩ := hback account rfl
  have hentry : param = {} := by
    refine Option.some.inj (hparam.symm.trans ?_)
    decide +kernel
  subst hentry
  exact absurd hshown (by decide +kernel)

end ShownConfiguration
end UiAppearance
