import UiAppearance.Ability.Migration

/-!
# The mark of the migration

Migration and initialisation ask for the created accounts themselves, and what
they do is marked as done whatever the answer was. Where the answers are the
created accounts and the values can be written, the marks are true for good.
-/

namespace UiAppearance
namespace MigrationMark

open Service Transition Scenario

inductive Occasion where
  | onAddSystemAbility
  | accountContextSwitchFunc (context : AccountContext)
  | settingWritten (userId : ℤ) (key : String) (value : Option String)
  | rebooted

/-- An event, the answers of the system during it, and the accounts that are created by then. -/
structure Moment where
  env : Env
  accounts : List ℤ
  occasion : Occasion

def Moment.contexts (m : Moment) : List AccountContext :=
  AccountContext.getContextsByUserIds m.env m.accounts

def next (s : Service) (m : Moment) : Service :=
  match m.occasion with
  | .onAddSystemAbility => s.onAddSystemAbility m.env
  | .accountContextSwitchFunc context => s.accountContextSwitchFunc m.env context
  | .settingWritten userId key value => s.settingWritten userId key value
  | .rebooted => { start s.parameters s.settingDataManager.tables with trace := s.trace }

/-- The event runs `DoCompatibleProcess`. Only one of the two ways there asks for accounts first. -/
def migrates (s : Service) (m : Moment) : Bool :=
  match m.occasion with
  | .onAddSystemAbility =>
    decide ((s.getParameterWrap firstInitialization "0").getD "0" = "1") &&
      !(getUserIds m.env .beforeMigration).isEmpty
  | .accountContextSwitchFunc _ => s.isNeedDoCompatibleProcess
  | _ => false

/-- The event runs `DoInitProcess`. -/
def initialises (s : Service) (m : Moment) : Bool :=
  match m.occasion with
  | .onAddSystemAbility =>
    !s.isInitializationFinished && !(getUserIds m.env .beforeInitialization).isEmpty
  | .accountContextSwitchFunc _ => !s.isInitializationFinished
  | _ => false

def Marked (s : Service) : Prop := s.parameters firstInitialization = some "0"

instance (s : Service) : Decidable (Marked s) := inferInstanceAs (Decidable (_ = some "0"))

/-- Every context of a created account, when it is not set already, is among those the migration is
told of, there is an old value, and it can be written; the initialisation is told of them all. -/
def Answered (s : Service) (m : Moment) : Prop :=
  (migrates s m = true → m.env.setParameter firstInitialization "0" = true →
    ∀ context ∈ m.contexts, ∀ item : AppearanceItem,
      s.IsSet (item.paramAssignUser context) ∨
        context ∈ AccountContext.getContextsByUserIds m.env (getUserIds m.env .migration) ∧
          ∃ value ∈ s.migratedValue m.env item,
            m.env.setParameter (item.paramAssignUser context) value = true) ∧
  (initialises s m = true → ∀ context ∈ m.contexts,
    context ∈ AccountContext.getContextsByUserIds m.env (getUserIds m.env .initialization))

/-- The entry of a context is what was loaded, but for the colour once it was switched to. -/
def HasLoaded (s : Service) (context : AccountContext) (loaded : AppearanceItem → String)
    (switched : Prop) : Prop :=
  ∃ param, s.usersParam context = some param ∧
    (∀ item, item ≠ AppearanceItem.darkMode → item.valueOf param = loaded item) ∧
    (AppearanceItem.darkMode.valueOf param = loaded .darkMode ∨ switched)

/-- What the marks promise, when they are set by `m` and looked at after `post`. -/
def Done (s : Service) (m : Moment) (post : List Moment) : Prop :=
  (¬Marked s → Marked (next s m) → ∀ context ∈ m.contexts, ∀ item : AppearanceItem,
    (exec next s (m :: post)).IsSet (item.paramAssignUser context)) ∧
  (s.isInitializationFinished = false → (next s m).isInitializationFinished = true →
    (∀ m' ∈ post, m'.occasion ≠ .rebooted) → ∀ context ∈ m.contexts,
      HasLoaded (exec next s (m :: post)) context ((next s m).load m.env context)
        (∃ m' ∈ m :: post, m'.occasion = .accountContextSwitchFunc context))

section Around

variable {env : Env} {s s' s'' : Service} {switched : AccountContext → Prop}

/-- What happens around the two processes: the parameters of contexts and the mark stay, and an
entry changes its colour at most, by a switch. -/
structure Follows (switched : AccountContext → Prop) (s s' : Service) : Prop where
  parameters : ∀ key, isTemporaryParam key = false →
    (∀ item : AppearanceItem, key ≠ item.globalParam) → s'.parameters key = s.parameters key
  entries : ∀ context param, s.usersParam context = some param →
    ∃ param', s'.usersParam context = some param' ∧
      (∀ item, item ≠ AppearanceItem.darkMode → item.valueOf param' = item.valueOf param) ∧
      (param' = param ∨ switched context)
  finished : s'.isInitializationFinished = s.isInitializationFinished

theorem Follows.trans (h : Follows switched s s') (h' : Follows switched s' s'') :
    Follows switched s s'' where
  parameters := by
    intro key htemporary hglobal
    rw [h'.parameters key htemporary hglobal, h.parameters key htemporary hglobal]
  entries := by
    intro context param hparam
    obtain ⟨param', hparam', hfonts, hcolor⟩ := h.entries context param hparam
    obtain ⟨param'', hparam'', hfonts', hcolor'⟩ := h'.entries context param' hparam'
    refine ⟨param'', hparam'', fun item hitem => (hfonts' item hitem).trans (hfonts item hitem), ?_⟩
    rcases hcolor' with rfl | hswitched
    · exact hcolor
    · exact .inr hswitched
  finished := h'.finished.trans h.finished

theorem Follows.mono {switched' : AccountContext → Prop} (h : Follows switched s s')
    (hmono : ∀ context, switched context → switched' context) : Follows switched' s s' where
  parameters := h.parameters
  entries := by
    intro context param hparam
    obtain ⟨param', hparam', hfonts, hcolor⟩ := h.entries context param hparam
    exact ⟨param', hparam', hfonts, hcolor.imp_right (hmono context)⟩
  finished := h.finished

theorem Follows.of_eq (hparameters : ∀ key, isTemporaryParam key = false →
      (∀ item : AppearanceItem, key ≠ item.globalParam) → s'.parameters key = s.parameters key)
    (husers : s'.usersParam = s.usersParam)
    (hfinished : s'.isInitializationFinished = s.isInitializationFinished) :
    Follows switched s s' where
  parameters := hparameters
  entries := fun context param hparam =>
    ⟨param, by rw [husers, hparam], fun _ _ => rfl, .inl rfl⟩
  finished := hfinished

theorem Follows.of_appearance (h : s'.appearance = s.appearance) : Follows switched s s' :=
  .of_eq (fun _ htemporary _ => parameters_of_appearance h htemporary) (usersParam_of_appearance h)
    (congrArg Appearance.isInitializationFinished h)

theorem follows_updateCurrentUserConfiguration (context : AccountContext) (isForceUpdate : Bool) :
    Follows switched s (s.updateCurrentUserConfiguration env context isForceUpdate) where
  parameters := fun _ _ hglobal =>
    parameters_updateCurrentUserConfiguration env s context isForceUpdate hglobal
  entries := by
    intro c param hparam
    refine ⟨param, ?_, fun _ _ => rfl, .inl rfl⟩
    rw [usersParam_updateCurrentUserConfiguration]
    by_cases hsame : c = context
    · subst hsame
      rw [Table.put_self, paramOf, Table.valueAt_of_some hparam]
    · rw [Table.put_of_ne hsame, hparam]
  finished := isInitializationFinished_updateCurrentUserConfiguration ..

/-- A switch goes on from the state it has prepared. -/
theorem follows_accountContextSwitchFunc (env : Env) (s : Service) (context : AccountContext) :
    Follows (· = context) (s.switchPrepared env context)
      (s.accountContextSwitchFunc env context) where
  parameters := fun _ _ hglobal => parameters_accountContextSwitchFunc env s context hglobal
  entries := by
    intro c param hparam
    rw [usersParam_accountContextSwitchFunc]
    by_cases hsame : c = context
    · subst hsame
      refine ⟨_, Table.put_self, fun item hitem => ?_, .inr rfl⟩
      unfold switchedParam paramOf
      rw [Table.valueAt_of_some hparam]
      cases s.settledColor env c with
      | none => rfl
      | some isDarkMode => cases item <;> first | rfl | exact absurd rfl hitem
    · exact ⟨param, by rw [Table.put_of_ne hsame, hparam], fun _ _ => rfl, .inl rfl⟩
  finished := by
    rw [accountContextSwitchFunc_eq, isInitializationFinished_updateCurrentUserConfiguration]
    unfold switchAdopted
    split_ifs <;> rfl

theorem Follows.isSet_iff (h : Follows switched s s') (item : AppearanceItem)
    (context : AccountContext) :
    s'.IsSet (item.paramAssignUser context) ↔ s.IsSet (item.paramAssignUser context) :=
  isSet_congr (h.parameters _ (item.isTemporaryParam_paramAssignUser context)
    fun item' => item.paramAssignUser_ne_globalParam item' context)

theorem Follows.load_eq (h : Follows switched s s') (env : Env) (context : AccountContext)
    (item : AppearanceItem) : s'.load env context item = s.load env context item :=
  load_congr (fun c => h.parameters _ (item.isTemporaryParam_paramAssignUser c)
      fun item' => item.paramAssignUser_ne_globalParam item' c)
    (h.parameters _ (by decide) fun item' => item'.globalParam_ne_standard.symm)

theorem Follows.marked_iff (h : Follows switched s s') : Marked s' ↔ Marked s := by
  unfold Marked
  rw [h.parameters _ (by decide) fun item => item.globalParam_ne_first.symm]

end Around

section Moments

variable {s : Service} {m : Moment}

def migrated (env : Env) (s : Service) (migrates : Bool) : Service :=
  if migrates then s.doCompatibleProcess env else s

/-- The two processes, as far as they are run. -/
def process (env : Env) (s : Service) (migrates initialises : Bool) : Service :=
  if initialises then (migrated env s migrates).doInitProcess env else migrated env s migrates

theorem isInitializationFinished_migrated (env : Env) (s : Service) (migrates : Bool) :
    (migrated env s migrates).isInitializationFinished = s.isInitializationFinished := by
  cases migrates with
  | true => exact isInitializationFinished_doCompatibleProcess env s
  | false => rfl

/-- What `OnAddSystemAbility` does before it asks for accounts. -/
def upgradeChecked (s : Service) : Service :=
  { s with isNeedDoCompatibleProcess :=
      decide ((s.getParameterWrap firstInitialization "0").getD "0" = "1") }.initializeManager

theorem onAddSystemAbility_eq (env : Env) (accounts : List ℤ) {m : Moment}
    (hm : m = ⟨env, accounts, .onAddSystemAbility⟩) :
    s.onAddSystemAbility env =
      if initialises s m then
        (process env (upgradeChecked s) (migrates s m) true).updateCurrentUserConfiguration env
          (.getForegroundContext env (env.foregroundOsAccountLocalId.getD user100)) false
      else process env (upgradeChecked s) (migrates s m) false := by
  subst hm
  have hfinished := isInitializationFinished_migrated env (upgradeChecked s)
    (migrates s ⟨env, accounts, .onAddSystemAbility⟩)
  change _ = s.isInitializationFinished at hfinished
  unfold initialises
  dsimp only
  rw [← hfinished]
  rfl

theorem switchPrepared_eq (env : Env) (context : AccountContext) :
    ∃ base, base.appearance = s.appearance ∧ s.switchPrepared env context =
      process env base s.isNeedDoCompatibleProcess (!s.isInitializationFinished) := by
  have hloaded := appearance_switchLoaded env s context
  refine ⟨_, hloaded, ?_⟩
  have hneed := congrArg Appearance.isNeedDoCompatibleProcess hloaded
  change Service.isNeedDoCompatibleProcess _ = s.isNeedDoCompatibleProcess at hneed
  have hfinished := (isInitializationFinished_migrated env _ s.isNeedDoCompatibleProcess).trans
    (congrArg Appearance.isInitializationFinished hloaded)
  change _ = s.isInitializationFinished at hfinished
  unfold switchPrepared process
  dsimp only
  rw [hneed, ← hfinished]
  unfold migrated
  cases Service.isInitializationFinished _ with
  | true => rfl
  | false => rfl

/-- Whatever an event does besides, it begins where it is and goes on from what was processed. -/
theorem next_around (h : m.occasion ≠ .rebooted) :
    ∃ base, (∀ key, isTemporaryParam key = false → base.parameters key = s.parameters key) ∧
      base.isInitializationFinished = s.isInitializationFinished ∧
      base.usersParam = s.usersParam ∧
      Follows (fun context => m.occasion = .accountContextSwitchFunc context)
        (process m.env base (migrates s m) (initialises s m)) (next s m) := by
  obtain ⟨env, accounts, occasion⟩ := m
  cases occasion with
  | onAddSystemAbility =>
    refine ⟨upgradeChecked s, fun _ _ => rfl, rfl, rfl, ?_⟩
    change Follows _ _ (s.onAddSystemAbility env)
    rw [onAddSystemAbility_eq env accounts rfl]
    cases initialises s ⟨env, accounts, .onAddSystemAbility⟩ with
    | true => exact follows_updateCurrentUserConfiguration _ false
    | false => exact .of_appearance rfl
  | accountContextSwitchFunc context =>
    obtain ⟨base, hbase, hprepared⟩ := switchPrepared_eq (s := s) env context
    refine ⟨base, fun _ => parameters_of_appearance hbase,
      congrArg Appearance.isInitializationFinished hbase, usersParam_of_appearance hbase, ?_⟩
    have hfollows := follows_accountContextSwitchFunc env s context
    rw [hprepared] at hfollows
    exact hfollows.mono fun c hc => by rw [hc]
  | settingWritten userId key value =>
    exact ⟨s, fun _ _ => rfl, rfl, rfl, .of_appearance rfl⟩
  | rebooted => exact absurd rfl h

end Moments

section Marks

variable {env : Env} {s : Service} {m : Moment} {context : AccountContext}

theorem mark_process (env : Env) (s : Service) (migrates initialises : Bool) :
    Marked (process env s migrates initialises) ↔
      Marked s ∨ migrates = true ∧ env.setParameter firstInitialization "0" = true := by
  have hinit : (process env s migrates initialises).parameters firstInitialization =
      (migrated env s migrates).parameters firstInitialization := by
    unfold process
    split_ifs
    · exact parameters_doInitProcess_of_ne env _
        fun item context => (item.paramAssignUser_ne_first context).symm
    · rfl
  unfold Marked
  rw [hinit]
  cases migrates with
  | false => simp [migrated]
  | true =>
    change (s.doCompatibleProcess env).parameters firstInitialization = some "0" ↔ _
    rw [mark_doCompatibleProcess]
    split_ifs with hwrite
    · simp [hwrite]
    · simp [hwrite]

theorem isSet_process {key : String} (migrates initialises : Bool)
    (h : (migrated env s migrates).IsSet key) : (process env s migrates initialises).IsSet key := by
  unfold process
  split_ifs
  · exact isSet_doInitProcess env _ h
  · exact h

/-- No event unsets a parameter of a context. -/
theorem isSet_next (m : Moment) (item : AppearanceItem)
    (h : s.IsSet (item.paramAssignUser context)) :
    (next s m).IsSet (item.paramAssignUser context) := by
  by_cases hreboot : m.occasion = .rebooted
  · have hnext : next s m =
        { start s.parameters s.settingDataManager.tables with trace := s.trace } := by
      unfold next
      rw [hreboot]
    rw [hnext]
    exact h
  · obtain ⟨base, hbase, -, -, hfollows⟩ := next_around (s := s) hreboot
    have hset : base.IsSet (item.paramAssignUser context) :=
      (isSet_congr (hbase _ (item.isTemporaryParam_paramAssignUser context))).mpr h
    rw [hfollows.isSet_iff]
    refine isSet_process _ _ ?_
    unfold migrated
    split_ifs
    · exact (isSet_doCompatibleProcess_iff ..).mpr (.inl hset)
    · exact hset

/-- The step that marks the migration as done has done it. -/
theorem isSet_of_marked (hanswered : Answered s m) (hnot : ¬Marked s) (hmarked : Marked (next s m))
    (hcontext : context ∈ m.contexts) (item : AppearanceItem) :
    (next s m).IsSet (item.paramAssignUser context) := by
  have hreboot : m.occasion ≠ .rebooted := by
    intro hreboot
    refine hnot ?_
    unfold next at hmarked
    rw [hreboot] at hmarked
    exact hmarked
  obtain ⟨base, hbase, -, -, hfollows⟩ := next_around (s := s) hreboot
  have hsame (key : String) (htemporary : isTemporaryParam key = false) :
      base.parameters key = s.parameters key := hbase key htemporary
  rw [hfollows.marked_iff, mark_process] at hmarked
  obtain ⟨hmigrates, hwrite⟩ : migrates s m = true ∧ _ := by
    refine hmarked.resolve_left fun hmarked => hnot ?_
    unfold Marked at hmarked ⊢
    rwa [← hsame _ (by decide)]
  rw [hfollows.isSet_iff, hmigrates]
  refine isSet_process _ _ ?_
  change (base.doCompatibleProcess m.env).IsSet _
  rw [isSet_doCompatibleProcess_iff]
  have hvalue : base.migratedValue m.env item = s.migratedValue m.env item := by
    have hglobal := hsame item.globalParam (by cases item <;> decide)
    have hstandard := hsame standardFontWeight (by decide)
    unfold migratedValue
    rw [getParameterWrap_congr hglobal]
    refine congrArg (fun f => Option.map f _) (funext fun value => ?_)
    cases item with
    | fontWeightScale =>
      change getDefaultFontWeightScaleValue m.env _ value = getDefaultFontWeightScaleValue ..
      unfold getDefaultFontWeightScaleValue
      rw [getParameterWrap_congr hstandard]
    | darkMode => rfl
    | fontScale => rfl
  rw [hvalue]
  refine (hanswered.1 hmigrates hwrite context hcontext item).imp_left fun hset => ?_
  exact (isSet_congr (hsame _ (item.isTemporaryParam_paramAssignUser context))).mpr hset

end Marks

section Loads

variable {env : Env} {s : Service} {m : Moment} {context : AccountContext}

theorem isInitializationFinished_next (hreboot : m.occasion ≠ .rebooted) :
    (next s m).isInitializationFinished =
      (s.isInitializationFinished || initialises s m) := by
  obtain ⟨base, -, hfinished, -, hfollows⟩ := next_around (s := s) hreboot
  rw [hfollows.finished]
  unfold process
  split_ifs with hinit
  · rw [hinit, Bool.or_true]
    rfl
  · rw [isInitializationFinished_migrated, hfinished]
    simp [hinit]

theorem not_initialises (h : s.isInitializationFinished = true) : initialises s m = false := by
  unfold initialises
  rw [h]
  cases m.occasion <;> rfl

/-- The step that finishes the initialisation has loaded what it was told of. -/
theorem hasLoaded_of_initialises (hreboot : m.occasion ≠ .rebooted)
    (hinit : initialises s m = true)
    (hcontext : context ∈ AccountContext.getContextsByUserIds m.env
      (getUserIds m.env .initialization)) :
    HasLoaded (next s m) context ((next s m).load m.env context)
      (m.occasion = .accountContextSwitchFunc context) := by
  obtain ⟨base, -, -, -, hfollows⟩ := next_around (s := s) hreboot
  rw [hinit] at hfollows
  have hprocess : process m.env base (migrates s m) true =
      (migrated m.env base (migrates s m)).doInitProcess m.env := rfl
  have hentry := usersParam_doInitProcess m.env (migrated m.env base (migrates s m)) context
  rw [if_pos hcontext, ← loadedParam_doInitProcess, ← hprocess] at hentry
  obtain ⟨param, hparam, hfonts, hcolor⟩ := hfollows.entries context _ hentry
  have hload (item : AppearanceItem) := hfollows.load_eq m.env context item
  refine ⟨param, hparam, fun item hitem => ?_, hcolor.imp_left fun hsame => ?_⟩
  · rw [hfonts item hitem, valueOf_loadedParam, hload]
  · rw [hsame, valueOf_loadedParam, hload]

/-- Later events keep it, but for the colour after a switch. -/
theorem hasLoaded_next {loaded : AppearanceItem → String} {switched : Prop}
    (hfinished : s.isInitializationFinished = true) (hreboot : m.occasion ≠ .rebooted)
    (h : HasLoaded s context loaded switched) :
    HasLoaded (next s m) context loaded
      (switched ∨ m.occasion = .accountContextSwitchFunc context) := by
  obtain ⟨base, -, -, husers, hfollows⟩ := next_around (s := s) hreboot
  have hprocess : (process m.env base (migrates s m) (initialises s m)).usersParam =
      s.usersParam := by
    rw [not_initialises hfinished, ← husers]
    change (migrated m.env base (migrates s m)).usersParam = _
    unfold migrated
    split_ifs
    · exact usersParam_doCompatibleProcess m.env base
    · rfl
  obtain ⟨param, hparam, hfonts, hcolor⟩ := h
  rw [← hprocess] at hparam
  obtain ⟨param', hparam', hfonts', hcolor'⟩ := hfollows.entries context param hparam
  refine ⟨param', hparam', fun item hitem => (hfonts' item hitem).trans (hfonts item hitem), ?_⟩
  rcases hcolor' with rfl | hswitched
  · exact hcolor.imp_right .inl
  · exact .inr (.inr hswitched)

theorem hasLoaded_exec {loaded : AppearanceItem → String} {switched : Prop} (post : List Moment)
    (hfinished : s.isInitializationFinished = true)
    (hreboot : ∀ m ∈ post, m.occasion ≠ .rebooted) (h : HasLoaded s context loaded switched) :
    HasLoaded (exec next s post) context loaded
      (switched ∨ ∃ m ∈ post, m.occasion = .accountContextSwitchFunc context) := by
  induction post generalizing s switched with
  | nil =>
    obtain ⟨param, hparam, hfonts, hcolor⟩ := h
    exact ⟨param, hparam, hfonts, hcolor.imp_right .inl⟩
  | cons m post ih =>
    have hm := hreboot m List.mem_cons_self
    have hnext := isInitializationFinished_next (s := s) hm
    rw [hfinished, Bool.true_or] at hnext
    have hrest := ih hnext (fun m' hm' => hreboot m' (List.mem_cons_of_mem m hm'))
      (hasLoaded_next hfinished hm h)
    simpa [or_assoc] using hrest

end Loads

section Runs

variable {s : Service}

theorem isSet_exec {context : AccountContext} (item : AppearanceItem) (es : List Moment)
    (h : s.IsSet (item.paramAssignUser context)) :
    (exec next s es).IsSet (item.paramAssignUser context) := by
  induction es generalizing s with
  | nil => exact h
  | cons m es ih => exact ih (isSet_next m item h)

theorem done_of_answered {m : Moment} (h : Answered s m) (post : List Moment) : Done s m post := by
  refine ⟨fun hnot hmarked context hcontext item => ?_,
    fun hfinished hnext hpost context hcontext => ?_⟩
  · exact isSet_exec item post (isSet_of_marked h hnot hmarked hcontext item)
  · have hreboot : m.occasion ≠ .rebooted := by
      intro hreboot
      unfold next at hnext
      rw [hreboot] at hnext
      exact Bool.false_ne_true hnext
    have hinit : initialises s m = true := by
      rwa [isInitializationFinished_next hreboot, hfinished, Bool.false_or] at hnext
    have hloaded := hasLoaded_exec post hnext hpost
      (hasLoaded_of_initialises hreboot hinit (h.2 hinit context hcontext))
    simpa using hloaded

/-- In every run whose queries are answered, what has been marked as done has been done. -/
theorem done_along (s : Service) (pre : List Moment) (m : Moment) (post : List Moment)
    (h : Along next Answered s (pre ++ m :: post)) : Done (exec next s pre) m post := by
  induction pre generalizing s with
  | nil => exact done_of_answered h.1 post
  | cons m' pre ih => exact ih (next s m') h.2

end Runs

/-- The parameters at the first start after an upgrade: the old colour was dark. -/
def upgraded : String → Option String :=
  (Table.empty.put firstInitialization "1").put AppearanceItem.darkMode.globalParam dark

def noRows : ℤ → String → Option String := fun _ _ => none

def addSystemAbility (env : Env) : Moment := ⟨env, [100], .onAddSystemAbility⟩

def switchTo (env : Env) : Moment := ⟨env, [100], .accountContextSwitchFunc account⟩

/-- The accounts are answered all along. -/
theorem answered_done :
    Along next Answered (start upgraded noRows) ([] ++ addSystemAbility noon :: [switchTo noon]) ∧
      Done (start upgraded noRows) (addSystemAbility noon) [switchTo noon] := by
  have hanswered : Along next Answered (start upgraded noRows)
      ([] ++ addSystemAbility noon :: [switchTo noon]) := by
    refine ⟨⟨fun _ _ context hcontext item => .inr ⟨hcontext, ?_⟩, fun _ _ h => h⟩,
      ⟨fun h => ?_, fun h => ?_⟩, trivial⟩
    · cases item with
      | darkMode => exact ⟨dark, by decide, rfl⟩
      | fontScale => exact ⟨baseScale, by decide, rfl⟩
      | fontWeightScale => exact ⟨baseScale, by decide, rfl⟩
    · exact absurd h (by decide)
    · exact absurd h (by decide)
  exact ⟨hanswered, done_along (start upgraded noRows) [] _ _ hanswered⟩

/-- The account manager fails at every query. -/
def unanswered : Env := { noon with createdOsAccounts := fun _ => [] }

/-- It fails at the last query only. -/
def unansweredAtLast : Env :=
  { noon with createdOsAccounts := fun query => if query = .initialization then [] else [100] }

/-- A switch marks a migration that no account has had; and an initialisation is over that has left
the account with the defaults. -/
theorem unanswered_not_done :
    ¬Done (exec next (start upgraded noRows) [addSystemAbility unanswered])
        (switchTo unanswered) [] ∧
      ¬Done (start upgraded noRows) (addSystemAbility unansweredAtLast) [] := by
  constructor
  · intro h
    have hset := h.1 (by decide) (by decide) account (by decide) .darkMode
    exact absurd hset (by decide)
  · intro h
    have hfinished : (next (start upgraded noRows)
        (addSystemAbility unansweredAtLast)).isInitializationFinished = true := by decide +kernel
    have hpost : ∀ m ∈ ([] : List Moment), m.occasion ≠ .rebooted := by simp
    obtain ⟨param, hparam, -, hcolor⟩ := h.2 rfl hfinished hpost account (by decide)
    have hlight : param = {} := by
      have hentry : (exec next (start upgraded noRows)
        [addSystemAbility unansweredAtLast]).usersParam account = some {} := by decide +kernel
      exact Option.some.inj (hparam.symm.trans hentry)
    subst hlight
    rcases hcolor with hdark | ⟨m, hm, hswitched⟩
    · exact absurd hdark (by decide +kernel)
    · obtain rfl := List.mem_singleton.mp hm
      cases hswitched

end MigrationMark
end UiAppearance
