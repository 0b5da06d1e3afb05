import UiAppearance.Ability.Initialised
import UiAppearance.Ability.StoredAppearance

/-!
# Restart equivalence

The entries in memory against what an initialisation would make of the
parameters. A request, a colour change and a take-over store what they write; a
switch writes the colour of the settings to memory only. Besides, an entry that
is made up on the spot has the defaults, whatever is stored for its context.
-/

namespace UiAppearance
namespace RestartEquivalence

open Service Transition Scenario

/-- The operations on the appearance, and writes to the settings by other processes. -/
inductive Operation where
  | request (r : Request)
  | updateDarkModeCallback (isDarkMode : Bool) (userId : ℤ)
  | accountContextSwitchFunc (context : AccountContext)
  | applyAppearanceContextToUser (sourceContext targetContext : AccountContext)
  | settingWritten (userId : ℤ) (key : String) (value : Option String)

def next (s : Service) (e : Env × Operation) : Service :=
  match e.2 with
  | .request r => (r.call e.1 s).1
  | .updateDarkModeCallback isDarkMode userId => s.updateDarkModeCallback e.1 isDarkMode userId
  | .accountContextSwitchFunc context => s.accountContextSwitchFunc e.1 context
  | .applyAppearanceContextToUser sourceContext targetContext =>
    s.applyAppearanceContextToUser e.1 sourceContext targetContext
  | .settingWritten userId key value => s.settingWritten userId key value

/-- Every parameter can be written, and the font weights that count as valid stay the same. -/
structure Healthy (valid : String → Bool) (env : Env) : Prop where
  setParameter : ∀ paramName value, env.setParameter paramName value = true
  validFontWeightScale : env.validFontWeightScale = valid

/-- The initialisation would make of every context in memory the entry that it has. -/
def Restorable (valid : String → Bool) (s : Service) : Prop :=
  ∀ env, Healthy valid env → ∀ context param, s.usersParam context = some param →
    (s.initContext env context).usersParam context = some param

/-- A value for one item fits what is stored: the contexts without an entry have the defaults
stored for the other items, and a sub-profile that inherits the item shows the value already. -/
def Fits (env : Env) (s : Service) (item : AppearanceItem) (value : String)
    (contexts : List AccountContext) : Prop :=
  (∀ context ∈ contexts, s.usersParam context = none → ∀ other, other ≠ item →
    s.load env context other = s.unstored env other) ∧
  ∀ context param base, s.usersParam context = some param → context ∉ contexts →
    context.parent = some base → base ∈ contexts → s.store.stored item context = none →
      item.valueOf param = item.read value

/-- The condition of a step. A switch finds the colour stored that its settings ask for. -/
def Stores (env : Env) (s : Service) : Operation → Prop
  | .request r => Fits env s r.item r.value (r.reached env s)
  | .updateDarkModeCallback isDarkMode userId =>
    Fits env s .darkMode (colorName isDarkMode) (callbackReached env userId)
  | .accountContextSwitchFunc context =>
    (match s.settledColor env context with
      | some isDarkMode => s.load env context .darkMode = colorName isDarkMode
      | none => s.usersParam context = none →
        s.load env context .darkMode = s.unstored env .darkMode) ∧
      (s.usersParam context = none → ∀ other, other ≠ AppearanceItem.darkMode →
        s.load env context other = s.unstored env other)
  | .applyAppearanceContextToUser sourceContext targetContext =>
    ∀ sourceParam, s.usersParam sourceContext = some sourceParam →
      ∀ context param, s.usersParam context = some param → context ≠ targetContext →
        context.parent = some targetContext → ∀ item, s.store.stored item context = none →
          item.valueOf param = item.valueOf sourceParam
  | .settingWritten .. => True

/-- What every operation preserves. -/
structure Inv (s : Service) : Prop where
  initialised : s.initialised = true
  proper : ∀ context param, s.usersParam context = some param → param.Proper

variable {valid : String → Bool} {env : Env} {s : Service}

theorem loadedParam_congr {env' : Env} (h : Healthy valid env) (h' : Healthy valid env')
    (context : AccountContext) : s.loadedParam env' context = s.loadedParam env context := by
  have hnew : s.newParam env' = s.newParam env := by
    unfold newParam getDefaultFontWeightScaleValue
    rw [h.validFontWeightScale, h'.validFontWeightScale]
  unfold loadedParam load unstored
  rw [hnew]

theorem restorable_iff (h : Healthy valid env) : Restorable valid s ↔
    ∀ context param, s.usersParam context = some param → param = s.loadedParam env context := by
  unfold Restorable
  constructor
  · intro hrestorable context param hparam
    have hentry := hrestorable env h context param hparam
    rw [usersParam_initContext, Table.put_self] at hentry
    exact (Option.some.inj hentry).symm
  · intro hloaded env' h' context param hparam
    rw [usersParam_initContext, Table.put_self, loadedParam_congr h h',
      hloaded context param hparam]

theorem memory_of_entry {context : AccountContext} {param : UiAppearanceParam}
    (h : s.usersParam context = some param) :
    s.store.memory context = some fun item => item.valueOf param := by
  change Option.map _ (s.usersParam context) = _
  rw [h]
  rfl

/-- For entries that a load can yield, this is restorability of the store. -/
theorem restorable_iff_store (h : Healthy valid env) (hs : Inv s) : Restorable valid s ↔
    s.store.Restorable AccountContext.parent (s.unstored env) := by
  have hentry (context : AccountContext) (param : UiAppearanceParam)
      (hparam : s.usersParam context = some param) : param = s.loadedParam env context ↔
      ∀ item : AppearanceItem, item.valueOf param = s.load env context item := by
    rw [(hs.proper context param hparam).ext_iff (s.proper_loadedParam env context)]
    simp only [valueOf_loadedParam]
  rw [restorable_iff h]
  constructor
  · intro hloaded context entry hmemory item
    obtain ⟨param, hparam, rfl⟩ := Option.map_eq_some_iff.mp hmemory
    exact (hentry context param hparam).mp (hloaded context param hparam) item
  · intro hrestorable context param hparam
    refine (hentry context param hparam).mpr fun item => ?_
    exact hrestorable context _ (memory_of_entry hparam) item

section Preserved

theorem Inv.proper_paramOf (hs : Inv s) (env : Env) (context : AccountContext) :
    (s.paramOf env context).Proper := by
  unfold paramOf
  cases hentry : s.usersParam context with
  | none =>
    rw [Table.valueAt_of_none hentry]
    exact s.proper_newParam env
  | some param =>
    rw [Table.valueAt_of_some hentry]
    exact hs.proper context param hentry

/-- Entries that were assigned are proper when the assignment keeps them so. -/
theorem Inv.of_assigned {s' : Service} {assign : UiAppearanceParam → UiAppearanceParam}
    {contexts : List AccountContext} (hs : Inv s) (hinit : s'.initialised = s.initialised)
    (h : Table.Assigned assign (s.newParam env) contexts s.usersParam s'.usersParam)
    (hassign : contexts ≠ [] → ∀ param : UiAppearanceParam, param.Proper → (assign param).Proper) :
    Inv s' where
  initialised := hinit.trans hs.initialised
  proper := by
    intro context param hparam
    by_cases hmem : context ∈ contexts
    · rw [h.entries context hmem] at hparam
      obtain rfl := Option.some.inj hparam
      exact hassign (List.ne_nil_of_mem hmem) _ (hs.proper_paramOf env context)
    · exact hs.proper context param (h.others context hmem ▸ hparam)

theorem Inv.put {s' : Service} {context : AccountContext} {param : UiAppearanceParam} (hs : Inv s)
    (hinit : s'.initialised = true) (husers : s'.usersParam = s.usersParam.put context param)
    (hparam : param.Proper) : Inv s' where
  initialised := hinit
  proper := by
    intro c p hp
    rw [husers] at hp
    by_cases hsame : c = context
    · subst hsame
      rw [Table.put_self] at hp
      exact Option.some.inj hp ▸ hparam
    · rw [Table.put_of_ne hsame] at hp
      exact hs.proper c p hp

theorem proper_withColor {param : UiAppearanceParam} (h : param.Proper) (isDarkMode : Bool) :
    UiAppearanceParam.Proper { param with darkMode := .ofColor isDarkMode } where
  darkMode := by cases isDarkMode <;> nofun
  fontScale := h.fontScale
  fontWeightScale := h.fontWeightScale

theorem proper_assign {r : Request} (h : r.admitted env s = true) {param : UiAppearanceParam}
    (hparam : param.Proper) : (r.assign param).Proper := by
  cases r with
  | setDarkMode mode =>
    simp only [Request.admitted, admitsSetDarkMode, Bool.and_eq_true, decide_eq_true_eq] at h
    exact ⟨h.1.2, hparam.fontScale, hparam.fontWeightScale⟩
  | setFontScale fontScale =>
    simp only [Request.admitted, Request.admitsFont, Bool.and_eq_true, decide_eq_true_eq] at h
    exact ⟨hparam.darkMode, h.1.2, hparam.fontWeightScale⟩
  | setFontWeightScale fontWeightScale =>
    simp only [Request.admitted, Request.admitsFont, Bool.and_eq_true, decide_eq_true_eq] at h
    exact ⟨hparam.darkMode, hparam.fontScale, h.1.2⟩

theorem admitted_of_reached {r : Request} (h : r.reached env s ≠ []) :
    r.admitted env s = true := by
  unfold Request.reached at h
  split_ifs at h with hadmitted
  · exact hadmitted
  · contradiction

theorem usersParam_switched (h : s.initialised = true) (context : AccountContext) :
    (s.accountContextSwitchFunc env context).usersParam =
      s.usersParam.put context (s.switchedParam env context) ∧
    (s.switchPrepared env context).paramOf env context = s.paramOf env context := by
  have hflags : s.isInitializationFinished = true ∧ s.isNeedDoCompatibleProcess = false := by
    simpa [initialised] using h
  have hprepared := appearance_switchPrepared env context hflags.2 hflags.1
  constructor
  · rw [usersParam_accountContextSwitchFunc, usersParam_of_appearance hprepared]
  · exact paramOf_of_appearance hprepared env context

theorem proper_switchedParam (hs : Inv s) (context : AccountContext) :
    (s.switchedParam env context).Proper := by
  have hentry : ((s.switchPrepared env context).paramOf env context).Proper := by
    rw [(usersParam_switched hs.initialised context).2]
    exact hs.proper_paramOf env context
  unfold switchedParam
  cases s.settledColor env context with
  | none => exact hentry
  | some isDarkMode => exact proper_withColor hentry isDarkMode

theorem Inv.next (hs : Inv s) (op : Operation) : Inv (next s (env, op)) := by
  cases op with
  | request r =>
    exact hs.of_assigned (initialised_of_flags (flags_call env s r)) (r.assigned_call env s)
      fun hreached _ hparam => proper_assign (admitted_of_reached hreached) hparam
  | updateDarkModeCallback isDarkMode userId =>
    exact hs.of_assigned
      (initialised_of_flags (flags_updateDarkModeCallback env s isDarkMode userId))
      (assigned_updateDarkModeCallback env s isDarkMode userId)
      fun _ _ hparam => proper_withColor hparam isDarkMode
  | accountContextSwitchFunc context =>
    exact hs.put (initialised_accountContextSwitchFunc env hs.initialised context)
      (usersParam_switched hs.initialised context).1 (proper_switchedParam hs context)
  | applyAppearanceContextToUser source target =>
    have hinit := (initialised_applyAppearanceContextToUser env s source target).trans
      hs.initialised
    cases hsource : s.usersParam source with
    | none =>
      have hsame : s.applyAppearanceContextToUser env source target = s := by
        unfold applyAppearanceContextToUser
        rw [hsource]
      change Inv (s.applyAppearanceContextToUser env source target)
      rwa [hsame]
    | some param =>
      exact hs.put hinit (usersParam_applyAppearanceContextToUser env target hsource)
        (hs.proper source param hsource)
  | settingWritten userId key value => exact ⟨hs.initialised, hs.proper⟩

end Preserved

section Steps

variable {s' : Service} {contexts : List AccountContext}

/-- The rule of the store, for services that keep the invariant. -/
theorem restorable_of_wrote {items : AppearanceItem → Prop}
    {value : AccountContext → AppearanceItem → String} (henv : Healthy valid env) (hs : Inv s)
    (hs' : Inv s') (hrestorable : Restorable valid s) (hnew : s'.newParam env = s.newParam env)
    (h : InheritedStore.Wrote contexts items value s.store s'.store) :
    Restorable valid s' ↔
      (∀ context ∈ contexts, ∀ item, ¬items item → value context item = s.load env context item) ∧
        ∀ context param base, s.usersParam context = some param → context ∉ contexts →
          context.parent = some base → base ∈ contexts → ∀ item, items item →
            s.store.stored item context = none → item.valueOf param = value base item := by
  rw [restorable_iff_store henv hs']
  rw [restorable_iff_store henv hs] at hrestorable
  have hunstored : s'.unstored env = s.unstored env := by
    unfold unstored
    rw [hnew]
  rw [hunstored, h.restorable_iff hrestorable]
  refine and_congr_right fun _ => ?_
  constructor
  · intro hinherit context param base hparam
    exact hinherit context _ base (memory_of_entry hparam)
  · intro hinherit context entry base hmemory
    obtain ⟨param, hparam, rfl⟩ := Option.map_eq_some_iff.mp hmemory
    exact hinherit context param base hparam

theorem valueOf_eq_load (henv : Healthy valid env) (hrestorable : Restorable valid s)
    {context : AccountContext} {param : UiAppearanceParam}
    (hparam : s.usersParam context = some param) (item : AppearanceItem) :
    item.valueOf param = s.load env context item := by
  rw [(restorable_iff henv).mp hrestorable context param hparam, valueOf_loadedParam]

/-- An entry that is only read fits what is stored when it was there, or is stored as it is made. -/
theorem valueOf_paramOf_iff (henv : Healthy valid env) (hrestorable : Restorable valid s)
    (context : AccountContext) (item : AppearanceItem) :
    item.valueOf (s.paramOf env context) = s.load env context item ↔
      (s.usersParam context = none → s.load env context item = s.unstored env item) := by
  unfold paramOf
  cases hentry : s.usersParam context with
  | none =>
    rw [Table.valueAt_of_none hentry, forall_prop_of_true rfl]
    exact eq_comm
  | some param =>
    rw [Table.valueAt_of_some hentry]
    exact iff_of_true (valueOf_eq_load henv hrestorable hentry item) nofun

/-- One item was written and stored. -/
theorem restorable_of_persisted {item : AppearanceItem}
    {assign : UiAppearanceParam → UiAppearanceParam} {value : String} (henv : Healthy valid env)
    (hs : Inv s) (hs' : Inv s') (hrestorable : Restorable valid s)
    (h : Persisted env item assign value contexts s s') (hvalue : value ≠ "")
    (hitem : ∀ param, item.valueOf (assign param) = item.read value)
    (hothers : ∀ param other, other ≠ item →
      AppearanceItem.valueOf other (assign param) = other.valueOf param) :
    Restorable valid s' ↔ Fits env s item value contexts := by
  rw [restorable_of_wrote henv hs hs' hrestorable (h.newParam env) (h.wrote hvalue hitem)]
  refine and_congr ?_ ?_
  · refine forall₂_congr fun context _ => ?_
    have hcurrent := valueOf_paramOf_iff henv hrestorable context
    constructor
    · intro hvalues hnone other hother
      have hvalue := hvalues other hother
      rw [hothers _ other hother] at hvalue
      exact (hcurrent other).mp hvalue hnone
    · intro hdefaults other hother
      rw [hothers _ other hother]
      exact (hcurrent other).mpr fun hnone => hdefaults hnone other hother
  · simp only [hitem, forall_eq]

theorem fits_nil (item : AppearanceItem) (value : String) : Fits env s item value [] :=
  ⟨nofun, fun _ _ _ _ _ _ hbase => nomatch hbase⟩

theorem value_ne {r : Request} (h : r.admitted env s = true) : r.value ≠ "" := by
  cases r with
  | setDarkMode mode => exact AppearanceItem.colorName_ne _
  | setFontScale fontScale =>
    simp only [Request.admitted, Request.admitsFont, Bool.and_eq_true, decide_eq_true_eq] at h
    exact h.1.2
  | setFontWeightScale fontWeightScale =>
    simp only [Request.admitted, Request.admitsFont, Bool.and_eq_true, decide_eq_true_eq] at h
    exact h.1.2

theorem restorable_request (henv : Healthy valid env) (hs : Inv s)
    (hrestorable : Restorable valid s)
    (r : Request) : Restorable valid (next s (env, .request r)) ↔
      Stores env s (.request r) := by
  change Restorable valid (r.call env s).1 ↔ Fits env s r.item r.value (r.reached env s)
  cases h : r.admitted env s with
  | false =>
    have hreached : r.reached env s = [] := by
      unfold Request.reached
      rw [h]
      rfl
    rw [(Request.call_of_refused h).1, hreached]
    exact iff_of_true hrestorable (fits_nil r.item r.value)
  | true =>
    refine restorable_of_persisted henv hs (hs.next (.request r)) hrestorable
      (r.persisted_call henv.setParameter s) (value_ne h) (fun param => ?_)
      (fun param other hother => ?_)
    · cases r with
      | setDarkMode mode => exact (AppearanceItem.read_valueOf .darkMode _).symm
      | setFontScale fontScale => rfl
      | setFontWeightScale fontWeightScale => rfl
    · cases r <;> cases other <;> first | rfl | exact absurd rfl hother

theorem restorable_switch (henv : Healthy valid env) (hs : Inv s) (hrestorable : Restorable valid s)
    (context : AccountContext) :
    Restorable valid (next s (env, .accountContextSwitchFunc context)) ↔
      Stores env s (.accountContextSwitchFunc context) := by
  have hflags : s.isInitializationFinished = true ∧ s.isNeedDoCompatibleProcess = false := by
    simpa [initialised] using hs.initialised
  rw [restorable_of_wrote henv hs (hs.next _) hrestorable
    (newParam_accountContextSwitchFunc hflags.2 hflags.1)
    (wrote_accountContextSwitchFunc hflags.2 hflags.1)]
  have hcurrent := valueOf_paramOf_iff henv hrestorable context
  have hdark : AppearanceItem.darkMode.valueOf (s.switchedParam env context) =
      s.load env context .darkMode ↔ match s.settledColor env context with
        | some isDarkMode => s.load env context .darkMode = colorName isDarkMode
        | none => s.usersParam context = none →
          s.load env context .darkMode = s.unstored env .darkMode := by
    unfold switchedParam
    rw [(usersParam_switched hs.initialised context).2]
    cases s.settledColor env context with
    | none => exact hcurrent .darkMode
    | some isDarkMode => cases isDarkMode <;> exact eq_comm
  have hothers (other : AppearanceItem) (hother : other ≠ .darkMode) :
      other.valueOf (s.switchedParam env context) = other.valueOf (s.paramOf env context) := by
    unfold switchedParam
    rw [(usersParam_switched hs.initialised context).2]
    cases s.settledColor env context with
    | none => rfl
    | some isDarkMode => cases other <;> first | rfl | exact absurd rfl hother
  constructor
  · rintro ⟨hvalues, -⟩
    refine ⟨hdark.mp (hvalues context List.mem_cons_self .darkMode id), ?_⟩
    intro hnone other hother
    have hvalue := hvalues context List.mem_cons_self other id
    rw [hothers other hother] at hvalue
    exact (hcurrent other).mp hvalue hnone
  · rintro ⟨hcolor, hfonts⟩
    refine ⟨fun c hc item _ => ?_, fun _ _ _ _ _ _ _ _ => False.elim⟩
    obtain rfl := List.mem_singleton.mp hc
    by_cases hitem : item = .darkMode
    · subst hitem
      exact hdark.mpr hcolor
    · rw [hothers item hitem]
      exact (hcurrent item).mpr fun hnone => hfonts hnone item hitem

theorem restorable_next_iff (henv : Healthy valid env) (hs : Inv s)
    (hrestorable : Restorable valid s) (op : Operation) :
    Restorable valid (next s (env, op)) ↔ Stores env s op := by
  cases op with
  | request r => exact restorable_request henv hs hrestorable r
  | updateDarkModeCallback isDarkMode userId =>
    refine restorable_of_persisted henv hs (hs.next (.updateDarkModeCallback isDarkMode userId))
      hrestorable (persisted_updateDarkModeCallback henv.setParameter s isDarkMode userId)
      (AppearanceItem.colorName_ne isDarkMode) (fun param => ?_) (fun param other hother => ?_)
    · cases isDarkMode <;> rfl
    · cases other <;> first | rfl | exact absurd rfl hother
  | accountContextSwitchFunc context => exact restorable_switch henv hs hrestorable context
  | applyAppearanceContextToUser source target =>
    cases hsource : s.usersParam source with
    | none =>
      have hsame : next s (env, .applyAppearanceContextToUser source target) = s := by
        change s.applyAppearanceContextToUser env source target = s
        unfold applyAppearanceContextToUser
        rw [hsource]
      rw [hsame]
      refine iff_of_true hrestorable fun param hparam => ?_
      rw [hsource] at hparam
      cases hparam
    | some sourceParam =>
      have hwrote := wrote_applyAppearanceContextToUser henv.setParameter s target hsource
        (hs.proper source sourceParam hsource)
      refine (restorable_of_wrote henv hs (hs.next (.applyAppearanceContextToUser source target))
        hrestorable (newParam_applyAppearanceContextToUser env s source target) hwrote).trans ?_
      constructor
      · rintro ⟨-, hinherit⟩ param hparam context entry hentry hne hparent item hnone
        rw [hsource] at hparam
        obtain rfl := Option.some.inj hparam
        exact hinherit context entry target hentry (List.mem_singleton.not.mpr hne) hparent
          (List.mem_singleton.mpr rfl) item trivial hnone
      · intro hinherit
        refine ⟨fun _ _ _ hnot => absurd trivial hnot, ?_⟩
        intro context entry base hentry hne hparent hbase item _ hnone
        obtain rfl := List.mem_singleton.mp hbase
        exact hinherit sourceParam hsource context entry hentry (List.mem_singleton.not.mp hne)
          hparent item hnone
  | settingWritten userId key value =>
    have hloaded := (restorable_iff henv).mp hrestorable
    exact iff_of_true ((restorable_iff henv).mpr hloaded) trivial

end Steps

/-- An initialisation of an empty memory makes it restorable. -/
theorem restorable_doInitProcess (h : Healthy valid env) (hempty : s.usersParam = Table.empty) :
    Restorable valid (s.doInitProcess env) ∧ ∀ context param,
      (s.doInitProcess env).usersParam context = some param → param.Proper := by
  have hentry (context : AccountContext) (param : UiAppearanceParam)
      (hparam : (s.doInitProcess env).usersParam context = some param) :
      param = s.loadedParam env context := by
    rw [usersParam_doInitProcess, hempty] at hparam
    split_ifs at hparam
    · exact (Option.some.inj hparam).symm
    · cases hparam
  constructor
  · rw [restorable_iff h]
    intro context param hparam
    rw [loadedParam_doInitProcess]
    exact hentry context param hparam
  · intro context param hparam
    rw [hentry context param hparam]
    exact s.proper_loadedParam env context

theorem inv_doInitProcess (h : Healthy valid env) (hempty : s.usersParam = Table.empty)
    (hneed : s.isNeedDoCompatibleProcess = false) : Inv (s.doInitProcess env) where
  initialised := initialised_doInitProcess env s hneed
  proper := (restorable_doInitProcess h hempty).2

/-- Every state after an initialisation is restorable exactly if every step stores its colours. -/
theorem restorable_along_iff {s₀ : Service} {env₀ : Env} {run : List (Env × Operation)}
    (h₀ : Healthy valid env₀) (hempty : s₀.usersParam = Table.empty)
    (hneed : s₀.isNeedDoCompatibleProcess = false) (hrun : ∀ e ∈ run, Healthy valid e.1) :
    (Restorable valid (s₀.doInitProcess env₀) ∧
        Along next (fun s e => Restorable valid (next s e)) (s₀.doInitProcess env₀) run) ↔
      Along next (fun s e => Stores e.1 s e.2) (s₀.doInitProcess env₀) run := by
  have hinit := (restorable_doInitProcess h₀ hempty).1
  rw [and_iff_right hinit]
  exact along_iff_of_invariant (I := fun s => Inv s ∧ Restorable valid s)
    (fun s e hs _ hnext => ⟨hs.1.next e.2, hnext⟩)
    (fun s e hs henv => restorable_next_iff henv hs.1 hs.2 e.2)
    ⟨inv_doInitProcess h₀ hempty hneed, hinit⟩ (along_of_forall (P := fun e => Healthy valid e.1) hrun)

def allValid : String → Bool := fun _ => true

/-- A light account whose settings ask for the dark mode all day. -/
def darkRow (userId : ℤ) (key : String) : Option String :=
  if userId = 100 ∧ key = SettingItem.mode.key then some "1" else none

/-- A choice is stored, then a switch finds the colour it asks for. -/
def storedRun : List (Env × Operation) :=
  [(noon, .request (.setDarkMode 0)), (noon, .accountContextSwitchFunc account)]

theorem stored_restorable :
    (Restorable allValid ((start Table.empty darkRow).doInitProcess noon) ∧
        Along next (fun s e => Restorable allValid (next s e))
          ((start Table.empty darkRow).doInitProcess noon) storedRun) ↔
      Along next (fun s e => Stores e.1 s e.2) ((start Table.empty darkRow).doInitProcess noon)
        storedRun := by
  have hnoon : Healthy allValid noon := ⟨fun _ _ => rfl, rfl⟩
  refine restorable_along_iff hnoon rfl rfl fun e he => ?_
  rcases List.mem_cons.mp he with rfl | he
  · exact hnoon
  · obtain rfl := List.mem_singleton.mp he
    exact hnoon

def switchedRun : List (Env × Operation) := [(noon, .accountContextSwitchFunc account)]

/-- The entry has turned dark, and an initialisation would make it light again. -/
theorem switched_lost :
    Healthy allValid noon ∧
      ¬Along next (fun s e => Restorable allValid (next s e))
        ((start Table.empty darkRow).doInitProcess noon) switchedRun := by
  have hnoon : Healthy allValid noon := ⟨fun _ _ => rfl, rfl⟩
  refine ⟨hnoon, ?_⟩
  rintro ⟨hrestorable, -⟩
  have hentry := hrestorable noon hnoon account { darkMode := .alwaysDark } (by decide)
  exact absurd hentry (by decide)

end RestartEquivalence
end UiAppearance
