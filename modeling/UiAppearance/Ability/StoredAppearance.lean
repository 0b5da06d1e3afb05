import UiAppearance.Ability.ColorCallback
import UiAppearance.Ability.ContextSwitch
import UiAppearance.Foundations.InheritedStore

/-!
# The appearance as a store

The parameters of the contexts are a store with inheritance, the entries in
memory are its cache: a load is what the initialisation makes of one context,
and a sub-profile takes over what its account has stored. What each operation
that changes an entry writes to the parameters is said here.
-/

namespace UiAppearance

namespace AccountContext

/-- The account of a sub-profile. -/
def parent (context : AccountContext) : Option AccountContext :=
  if context.isSubProfileContext then some (.createBaseContext context.userId) else none

end AccountContext

namespace AppearanceItem

/-- The text that an entry is kept as. -/
def valueOf : AppearanceItem → UiAppearanceParam → String
  | darkMode, param => colorName (param.darkMode = .alwaysDark)
  | fontScale, param => param.fontScale
  | fontWeightScale, param => param.fontWeightScale

/-- What a load makes of a text: any colour but the dark one is light. -/
def read : AppearanceItem → String → String
  | darkMode, value => colorName (value = dark)
  | _, value => value

theorem colorName_ne (isDarkMode : Bool) : colorName isDarkMode ≠ "" := by
  cases isDarkMode <;> decide

theorem read_ne {item : AppearanceItem} {value : String} (h : value ≠ "") :
    item.read value ≠ "" := by
  cases item with
  | darkMode => exact colorName_ne _
  | fontScale => exact h
  | fontWeightScale => exact h

theorem read_valueOf (item : AppearanceItem) (param : UiAppearanceParam) :
    item.read (item.valueOf param) = item.valueOf param := by
  cases item with
  | darkMode =>
    cases hmode : decide (param.darkMode = .alwaysDark) <;>
      simp [read, valueOf, hmode, colorName, light, dark]
  | fontScale => rfl
  | fontWeightScale => rfl

theorem read_darkMode_eq_dark {value : String} : darkMode.read value = dark ↔ value = dark := by
  change colorName _ = dark ↔ _
  unfold colorName
  by_cases h : value = dark
  · simp [h]
  · rw [decide_eq_false h]
    exact iff_of_false (by decide) h

theorem read_read (item : AppearanceItem) (value : String) :
    item.read (item.read value) = item.read value := by
  cases item with
  | darkMode => exact congrArg colorName (decide_eq_decide.mpr read_darkMode_eq_dark)
  | fontScale => rfl
  | fontWeightScale => rfl

end AppearanceItem

/-- An entry that a load can yield. -/
structure UiAppearanceParam.Proper (param : UiAppearanceParam) : Prop where
  darkMode : param.darkMode ≠ .unknown
  fontScale : param.fontScale ≠ ""
  fontWeightScale : param.fontWeightScale ≠ ""

theorem UiAppearanceParam.Proper.valueOf_ne {param : UiAppearanceParam} (h : param.Proper)
    (item : AppearanceItem) : item.valueOf param ≠ "" := by
  cases item with
  | darkMode => exact AppearanceItem.colorName_ne _
  | fontScale => exact h.fontScale
  | fontWeightScale => exact h.fontWeightScale

/-- Such entries are known by their texts. -/
theorem UiAppearanceParam.Proper.ext_iff {param param' : UiAppearanceParam} (h : param.Proper)
    (h' : param'.Proper) :
    param = param' ↔ ∀ item : AppearanceItem, item.valueOf param = item.valueOf param' := by
  constructor
  · rintro rfl item
    rfl
  · intro hvalues
    have hcolor : colorName (param.darkMode = .alwaysDark) =
        colorName (param'.darkMode = .alwaysDark) := hvalues .darkMode
    have hscale : param.fontScale = param'.fontScale := hvalues .fontScale
    have hweight : param.fontWeightScale = param'.fontWeightScale := hvalues .fontWeightScale
    have hmode := h.darkMode
    have hmode' := h'.darkMode
    obtain ⟨mode, fontScale, fontWeightScale⟩ := param
    obtain ⟨mode', fontScale', fontWeightScale'⟩ := param'
    obtain rfl : fontScale = fontScale' := hscale
    obtain rfl : fontWeightScale = fontWeightScale' := hweight
    cases mode <;> cases mode' <;> simp_all [colorName, light, dark]

namespace Service

def store (s : Service) : InheritedStore AccountContext AppearanceItem String where
  memory context := (s.usersParam context).map fun param item => item.valueOf param
  stored item context := (s.getParameterWrap (item.paramAssignUser context) "").map item.read

/-- What a context loads that has nothing stored. -/
def unstored (env : Env) (s : Service) (item : AppearanceItem) : String :=
  item.valueOf (s.newParam env)

/-- What the initialisation finds for a context. -/
def load (env : Env) (s : Service) (context : AccountContext) (item : AppearanceItem) : String :=
  s.store.loaded AccountContext.parent (s.unstored env) context item

section Load

variable (env : Env) (s : Service) (context : AccountContext)

theorem proper_newParam : (s.newParam env).Proper where
  darkMode := nofun
  fontScale := show "1" ≠ "" by decide
  fontWeightScale := by
    change s.getDefaultFontWeightScaleValue env baseScale ≠ ""
    unfold getDefaultFontWeightScaleValue
    split
    · decide
    · next value hvalue =>
      split_ifs
      · exact getParameterWrap_ne hvalue
      · decide

/-- Reading with a default is reading without one, and then the default. -/
theorem getD_getParameterWrap (paramName default : String) :
    (s.getParameterWrap paramName default).getD default =
      (s.getParameterWrap paramName "").getD default := by
  unfold getParameterWrap
  cases s.parameters paramName with
  | none =>
    dsimp only [Option.getD_none]
    split_ifs <;> simp_all
  | some value => rfl

theorem loadContextParam_snd (contextKey baseKey default : String) :
    (s.loadContextParam env context contextKey baseKey default).2 =
      (s.getParameterWrap contextKey "").getD (if context.isSubProfileContext then
        (s.getParameterWrap baseKey "").getD default else default) := by
  unfold loadContextParam
  rw [← getD_getParameterWrap s baseKey]
  split
  · next value hvalue =>
    rw [hvalue]
    rfl
  · next hnone =>
    rw [hnone]
    cases context.isSubProfileContext with
    | false => rfl
    | true => cases s.getParameterWrap baseKey default <;> rfl

theorem parameters_loadContextParam (contextKey baseKey default : String) {key : String}
    (h : key ≠ contextKey) :
    (s.loadContextParam env context contextKey baseKey default).1.parameters key =
      s.parameters key := by
  rcases s.loadContextParam_cases env context contextKey baseKey default with hload | ⟨-, -, hload⟩
  · rw [hload]
  · rw [hload, parameters_setParameterWrap_of_ne env s h]

/-- One of the three steps of the initialisation of a context. -/
abbrev loadItem (item : AppearanceItem) (default : String) : Service × String :=
  s.loadContextParam env context (item.paramAssignUser context)
    (item.paramAssignUser (.createBaseContext context.userId)) default

theorem read_loadItem (item : AppearanceItem) (default : String) :
    item.read (s.loadItem env context item default).2 =
      s.store.loaded AccountContext.parent (fun _ => item.read default) context item := by
  unfold loadItem
  rw [loadContextParam_snd]
  unfold InheritedStore.loaded store AccountContext.parent
  dsimp only
  cases s.getParameterWrap (item.paramAssignUser context) "" with
  | some value => rfl
  | none =>
    cases context.isSubProfileContext with
    | false => rfl
    | true =>
      cases hbase :
          s.getParameterWrap (item.paramAssignUser (.createBaseContext context.userId)) "" <;>
        simp [hbase]

@[simp] theorem usersParam_loadContextParam (contextKey baseKey default : String) :
    (s.loadContextParam env context contextKey baseKey default).1.usersParam = s.usersParam := by
  rcases s.loadContextParam_cases env context contextKey baseKey default with h | ⟨-, -, h⟩
  · rw [h]
  · rw [h, usersParam_setParameterWrap]

/-- The entry that the initialisation makes of a context. -/
def loadedParam : UiAppearanceParam where
  darkMode := .ofColor (s.load env context .darkMode = dark)
  fontScale := s.load env context .fontScale
  fontWeightScale := s.load env context .fontWeightScale

theorem stored_congr {s s' : Service} {item : AppearanceItem} {context : AccountContext}
    (h : s'.parameters (item.paramAssignUser context) =
      s.parameters (item.paramAssignUser context)) :
    s'.store.stored item context = s.store.stored item context :=
  congrArg (Option.map item.read) (getParameterWrap_congr h "")

theorem load_congr {env : Env} {s s' : Service} {context : AccountContext} {item : AppearanceItem}
    (hitem : ∀ context, s'.parameters (item.paramAssignUser context) =
      s.parameters (item.paramAssignUser context))
    (hstandard : s'.parameters standardFontWeight = s.parameters standardFontWeight) :
    s'.load env context item = s.load env context item := by
  have hstored : s'.store.stored item = s.store.stored item :=
    funext fun c => stored_congr (hitem c)
  unfold load InheritedStore.loaded unstored
  rw [hstored, newParam_congr hstandard]

/-- A parameter that is written is that of a sub-profile, and the value is the loaded one. -/
theorem parameters_loadContextParam_self (contextKey baseKey default : String) :
    (s.loadContextParam env context contextKey baseKey default).1.parameters contextKey =
        s.parameters contextKey ∨
      context.isSubProfileContext = true ∧
        (s.loadContextParam env context contextKey baseKey default).2 ≠ "" ∧
        (s.loadContextParam env context contextKey baseKey default).1.parameters contextKey =
          some (s.loadContextParam env context contextKey baseKey default).2 := by
  rcases s.loadContextParam_cases env context contextKey baseKey default with
    h | ⟨hsub, hvalue, h⟩
  · exact .inl (by rw [h])
  · have hself := parameters_setParameterWrap_self env s contextKey
      (s.loadContextParam env context contextKey baseKey default).2
    rw [← h] at hself
    split_ifs at hself
    · exact .inr ⟨hsub, getParameterWrap_ne hvalue, hself⟩
    · exact .inl hself

/-- A value that a sub-profile takes over is what it would have loaded anyway. -/
theorem load_loadItem (item item' : AppearanceItem) (default : String)
    (hdefault : item.read default = s.unstored env item) (context' : AccountContext) :
    (s.loadItem env context item default).1.load env context' item' =
      s.load env context' item' := by
  have hother {key : String} (hkey : key ≠ item.paramAssignUser context) :=
    parameters_loadContextParam env s context (item.paramAssignUser context)
      (item.paramAssignUser (.createBaseContext context.userId)) default hkey
  have hdefaults : (s.loadItem env context item default).1.unstored env = s.unstored env := by
    unfold unstored
    rw [newParam_congr (hother (item.paramAssignUser_ne_standard context).symm)]
  have hloaded : s.load env context item = item.read (s.loadItem env context item default).2 := by
    rw [read_loadItem, hdefault]
    rfl
  unfold load
  rw [hdefaults]
  refine InheritedStore.loaded_of_backfilled (fun i c => ?_) context' item'
  by_cases hsame : i.paramAssignUser c = item.paramAssignUser context
  · obtain ⟨rfl, rfl⟩ := (AppearanceItem.paramAssignUser_inj ..).mp hsame
    rcases parameters_loadContextParam_self env s c (i.paramAssignUser c)
      (i.paramAssignUser (.createBaseContext c.userId)) default with hkept | ⟨hsub, hne, hwritten⟩
    · exact .inl (stored_congr hkept)
    · refine .inr ⟨fun j hparent => ?_, ?_⟩
      · unfold AccountContext.parent at hparent
        split_ifs at hparent
        obtain rfl := Option.some.inj hparent
        exact absurd hsub (by simp [AccountContext.createBaseContext,
          AccountContext.isSubProfileContext])
      · change Option.map i.read (getParameterWrap _ _ _) = some (s.load env c i)
        unfold getParameterWrap
        rw [hwritten, hloaded, Option.getD_some, if_neg hne]
        rfl
  · exact .inl (stored_congr (hother hsame))

theorem usersParam_initContext :
    (s.initContext env context).usersParam =
      s.usersParam.put context (s.loadedParam env context) := by
  have hcolor : (s.loadItem env context .darkMode light).2 = dark ↔
      s.load env context .darkMode = dark := by
    have hread : AppearanceItem.darkMode.read _ = s.load env context .darkMode :=
      read_loadItem env s context .darkMode light
    rw [← hread, AppearanceItem.read_darkMode_eq_dark]
  have hsize (s : Service) : (s.loadItem env context .fontScale baseScale).2 =
      s.load env context .fontScale := read_loadItem env s context .fontScale baseScale
  have hweight (s : Service) : (s.loadItem env context .fontWeightScale
      (s.getDefaultFontWeightScaleValue env baseScale)).2 = s.load env context .fontWeightScale :=
    read_loadItem env s context .fontWeightScale _
  unfold loadedParam
  rw [← load_loadItem env s context .darkMode .fontScale light rfl context, ← hsize,
    ← load_loadItem env s context .darkMode .fontWeightScale light rfl context,
    ← load_loadItem env _ context .fontScale .fontWeightScale baseScale rfl context,
    ← hweight]
  simp only [← hcolor]
  unfold initContext
  dsimp only
  rw [usersParam_loadContextParam, usersParam_loadContextParam, usersParam_loadContextParam]
  rfl

/-- A load yields a text from the store or a default. -/
theorem load_cases (item : AppearanceItem) :
    (∃ value, value ≠ "" ∧ s.load env context item = item.read value) ∨
      s.load env context item = s.unstored env item := by
  have hstored (c : AccountContext) (v : String) (h : s.store.stored item c = some v) :
      ∃ value, value ≠ "" ∧ v = item.read value := by
    obtain ⟨value, hvalue, rfl⟩ := Option.map_eq_some_iff.mp h
    exact ⟨value, getParameterWrap_ne hvalue, rfl⟩
  unfold load InheritedStore.loaded
  cases hown : s.store.stored item context with
  | some v => exact .inl (hstored context v hown)
  | none =>
    cases hbase : (AccountContext.parent context).bind (s.store.stored item) with
    | some v =>
      obtain ⟨base, -, hbase⟩ := Option.bind_eq_some_iff.mp hbase
      exact .inl (hstored base v hbase)
    | none => exact .inr rfl

theorem read_load (item : AppearanceItem) :
    item.read (s.load env context item) = s.load env context item := by
  rcases s.load_cases env context item with ⟨value, -, hvalue⟩ | hdefault
  · rw [hvalue, item.read_read]
  · rw [hdefault]
    exact item.read_valueOf _

theorem load_ne (item : AppearanceItem) : s.load env context item ≠ "" := by
  rcases s.load_cases env context item with ⟨value, hne, hvalue⟩ | hdefault
  · rw [hvalue]
    exact item.read_ne hne
  · rw [hdefault]
    exact (s.proper_newParam env).valueOf_ne item

theorem proper_loadedParam : (s.loadedParam env context).Proper where
  darkMode := by
    change DarkMode.ofColor _ ≠ .unknown
    unfold DarkMode.ofColor
    split_ifs <;> nofun
  fontScale := s.load_ne env context .fontScale
  fontWeightScale := s.load_ne env context .fontWeightScale

theorem valueOf_loadedParam (item : AppearanceItem) :
    item.valueOf (s.loadedParam env context) = s.load env context item := by
  cases item with
  | darkMode =>
    have hread := s.read_load env context .darkMode
    have hcolor (isDarkMode : Bool) : decide (DarkMode.ofColor isDarkMode = .alwaysDark) =
        isDarkMode := by cases isDarkMode <;> rfl
    change colorName (DarkMode.ofColor (s.load env context .darkMode = dark) = .alwaysDark) = _
    rw [hcolor]
    exact hread
  | fontScale => rfl
  | fontWeightScale => rfl

/-- Initialising a context changes no load, of this context or of another one. -/
theorem load_initContext (context' : AccountContext) (item : AppearanceItem) :
    (s.initContext env context).load env context' item = s.load env context' item := by
  have hcolor := load_loadItem env s context .darkMode item light rfl context'
  have hsize := load_loadItem env (s.loadItem env context .darkMode light).1 context .fontScale item
    baseScale rfl context'
  have hweight (s : Service) := load_loadItem env s context .fontWeightScale item
    (s.getDefaultFontWeightScaleValue env baseScale) rfl context'
  exact ((hweight _).trans hsize).trans hcolor

theorem loadedParam_initContext (context' : AccountContext) :
    (s.initContext env context).loadedParam env context' = s.loadedParam env context' := by
  simp only [loadedParam, load_initContext]

/-- What an initialisation makes of a memory: every context it knows, as it is loaded. -/
theorem usersParam_doInitProcess (context' : AccountContext) :
    (s.doInitProcess env).usersParam context' =
      if context' ∈ AccountContext.getContextsByUserIds env (getUserIds env .initialization) then
        some (s.loadedParam env context')
      else s.usersParam context' := by
  have hfold (contexts : List AccountContext) (s : Service) :
      (contexts.foldl (fun s context => s.initContext env context) s).usersParam context' =
        if context' ∈ contexts then some (s.loadedParam env context')
        else s.usersParam context' := by
    induction contexts generalizing s with
    | nil => rfl
    | cons context rest ih =>
      rw [List.foldl_cons, ih, loadedParam_initContext, usersParam_initContext]
      by_cases hrest : context' ∈ rest
      · rw [if_pos hrest, if_pos (List.mem_cons_of_mem context hrest)]
      · rw [if_neg hrest]
        by_cases hsame : context' = context
        · subst hsame
          rw [if_pos List.mem_cons_self, Table.put_self]
        · rw [if_neg (List.mem_cons.not.mpr (not_or.mpr ⟨hsame, hrest⟩)), Table.put_of_ne hsame]
  exact hfold _ s

/-- The initialisation as a whole changes no load either. -/
theorem loadedParam_doInitProcess (context' : AccountContext) :
    (s.doInitProcess env).loadedParam env context' = s.loadedParam env context' :=
  frame_foldl s (fun s => s.loadedParam env context')
    (fun s context => loadedParam_initContext env s context context') _

end Load

section Writes

variable {env : Env} {s s' : Service}

/-- One item was written, in memory and to its parameter, for each of the contexts. -/
structure Persisted (env : Env) (item : AppearanceItem)
    (assign : UiAppearanceParam → UiAppearanceParam) (value : String)
    (contexts : List AccountContext) (s s' : Service) : Prop where
  entries : Table.Assigned assign (s.newParam env) contexts s.usersParam s'.usersParam
  written : ∀ context ∈ contexts, s'.parameters (item.paramAssignUser context) = some value
  kept : ∀ key, isTemporaryParam key = false → key ≠ item.globalParam →
    (∀ context ∈ contexts, key ≠ item.paramAssignUser context) →
      s'.parameters key = s.parameters key

namespace Persisted

variable {item : AppearanceItem} {assign : UiAppearanceParam → UiAppearanceParam} {value : String}
  {contexts : List AccountContext}

theorem refl : Persisted env item assign value [] s s := ⟨.nil, nofun, fun _ _ _ _ => rfl⟩

/-- The parameter of the service as a whole is written first, then those of the contexts. -/
theorem of_assigned (s₁ : Service)
    (hentries : Table.Assigned assign (s.newParam env) contexts s.usersParam s'.usersParam)
    (hglobal : s₁.appearance.parameters = s.appearance.parameters.put item.globalParam value)
    (hparameters : Table.Assigned (fun _ => value) "" (contexts.map item.paramAssignUser)
      s₁.appearance.parameters s'.appearance.parameters) :
    Persisted env item assign value contexts s s' where
  entries := hentries
  written := by
    intro context hcontext
    have hwritten := hparameters.entries _ (List.mem_map_of_mem hcontext)
    simpa [appearance, item.isTemporaryParam_paramAssignUser] using hwritten
  kept := by
    intro key htemporary hkey hcontexts
    have hnot : key ∉ contexts.map item.paramAssignUser := by
      intro hmem
      obtain ⟨context, hcontext, rfl⟩ := List.mem_map.mp hmem
      exact hcontexts context hcontext rfl
    have hkept := hparameters.others key hnot
    rw [hglobal, Table.put_of_ne hkey] at hkept
    simpa [appearance, htemporary] using hkept

theorem stored_of_ne (h : Persisted env item assign value contexts s s') {other : AppearanceItem}
    {context : AccountContext} (hne : context ∉ contexts ∨ other ≠ item) :
    s'.store.stored other context = s.store.stored other context := by
  have hkept := h.kept (other.paramAssignUser context)
    (other.isTemporaryParam_paramAssignUser context)
    (other.paramAssignUser_ne_globalParam item context)
  refine congrArg (Option.map other.read) (getParameterWrap_congr (hkept fun c hc hsame => ?_) "")
  obtain ⟨rfl, rfl⟩ := (AppearanceItem.paramAssignUser_inj ..).mp hsame
  exact hne.elim (fun hnot => hnot hc) (fun hnot => hnot rfl)

theorem wrote (h : Persisted env item assign value contexts s s') (hvalue : value ≠ "")
    (hassign : ∀ param, item.valueOf (assign param) = item.read value) :
    InheritedStore.Wrote contexts (· = item)
      (fun context other => other.valueOf (assign (s.paramOf env context))) s.store s'.store where
  memory := by
    intro context hcontext
    change (s'.usersParam context).map _ = _
    rw [h.entries.entries context hcontext]
    rfl
  others := by
    intro context hcontext
    change (s'.usersParam context).map _ = (s.usersParam context).map _
    rw [h.entries.others context hcontext]
  stored := by
    rintro context hcontext other rfl
    change (s'.getParameterWrap (other.paramAssignUser context) "").map other.read = _
    unfold getParameterWrap
    rw [h.written context hcontext]
    simp [hvalue, hassign]
  kept := fun context other hne => h.stored_of_ne hne

theorem newParam (h : Persisted env item assign value contexts s s') (env' : Env) :
    s'.newParam env' = s.newParam env' := by
  refine newParam_congr (h.kept _ (by decide) item.globalParam_ne_standard.symm ?_) env'
  exact fun context _ => (item.paramAssignUser_ne_standard context).symm

end Persisted

end Writes

section Switches

variable {env : Env} {s : Service} {context : AccountContext}

/-- A switch writes the entry of its context, and stores nothing of it. -/
theorem wrote_accountContextSwitchFunc (hneed : s.isNeedDoCompatibleProcess = false)
    (hfinished : s.isInitializationFinished = true) :
    InheritedStore.Wrote [context] (fun _ => False)
      (fun _ item => item.valueOf (s.switchedParam env context)) s.store
      (s.accountContextSwitchFunc env context).store := by
  have hprepared := appearance_switchPrepared env context hneed hfinished
  have husers : (s.accountContextSwitchFunc env context).usersParam =
      s.usersParam.put context (s.switchedParam env context) := by
    rw [usersParam_accountContextSwitchFunc, usersParam_of_appearance hprepared]
  constructor
  · intro c hc
    obtain rfl := List.mem_singleton.mp hc
    change Option.map _ ((s.accountContextSwitchFunc env c).usersParam c) = _
    rw [husers, Table.put_self]
    rfl
  · intro c hc
    change Option.map _ ((s.accountContextSwitchFunc env context).usersParam c) = _
    rw [husers, Table.put_of_ne (List.mem_singleton.not.mp hc)]
    rfl
  · exact fun _ _ _ => False.elim
  · intro c item _
    refine stored_congr ?_
    rw [parameters_accountContextSwitchFunc _ _ _ (item.paramAssignUser_ne_globalParam · c)]
    exact parameters_of_appearance hprepared (item.isTemporaryParam_paramAssignUser c)

theorem newParam_accountContextSwitchFunc (hneed : s.isNeedDoCompatibleProcess = false)
    (hfinished : s.isInitializationFinished = true) :
    (s.accountContextSwitchFunc env context).newParam env = s.newParam env := by
  refine newParam_congr ?_ env
  rw [parameters_accountContextSwitchFunc _ _ _ fun item => item.globalParam_ne_standard.symm]
  exact parameters_of_appearance (appearance_switchPrepared env context hneed hfinished) (by decide)

end Switches

section Operations

/-- An entry, written to the three parameters of a context. -/
def keepEntry (env : Env) (s : Service) (context : AccountContext) (param : UiAppearanceParam) :
    Service :=
  let keep (s : Service) (item : AppearanceItem) :=
    s.setParameterWrap env (item.paramAssignUser context) (item.valueOf param)
  keep (keep (keep s .darkMode) .fontScale) .fontWeightScale

theorem applyAppearanceContextToUser_of_some (env : Env) {s : Service} {source : AccountContext}
    (target : AccountContext) {param : UiAppearanceParam} (h : s.usersParam source = some param) :
    s.applyAppearanceContextToUser env source target =
      (keepEntry env { s with usersParam := s.usersParam.put target param } target
        param).updateCurrentUserConfiguration env target true := by
  unfold applyAppearanceContextToUser
  rw [h]
  rfl

theorem usersParam_applyAppearanceContextToUser (env : Env) {s : Service}
    {source : AccountContext} (target : AccountContext) {param : UiAppearanceParam}
    (h : s.usersParam source = some param) :
    (s.applyAppearanceContextToUser env source target).usersParam =
      s.usersParam.put target param := by
  rw [applyAppearanceContextToUser_of_some env target h]
  simp [paramOf, keepEntry]

theorem newParam_applyAppearanceContextToUser (env : Env) (s : Service)
    (source context : AccountContext) :
    (s.applyAppearanceContextToUser env source context).newParam env = s.newParam env := by
  cases hsource : s.usersParam source with
  | none =>
    unfold applyAppearanceContextToUser
    rw [hsource]
  | some param =>
    have hupdated (s : Service) : (s.updateCurrentUserConfiguration env context true).newParam env =
        s.newParam env := newParam_congr (parameters_updateCurrentUserConfiguration _ _ _ _
      fun item => item.globalParam_ne_standard.symm) env
    have hkeep (s : Service) (item : AppearanceItem) (value : String) := newParam_setParameterWrap
      env s (item.paramAssignUser_ne_standard context) value
    rw [applyAppearanceContextToUser_of_some env context hsource, hupdated]
    unfold keepEntry
    exact (hkeep ..).trans ((hkeep ..).trans (hkeep ..))

theorem parameters_updateConfiguration (env : Env) (s : Service) (config : Configuration)
    (userId : ℤ) (effectiveUserIds : List ℤ) :
    (s.updateConfiguration env config userId effectiveUserIds).1.appearance.parameters =
      s.appearance.parameters := by
  unfold updateConfiguration
  dsimp only
  split_ifs <;> rfl

variable {env : Env} (hset : ∀ paramName value, env.setParameter paramName value = true)
  (s : Service) (context : AccountContext)

include hset

theorem parameters_setParameterWrap {paramName : String}
    (h : isTemporaryParam paramName = false) (value : String) :
    (s.setParameterWrap env paramName value).appearance.parameters =
      s.appearance.parameters.put paramName value := by
  unfold setParameterWrap
  rw [if_pos (hset ..)]
  funext key
  by_cases hkey : key = paramName
  · subst hkey
    simp [appearance, h]
  · rw [Table.put_of_ne hkey]
    change (if isTemporaryParam key then none else s.parameters.put paramName value key) = _
    rw [Table.put_of_ne hkey]
    rfl

theorem parameters_setItem (item item' : AppearanceItem) (context' : AccountContext)
    (value : String) :
    (s.setParameterWrap env (item.paramAssignUser context) value).parameters
      (item'.paramAssignUser context') =
        if item' = item ∧ context' = context then some value
        else s.parameters (item'.paramAssignUser context') := by
  unfold setParameterWrap
  rw [if_pos (hset ..)]
  split_ifs with hsame
  · obtain ⟨rfl, rfl⟩ := hsame
    exact Table.put_self
  · exact Table.put_of_ne (mt (AppearanceItem.paramAssignUser_inj ..).mp hsame)

theorem parameters_keepEntry (param : UiAppearanceParam) (item : AppearanceItem)
    (context' : AccountContext) :
    (s.keepEntry env context param).parameters (item.paramAssignUser context') =
      if context' = context then some (item.valueOf param)
      else s.parameters (item.paramAssignUser context') := by
  unfold keepEntry
  dsimp only
  rw [parameters_setItem hset, parameters_setItem hset, parameters_setItem hset]
  cases item <;> by_cases hsame : context' = context <;> simp [hsame]

/-- The parameters of the target spell the entry, those of other contexts stay. -/
theorem parameters_applyAppearanceContextToUser {param : UiAppearanceParam}
    {source : AccountContext} (hsource : s.usersParam source = some param) (item : AppearanceItem)
    (c : AccountContext) :
    (s.applyAppearanceContextToUser env source context).parameters (item.paramAssignUser c) =
      if c = context then some (item.valueOf param)
      else s.parameters (item.paramAssignUser c) := by
  rw [applyAppearanceContextToUser_of_some env context hsource,
    parameters_updateCurrentUserConfiguration _ _ _ _ (item.paramAssignUser_ne_globalParam · c)]
  exact parameters_keepEntry hset _ context param item c

/-- The target takes over the entry of the source, and all of it is stored. -/
theorem wrote_applyAppearanceContextToUser {param : UiAppearanceParam}
    {source : AccountContext} (hsource : s.usersParam source = some param) (hparam : param.Proper) :
    InheritedStore.Wrote [context] (fun _ => True) (fun _ item => item.valueOf param) s.store
      (s.applyAppearanceContextToUser env source context).store := by
  have husers := usersParam_applyAppearanceContextToUser env context hsource
  have hparameters := parameters_applyAppearanceContextToUser hset s context hsource
  constructor
  · intro c hc
    obtain rfl := List.mem_singleton.mp hc
    change Option.map _ ((s.applyAppearanceContextToUser env source c).usersParam c) = _
    rw [husers, Table.put_self]
    rfl
  · intro c hc
    change Option.map _ ((s.applyAppearanceContextToUser env source context).usersParam c) = _
    rw [husers, Table.put_of_ne (List.mem_singleton.not.mp hc)]
    rfl
  · intro c hc item _
    change Option.map item.read (getParameterWrap _ _ _) = _
    unfold getParameterWrap
    rw [hparameters, if_pos (List.mem_singleton.mp hc), Option.getD_some,
      if_neg (hparam.valueOf_ne item)]
    exact congrArg some (item.read_valueOf param)
  · intro c item hc
    have hne : c ≠ context := by
      rintro rfl
      exact hc.elim (fun hnot => hnot (List.mem_singleton.mpr rfl)) (fun hnot => hnot trivial)
    refine stored_congr ?_
    rw [hparameters, if_neg hne]

theorem parameters_configurePersistenceAll (mode : DarkMode) (paramValue : String)
    (contexts : List AccountContext) :
    Table.Assigned (fun _ => paramValue) "" (contexts.map darkModeParamAssignUser)
      s.appearance.parameters
      (configurePersistenceAll env mode paramValue contexts s).1.appearance.parameters := by
  induction contexts generalizing s with
  | nil => exact .nil
  | cons context rest ih =>
    have hswitched := congrArg Appearance.parameters
      (appearance_doSwitchTemporaryColorMode env s context (mode = .alwaysDark))
    have hput : (s.persistColor env context mode paramValue).appearance.parameters =
        s.appearance.parameters.put (darkModeParamAssignUser context) paramValue := by
      rw [← hswitched]
      exact parameters_setParameterWrap hset _ (not_isTemporaryParam_darkMode context) paramValue
    have hnotified := congrArg Appearance.parameters (appearance_notifyDarkModeUpdate env
      (s.persistColor env context mode paramValue) context (mode = .alwaysDark))
    refine .cons (fun _ => rfl) hput ?_
    unfold configurePersistenceAll
    rw [configurePersistence_eq, if_pos (hset ..), ← hnotified]
    exact ih _

theorem parameters_configureFontPersistenceAll (property : FontProperty) (value : String)
    (hname : ∀ context, isTemporaryParam (property.paramAssignUser context) = false)
    (contexts : List AccountContext) :
    Table.Assigned (fun _ => value) "" (contexts.map property.paramAssignUser)
      s.appearance.parameters
      (configureFontPersistenceAll env property value contexts s).1.appearance.parameters := by
  induction contexts generalizing s with
  | nil => exact .nil
  | cons context rest ih =>
    have hput : (s.configureFontPersistence env property context value).1.appearance.parameters =
        s.appearance.parameters.put (property.paramAssignUser context) value :=
      parameters_setParameterWrap hset _ (hname context) value
    have hresult := (configureFontPersistence_succeeded_iff env s property value context).mpr
      (hset ..)
    refine .cons (fun _ => rfl) hput ?_
    unfold configureFontPersistenceAll
    dsimp only
    rw [if_neg (not_not_intro hresult)]
    exact ih _

theorem parameters_configurePersistenceOfCallback (isDarkMode : Bool) (paramValue : String)
    (contexts : List AccountContext) :
    Table.Assigned (fun _ => paramValue) "" (contexts.map darkModeParamAssignUser)
      s.appearance.parameters
      (contexts.foldl (fun s context => s.configurePersistenceOfCallback env isDarkMode context
        paramValue) s).appearance.parameters := by
  induction contexts generalizing s with
  | nil => exact .nil
  | cons context rest ih =>
    have hput : (s.configurePersistenceOfCallback env isDarkMode context
        paramValue).appearance.parameters =
        s.appearance.parameters.put (darkModeParamAssignUser context) paramValue :=
      parameters_setParameterWrap hset _ (not_isTemporaryParam_darkMode context) paramValue
    exact .cons (fun _ => rfl) hput (ih _)

theorem persisted_updateDarkModeCallback (isDarkMode : Bool) (userId : ℤ) :
    Persisted env .darkMode (fun param => { param with darkMode := .ofColor isDarkMode })
      (colorName isDarkMode) (callbackReached env userId) s
      (s.updateDarkModeCallback env isDarkMode userId) := by
  have hentries := assigned_updateDarkModeCallback env s isDarkMode userId
  rw [updateDarkModeCallback_eq] at hentries ⊢
  unfold callbackReached at hentries ⊢
  split_ifs at hentries ⊢
  · refine .of_assigned (s.callbackSent env isDarkMode userId) hentries ?_ ?_
    · have hsent : (s.updateConfiguration env { colorMode := some (colorName isDarkMode) } userId
          (getMultipleUsers env)).1.appearance.parameters = s.appearance.parameters :=
        parameters_updateConfiguration ..
      rw [← hsent]
      exact parameters_setParameterWrap hset _
        AppearanceItem.darkMode.isTemporaryParam_globalParam _
    · exact parameters_configurePersistenceOfCallback hset _ isDarkMode _ _
  · exact .refl

end Operations

end Service

namespace Request

open Service

/-- The item that a request sets. -/
def item : Request → AppearanceItem
  | setDarkMode _ => .darkMode
  | setFontScale _ => .fontScale
  | setFontWeightScale _ => .fontWeightScale

/-- The text that a request makes persistent. -/
def value : Request → String
  | setDarkMode mode => colorName (DarkMode.ofInt mode = .alwaysDark)
  | setFontScale fontScale => fontScale
  | setFontWeightScale fontWeightScale => fontWeightScale

variable {env : Env} (hset : ∀ paramName value, env.setParameter paramName value = true)
  (s : Service) (r : Request)

include hset

theorem reached_of_set : r.reached env s = if r.admitted env s then r.targets env else [] := by
  have hwrites (context : AccountContext) : r.writes env context = true := by
    cases r <;> exact hset ..
  unfold reached
  rw [reachedContexts_of_all fun context _ => hwrites context]

theorem parameters_sentFont (property : FontProperty) (value : String)
    (hname : isTemporaryParam property.globalParam = false) :
    (r.sentFont env s property value).appearance.parameters =
      s.appearance.parameters.put property.globalParam value := by
  rw [← parameters_updateConfiguration env s (property.config value)
    (getCallingAccountContext env).userId (r.effectiveUserIds env)]
  exact parameters_setParameterWrap hset _ hname value

theorem persisted_call :
    Persisted env r.item r.assign r.value (r.reached env s) s (r.call env s).1 := by
  have hentries := r.assigned_call env s
  rw [r.reached_of_set hset] at hentries ⊢
  cases h : r.admitted env s with
  | false =>
    rw [(call_of_refused h).1]
    exact .refl
  | true =>
    rw [h] at hentries
    rw [if_pos rfl] at hentries ⊢
    cases r with
    | setDarkMode mode =>
      rw [call_setDarkMode h] at hentries ⊢
      refine .of_assigned (s.configured env (DarkMode.ofInt mode)) hentries ?_
        (parameters_configurePersistenceAll hset ..)
      rw [← parameters_updateConfiguration env s _ (getCallingAccountContext env).userId
        (getMultipleUsers env)]
      exact parameters_setParameterWrap hset _
        AppearanceItem.darkMode.isTemporaryParam_globalParam _
    | setFontScale fontScale =>
      rw [call_setFontScale h] at hentries ⊢
      have hparameters := parameters_configureFontPersistenceAll hset
        ((setFontScale fontScale).sentFont env s fontScaleProperty fontScale) fontScaleProperty
        fontScale not_isTemporaryParam_fontScale ((setFontScale fontScale).targets env)
      refine .of_assigned _ hentries ?_ hparameters
      exact parameters_sentFont hset s _ fontScaleProperty fontScale (by decide)
    | setFontWeightScale fontWeightScale =>
      rw [call_setFontWeightScale h] at hentries ⊢
      have hparameters := parameters_configureFontPersistenceAll hset
        ((setFontWeightScale fontWeightScale).sentFont env s fontWeightScaleProperty
          fontWeightScale) fontWeightScaleProperty fontWeightScale
        not_isTemporaryParam_fontWeightScale ((setFontWeightScale fontWeightScale).targets env)
      refine .of_assigned _ hentries ?_ hparameters
      exact parameters_sentFont hset s _ fontWeightScaleProperty fontWeightScale (by decide)

end Request
end UiAppearance
