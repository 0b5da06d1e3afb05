import UiAppearance.Ability.Initialised
import UiAppearance.Ability.StoredAppearance

/-!
# The migration

`DoCompatibleProcess` takes the three parameters of the service as a whole to
the contexts of the accounts that it is told of, as far as they have no value
of their own, and then marks the migration as done.
-/

namespace UiAppearance

namespace AppearanceItem

/-- What an old parameter that was never written counts as. -/
def oldDefault : AppearanceItem → String
  | darkMode => light
  | _ => baseScale

/-- The font weight is replaced by that of the product. -/
def refine (env : Env) : AppearanceItem → Service → String → String
  | fontWeightScale, s, value => s.getDefaultFontWeightScaleValue env value
  | _, _, value => value

end AppearanceItem

namespace Service

variable (env : Env) (s : Service)

/-- A parameter has a value: an empty one does not count. -/
def IsSet (paramName : String) : Prop := (s.getParameterWrap paramName "").isSome = true

instance (paramName : String) : Decidable (s.IsSet paramName) :=
  inferInstanceAs (Decidable (_ = true))

def migrateItem (item : AppearanceItem) (contexts : List AccountContext) : Service :=
  s.migrateFamily env item.globalParam item.oldDefault (item.refine env) item.paramAssignUser
    contexts

/-- The value that the migration has for an item; an empty old value is none. -/
def migratedValue (item : AppearanceItem) : Option String :=
  (s.getParameterWrap item.globalParam item.oldDefault).map (item.refine env s)

theorem doCompatibleProcess_eq :
    let contexts := AccountContext.getContextsByUserIds env (getUserIds env .migration)
    s.doCompatibleProcess env =
      { ((((s.migrateItem env .darkMode contexts).migrateItem env .fontScale contexts).migrateItem
          env .fontWeightScale contexts).setParameterWrap env firstInitialization "0") with
        isNeedDoCompatibleProcess := false } := rfl

section Values

theorem getDefaultFontWeightScaleValue_ne {value : String} (h : value ≠ "") :
    s.getDefaultFontWeightScaleValue env value ≠ "" := by
  unfold getDefaultFontWeightScaleValue
  split
  · exact h
  · next standard hstandard =>
    split_ifs
    · exact getParameterWrap_ne hstandard
    · exact h

theorem isSet_iff {paramName : String} :
    s.IsSet paramName ↔ ∃ value, s.parameters paramName = some value ∧ value ≠ "" := by
  unfold IsSet getParameterWrap
  cases s.parameters paramName with
  | none => simp
  | some value =>
    dsimp only [Option.getD_some]
    split_ifs with hempty
    · simp [hempty]
    · simp [hempty]

theorem isSet_congr {s s' : Service} {paramName : String}
    (h : s'.parameters paramName = s.parameters paramName) :
    s'.IsSet paramName ↔ s.IsSet paramName := by
  rw [isSet_iff, isSet_iff, h]

theorem isSet_setParameterWrap_iff (paramName key : String) {value : String} (h : value ≠ "") :
    (s.setParameterWrap env paramName value).IsSet key ↔
      s.IsSet key ∨ key = paramName ∧ env.setParameter paramName value = true := by
  by_cases hkey : key = paramName
  · subst hkey
    rw [isSet_iff, isSet_iff, parameters_setParameterWrap_self]
    split_ifs with hwrite
    · exact iff_of_true ⟨value, rfl, h⟩ (.inr ⟨rfl, hwrite⟩)
    · simp [hwrite]
  · rw [isSet_congr (parameters_setParameterWrap_of_ne env s hkey value)]
    simp [hkey]

variable {s} in
theorem migratedValue_ne {item : AppearanceItem} {value : String}
    (h : s.migratedValue env item = some value) : value ≠ "" := by
  obtain ⟨old, hold, rfl⟩ := Option.map_eq_some_iff.mp h
  have hne : old ≠ "" := getParameterWrap_ne hold
  cases item with
  | fontWeightScale => exact getDefaultFontWeightScaleValue_ne env s hne
  | darkMode => exact hne
  | fontScale => exact hne

end Values

section Items

theorem parameters_migrateParam_of_ne {paramName key : String} (h : key ≠ paramName)
    (value : String) : (s.migrateParam env paramName value).parameters key = s.parameters key := by
  unfold migrateParam
  split_ifs
  · rfl
  · exact parameters_setParameterWrap_of_ne env s h value

theorem isSet_migrateParam_iff (paramName : String) {value : String} (h : value ≠ "") :
    (s.migrateParam env paramName value).IsSet paramName ↔
      s.IsSet paramName ∨ env.setParameter paramName value = true := by
  unfold migrateParam
  split_ifs with hset
  · exact iff_of_true hset (.inl hset)
  · rw [isSet_setParameterWrap_iff env s _ _ h, and_iff_right rfl]

theorem isSet_migrateParams_iff (item : AppearanceItem) {value : String} (h : value ≠ "")
    (contexts : List AccountContext) (context : AccountContext) :
    (contexts.foldl (fun s context => s.migrateParam env (item.paramAssignUser context)
        value) s).IsSet (item.paramAssignUser context) ↔
      s.IsSet (item.paramAssignUser context) ∨
        context ∈ contexts ∧ env.setParameter (item.paramAssignUser context) value = true := by
  induction contexts generalizing s with
  | nil => simp
  | cons first rest ih =>
    rw [List.foldl_cons, ih, List.mem_cons]
    by_cases hsame : context = first
    · subst hsame
      rw [isSet_migrateParam_iff env s _ h]
      tauto
    · have hkey : item.paramAssignUser context ≠ item.paramAssignUser first :=
        fun heq => hsame ((item.paramAssignUser_inj item context first).mp heq).2
      rw [isSet_congr (parameters_migrateParam_of_ne env s hkey value)]
      simp [hsame]

theorem parameters_migrateItem_of_ne (item : AppearanceItem) (contexts : List AccountContext)
    {key : String} (h : ∀ context, key ≠ item.paramAssignUser context) :
    (s.migrateItem env item contexts).parameters key = s.parameters key := by
  unfold migrateItem migrateFamily
  split
  · rfl
  · exact frame_foldl s (fun s => s.parameters key)
      (fun s context => parameters_migrateParam_of_ne env s (h context) _) contexts

/-- One item: what was set stays set, and a value that there is goes to every listed context. -/
theorem isSet_migrateItem_iff (item : AppearanceItem) (contexts : List AccountContext)
    (context : AccountContext) :
    (s.migrateItem env item contexts).IsSet (item.paramAssignUser context) ↔
      s.IsSet (item.paramAssignUser context) ∨ context ∈ contexts ∧
        ∃ value ∈ s.migratedValue env item,
          env.setParameter (item.paramAssignUser context) value = true := by
  unfold migrateItem migrateFamily
  cases hold : s.getParameterWrap item.globalParam item.oldDefault with
  | none => simp [migratedValue, hold]
  | some old =>
    have hvalue : s.migratedValue env item = some (item.refine env s old) := by
      unfold migratedValue
      rw [hold]
      rfl
    dsimp only
    rw [isSet_migrateParams_iff env s item (migratedValue_ne env hvalue), hvalue]
    simp

theorem migratedValue_congr {env env' : Env} {s s' : Service} {item : AppearanceItem}
    (hvalid : env'.validFontWeightScale = env.validFontWeightScale)
    (hglobal : s'.parameters item.globalParam = s.parameters item.globalParam)
    (hstandard : s'.parameters standardFontWeight = s.parameters standardFontWeight) :
    s'.migratedValue env' item = s.migratedValue env item := by
  unfold migratedValue
  rw [getParameterWrap_congr hglobal]
  refine congrArg (fun f => Option.map f _) (funext fun value => ?_)
  cases item with
  | fontWeightScale =>
    change getDefaultFontWeightScaleValue env' _ value = getDefaultFontWeightScaleValue env s value
    unfold getDefaultFontWeightScaleValue
    rw [getParameterWrap_congr hstandard, hvalid]
  | darkMode => rfl
  | fontScale => rfl

theorem migratedValue_migrateItem (item item' : AppearanceItem) (contexts : List AccountContext) :
    (s.migrateItem env item contexts).migratedValue env item' = s.migratedValue env item' := by
  refine migratedValue_congr rfl ?_ ?_
  · exact parameters_migrateItem_of_ne env s item contexts
      fun context => (item.paramAssignUser_ne_globalParam item' context).symm
  · exact parameters_migrateItem_of_ne env s item contexts
      fun context => (item.paramAssignUser_ne_standard context).symm

end Items

section Process

variable (item : AppearanceItem) (context : AccountContext)

/-- What the migration leaves set, for every context and item. -/
theorem isSet_doCompatibleProcess_iff :
    (s.doCompatibleProcess env).IsSet (item.paramAssignUser context) ↔
      s.IsSet (item.paramAssignUser context) ∨
        context ∈ AccountContext.getContextsByUserIds env (getUserIds env .migration) ∧
          ∃ value ∈ s.migratedValue env item,
            env.setParameter (item.paramAssignUser context) value = true := by
  have hother (s : Service) {item' : AppearanceItem} (hne : item' ≠ item)
      (contexts : List AccountContext) :
      (s.migrateItem env item' contexts).IsSet (item.paramAssignUser context) ↔
        s.IsSet (item.paramAssignUser context) := isSet_congr
    (parameters_migrateItem_of_ne env s item' contexts fun context' hsame =>
      hne ((AppearanceItem.paramAssignUser_inj ..).mp hsame).1.symm)
  have hmarked (s : Service) : ({ s.setParameterWrap env firstInitialization "0" with
      isNeedDoCompatibleProcess := false } : Service).IsSet (item.paramAssignUser context) ↔
        s.IsSet (item.paramAssignUser context) := isSet_congr
    (parameters_setParameterWrap_of_ne env s (item.paramAssignUser_ne_first context) "0")
  rw [doCompatibleProcess_eq]
  dsimp only
  rw [hmarked]
  cases item with
  | darkMode =>
    rw [hother _ (by decide), hother _ (by decide), isSet_migrateItem_iff]
  | fontScale =>
    rw [hother _ (by decide), isSet_migrateItem_iff, hother _ (by decide),
      migratedValue_migrateItem]
  | fontWeightScale =>
    rw [isSet_migrateItem_iff, hother _ (by decide), hother _ (by decide),
      migratedValue_migrateItem, migratedValue_migrateItem]

/-- Apart from the mark, only parameters of contexts are written. -/
theorem parameters_doCompatibleProcess_of_ne {key : String}
    (h : ∀ (item : AppearanceItem) (context : AccountContext), key ≠ item.paramAssignUser context)
    (hfirst : key ≠ firstInitialization) :
    (s.doCompatibleProcess env).parameters key = s.parameters key := by
  rw [doCompatibleProcess_eq]
  dsimp only
  rw [parameters_setParameterWrap_of_ne env _ hfirst, parameters_migrateItem_of_ne env _ _ _ (h _),
    parameters_migrateItem_of_ne env _ _ _ (h _), parameters_migrateItem_of_ne env _ _ _ (h _)]

theorem mark_doCompatibleProcess :
    (s.doCompatibleProcess env).parameters firstInitialization =
      if env.setParameter firstInitialization "0" then some "0"
      else s.parameters firstInitialization := by
  have hitem (s : Service) (item : AppearanceItem) (contexts : List AccountContext) :=
    parameters_migrateItem_of_ne env s item contexts
      fun context => (item.paramAssignUser_ne_first context).symm
  rw [doCompatibleProcess_eq]
  dsimp only
  rw [parameters_setParameterWrap_self, hitem, hitem, hitem]

theorem usersParam_doCompatibleProcess :
    (s.doCompatibleProcess env).usersParam = s.usersParam := by
  have hitem (s : Service) (item : AppearanceItem) (contexts : List AccountContext) :
      (s.migrateItem env item contexts).usersParam = s.usersParam := by
    unfold migrateItem migrateFamily
    split
    · rfl
    · refine frame_foldl s usersParam (fun s context => ?_) contexts
      unfold migrateParam
      split_ifs
      · rfl
      · exact usersParam_setParameterWrap ..
  rw [doCompatibleProcess_eq]
  dsimp only
  rw [usersParam_setParameterWrap, hitem, hitem, hitem]

theorem newParam_doCompatibleProcess :
    (s.doCompatibleProcess env).newParam env = s.newParam env :=
  newParam_congr (parameters_doCompatibleProcess_of_ne env s
    (fun item context => (item.paramAssignUser_ne_standard context).symm) (by decide)) env

end Process

section Initialisation

/-- No step of the initialisation unsets a parameter. -/
theorem isSet_loadContextParam {contextKey baseKey default key : String}
    {context : AccountContext} (h : s.IsSet key) :
    (s.loadContextParam env context contextKey baseKey default).1.IsSet key := by
  rcases s.loadContextParam_cases env context contextKey baseKey default with
    hload | ⟨-, hvalue, hload⟩
  · rwa [hload]
  · rw [hload]
    exact (isSet_setParameterWrap_iff env s _ _ (getParameterWrap_ne hvalue)).mpr (.inl h)

theorem isSet_doInitProcess {key : String} (h : s.IsSet key) :
    (s.doInitProcess env).IsSet key := by
  have hcontext (s : Service) (context : AccountContext) (h : s.IsSet key) :
      (s.initContext env context).IsSet key :=
    isSet_loadContextParam env _ (isSet_loadContextParam env _ (isSet_loadContextParam env s h))
  have hall : ((AccountContext.getContextsByUserIds env (getUserIds env .initialization)).foldl
      (fun s context => s.initContext env context) s).IsSet key :=
    List.foldlRecOn (motive := fun s => s.IsSet key) _ _ h fun s hs context _ =>
      hcontext s context hs
  exact hall

theorem parameters_doInitProcess_of_ne {key : String}
    (h : ∀ (item : AppearanceItem) (context : AccountContext),
      key ≠ item.paramAssignUser context) :
    (s.doInitProcess env).parameters key = s.parameters key := by
  refine frame_foldl s (fun s => s.parameters key) (fun s context => ?_) _
  exact (parameters_loadContextParam env _ _ _ _ _ (h .fontWeightScale context)).trans
    ((parameters_loadContextParam env _ _ _ _ _ (h .fontScale context)).trans
      (parameters_loadContextParam env s _ _ _ _ (h .darkMode context)))

end Initialisation

end Service
end UiAppearance
