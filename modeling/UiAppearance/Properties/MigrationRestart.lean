import UiAppearance.Foundations.GuardedWrites
import UiAppearance.Ability.Migration

/-!
# A migration that was interrupted

The migration writes one parameter after the other and marks itself as done with
the last write. A process that stops in between leaves some of the parameters
written, and the next one starts again from the first.
-/

namespace UiAppearance

def parameterCounts (value : String) : Bool := decide (value ≠ "")

namespace Service

variable (env : Env) (s : Service)

/-- What the old parameter of an item holds, empty or not. -/
def legacyValue (item : AppearanceItem) : String :=
  s.parameters.valueAt item.globalParam item.oldDefault

/-- The values that one family has for the contexts. -/
def familyPlan (item : AppearanceItem) (contexts : List AccountContext) : List (String × String) :=
  match s.migratedValue env item with
  | none => []
  | some value => contexts.map fun context => (item.paramAssignUser context, value)

/-- The parameters of one family that are written, in order. -/
def familyWrites (item : AppearanceItem) (contexts : List AccountContext) :
    List (String × String) :=
  Table.fillWrites parameterCounts (s.familyPlan env item contexts) s.parameters

/-- All writes of the migration; each family finds what the families before it have left. -/
def migrationWrites : List (String × String) :=
  let contexts := AccountContext.getContextsByUserIds env (getUserIds env .migration)
  let colored := s.migrateItem env .darkMode contexts
  let scaled := colored.migrateItem env .fontScale contexts
  s.familyWrites env .darkMode contexts ++ colored.familyWrites env .fontScale contexts ++
    scaled.familyWrites env .fontWeightScale contexts ++ [(firstInitialization, "0")]

/-- The parameters that a process leaves which stops after some of its writes. -/
def stoppedParameters (n : ℕ) : Table String String :=
  s.parameters.putAll ((s.migrationWrites env).take n)

end Service

/-- The migration can start again, and no value is lost by it. -/
structure Restartable (env : Env) (s : Service) : Prop where
  finished : s.stoppedParameters env (s.migrationWrites env).length =
    (s.doCompatibleProcess env).parameters
  resumed : ∀ env' : Env, (∀ paramName value, env'.setParameter paramName value = true) →
    AccountContext.getContextsByUserIds env' (Service.getUserIds env' .migration) =
      AccountContext.getContextsByUserIds env (Service.getUserIds env .migration) →
    env'.validFontWeightScale = env.validFontWeightScale →
    ∀ n (s' : Service), s'.parameters = s.stoppedParameters env n →
      (s'.doCompatibleProcess env').parameters = (s.doCompatibleProcess env).parameters
  kept : ∀ n (item : AppearanceItem) context, s.IsSet (item.paramAssignUser context) →
    s.stoppedParameters env n (item.paramAssignUser context) =
      s.parameters (item.paramAssignUser context)
  received : ∀ item : AppearanceItem, s.legacyValue item ≠ "" →
    ∀ context ∈ AccountContext.getContextsByUserIds env (Service.getUserIds env .migration),
      ¬s.IsSet (item.paramAssignUser context) →
        (s.doCompatibleProcess env).parameters (item.paramAssignUser context) =
          some (item.refine env s (s.legacyValue item))
  skipped : ∀ item : AppearanceItem, s.legacyValue item = "" → ∀ context,
    (s.doCompatibleProcess env).parameters (item.paramAssignUser context) =
      s.parameters (item.paramAssignUser context)

namespace MigrationRestart

open Service Table

variable {env env' : Env} {s s' : Service}

section Families

theorem isSet_eq_any (paramName : String) :
    s.IsSet paramName ↔ (s.parameters paramName).any parameterCounts = true := by
  rw [isSet_iff]
  cases s.parameters paramName with
  | none => simp
  | some value => simp [parameterCounts]

theorem migratedValue_eq (item : AppearanceItem) : s.migratedValue env item =
    if s.legacyValue item = "" then none else some (item.refine env s (s.legacyValue item)) := by
  unfold migratedValue getParameterWrap legacyValue valueAt
  dsimp only
  split_ifs
  · rfl
  · rfl

end Families

section Plan

/-- All values that the migration has for the contexts, with what the state before it holds. -/
def migrationPlan (env : Env) (s : Service) : List (String × String) :=
  let contexts := AccountContext.getContextsByUserIds env (getUserIds env .migration)
  s.familyPlan env .darkMode contexts ++ s.familyPlan env .fontScale contexts ++
    s.familyPlan env .fontWeightScale contexts

theorem familyPlan_migrateItem (item item' : AppearanceItem)
    (contexts contexts' : List AccountContext) :
    (s.migrateItem env item contexts).familyPlan env item' contexts' =
      s.familyPlan env item' contexts' := by
  unfold familyPlan
  rw [migratedValue_migrateItem]

/-- What a family has to say counts, and is said to contexts. -/
theorem mem_familyPlan {item : AppearanceItem} {contexts : List AccountContext}
    {w : String × String} (h : w ∈ s.familyPlan env item contexts) :
    (∃ context, w.1 = item.paramAssignUser context) ∧ parameterCounts w.2 = true := by
  unfold familyPlan at h
  cases hvalue : s.migratedValue env item with
  | none =>
    rw [hvalue] at h
    cases h
  | some value =>
    rw [hvalue] at h
    obtain ⟨context, -, rfl⟩ := List.mem_map.mp h
    exact ⟨⟨context, rfl⟩, by simpa [parameterCounts] using migratedValue_ne env hvalue⟩

theorem mem_migrationPlan {w : String × String} (h : w ∈ migrationPlan env s) :
    (∃ (item : AppearanceItem) (context : AccountContext), w.1 = item.paramAssignUser context) ∧
      parameterCounts w.2 = true := by
  have hfamily {item : AppearanceItem} {contexts : List AccountContext}
      (h : w ∈ s.familyPlan env item contexts) :
      (∃ (item : AppearanceItem) (context : AccountContext), w.1 = item.paramAssignUser context) ∧
        parameterCounts w.2 = true :=
    (mem_familyPlan h).imp_left fun hname => ⟨item, hname⟩
  unfold migrationPlan at h
  rcases List.mem_append.mp h with h | h
  · rcases List.mem_append.mp h with h | h
    · exact hfamily h
    · exact hfamily h
  · exact hfamily h

theorem migrationPlan_counts : ∀ w ∈ migrationPlan env s, parameterCounts w.2 = true :=
  fun _ hw => (mem_migrationPlan hw).2

theorem lookup_familyPlan (item item' : AppearanceItem) (context : AccountContext)
    (contexts : List AccountContext) :
    (s.familyPlan env item contexts).lookup (item'.paramAssignUser context) =
      if item' = item ∧ context ∈ contexts then s.migratedValue env item else none := by
  unfold familyPlan
  cases s.migratedValue env item with
  | none => exact (ite_self _).symm
  | some value =>
    dsimp only
    induction contexts with
    | nil => simp
    | cons first rest ih =>
      rw [List.map_cons, List.lookup_cons, ih]
      by_cases hsame : item' = item ∧ context = first
      · obtain ⟨rfl, rfl⟩ := hsame
        simp
      · have hkey : item'.paramAssignUser context ≠ item.paramAssignUser first :=
          fun heq => hsame ((AppearanceItem.paramAssignUser_inj ..).mp heq)
        rw [beq_false_of_ne hkey]
        have hmem : item' = item ∧ context ∈ first :: rest ↔ item' = item ∧ context ∈ rest := by
          rw [List.mem_cons]
          tauto
        simp only [hmem]

/-- The plan has the migrated value of an item for the contexts that it is told of, and no other. -/
theorem lookup_migrationPlan (item : AppearanceItem) (context : AccountContext) :
    (migrationPlan env s).lookup (item.paramAssignUser context) =
      if context ∈ AccountContext.getContextsByUserIds env (getUserIds env .migration) then
        s.migratedValue env item
      else none := by
  unfold migrationPlan
  dsimp only
  rw [List.lookup_append, List.lookup_append, lookup_familyPlan, lookup_familyPlan,
    lookup_familyPlan]
  cases item <;> simp

end Plan

section Writes

variable {n : ℕ} (hwrites : ∀ paramName value, env.setParameter paramName value = true)

include hwrites

theorem parameters_migrateParam (paramName value : String) :
    (s.migrateParam env paramName value).parameters =
      if (s.parameters paramName).any parameterCounts then s.parameters
      else s.parameters.put paramName value := by
  change (if s.IsSet paramName then s else s.setParameterWrap env paramName value).parameters = _
  by_cases hset : s.IsSet paramName
  · rw [if_pos hset, if_pos ((isSet_eq_any _).mp hset)]
  · rw [if_neg hset, if_neg (mt (isSet_eq_any _).mpr hset)]
    unfold setParameterWrap
    rw [if_pos (hwrites _ _)]

theorem parameters_migrateItem (item : AppearanceItem) (contexts : List AccountContext) :
    (s.migrateItem env item contexts).parameters =
      fill parameterCounts (s.familyPlan env item contexts) s.parameters := by
  have hfold (value : String) (s : Service) : (contexts.foldl (fun s context =>
      s.migrateParam env (item.paramAssignUser context) value) s).parameters =
      fill parameterCounts (contexts.map fun context => (item.paramAssignUser context, value))
        s.parameters := by
    induction contexts generalizing s with
    | nil => rfl
    | cons context rest ih =>
      rw [List.foldl_cons, ih, List.map_cons, parameters_migrateParam hwrites]
      by_cases hset : (s.parameters (item.paramAssignUser context)).any parameterCounts = true
      · rw [if_pos hset, fill_cons_of_counts hset]
      · rw [if_neg hset, fill_cons_of_not hset]
  unfold migrateItem migrateFamily familyPlan migratedValue
  cases s.getParameterWrap item.globalParam item.oldDefault with
  | none => rfl
  | some old => exact hfold _ s

/-- The writes follow the plan: no family changes what another one has to say. -/
theorem migrationWrites_eq :
    s.migrationWrites env = markedWrites parameterCounts (migrationPlan env s)
      (firstInitialization, "0") s.parameters := by
  unfold migrationWrites markedWrites migrationPlan familyWrites
  dsimp only
  rw [fillWrites_append, fillWrites_append, fill_append]
  simp only [familyPlan_migrateItem, parameters_migrateItem hwrites]

theorem parameters_doCompatibleProcess :
    (s.doCompatibleProcess env).parameters =
      s.parameters.putAll (markedWrites parameterCounts (migrationPlan env s)
        (firstInitialization, "0") s.parameters) := by
  rw [doCompatibleProcess_eq, putAll_markedWrites]
  unfold migrationPlan setParameterWrap
  dsimp only
  rw [if_pos (hwrites _ _), fill_append, fill_append]
  simp only [familyPlan_migrateItem, parameters_migrateItem hwrites]

theorem parameter_doCompatibleProcess (item : AppearanceItem) (context : AccountContext) :
    (s.doCompatibleProcess env).parameters (item.paramAssignUser context) =
      if s.IsSet (item.paramAssignUser context) then s.parameters (item.paramAssignUser context)
      else ((migrationPlan env s).lookup (item.paramAssignUser context)).or
        (s.parameters (item.paramAssignUser context)) := by
  rw [parameters_doCompatibleProcess hwrites, putAll_markedWrites,
    put_of_ne (item.paramAssignUser_ne_first context), fill_apply migrationPlan_counts]
  simp only [isSet_eq_any]

theorem stoppedParameters_of_ne {key : String}
    (hkey : ∀ (item : AppearanceItem) context, key ≠ item.paramAssignUser context)
    (hfirst : key ≠ firstInitialization) : s.stoppedParameters env n key = s.parameters key := by
  unfold stoppedParameters
  rw [migrationWrites_eq hwrites]
  refine putAll_take_of_not_mem migrationPlan_counts n hfirst fun w hw => ?_
  obtain ⟨⟨item, context, hw⟩, -⟩ := mem_migrationPlan hw
  rw [hw]
  exact hkey item context

/-- The process that starts again has the same plan. -/
theorem migrationPlan_of_stopped
    (hcontexts : AccountContext.getContextsByUserIds env' (getUserIds env' .migration) =
      AccountContext.getContextsByUserIds env (getUserIds env .migration))
    (hvalid : env'.validFontWeightScale = env.validFontWeightScale)
    (h : s'.parameters = s.stoppedParameters env n) :
    migrationPlan env' s' = migrationPlan env s := by
  have hvalue (item : AppearanceItem) : s'.migratedValue env' item = s.migratedValue env item := by
    refine migratedValue_congr hvalid ?_ ?_
    · rw [h]
      exact stoppedParameters_of_ne hwrites
        (fun item' context => (item'.paramAssignUser_ne_globalParam item context).symm)
        item.globalParam_ne_first
    · rw [h]
      exact stoppedParameters_of_ne hwrites
        (fun item' context => (item'.paramAssignUser_ne_standard context).symm) (by decide)
  unfold migrationPlan familyPlan
  rw [hcontexts]
  simp only [hvalue]

end Writes

/-- While the writes succeed, a migration that stopped anywhere can start again. -/
theorem doCompatibleProcess_restartable
    (hwrites : ∀ paramName value, env.setParameter paramName value = true) :
    Restartable env s where
  finished := by
    unfold stoppedParameters
    rw [List.take_length, migrationWrites_eq hwrites, parameters_doCompatibleProcess hwrites]
  resumed := by
    intro env' hwrites' hcontexts hvalid n s' hstopped
    rw [parameters_doCompatibleProcess hwrites', parameters_doCompatibleProcess hwrites,
      migrationPlan_of_stopped hwrites hcontexts hvalid hstopped]
    refine putAll_markedWrites_of_stopped migrationPlan_counts (n := n) ?_
    rw [hstopped, ← migrationWrites_eq hwrites]
    rfl
  kept := by
    intro n item context hset
    unfold stoppedParameters
    rw [migrationWrites_eq hwrites]
    exact putAll_take_of_counts migrationPlan_counts n (item.paramAssignUser_ne_first context)
      ((isSet_eq_any _).mp hset)
  received := by
    intro item hlegacy context hcontext hset
    rw [parameter_doCompatibleProcess hwrites, if_neg hset, lookup_migrationPlan,
      if_pos hcontext, migratedValue_eq, if_neg hlegacy]
    rfl
  skipped := by
    intro item hlegacy context
    rw [parameter_doCompatibleProcess hwrites, lookup_migrationPlan, migratedValue_eq,
      if_pos hlegacy, ite_self]
    exact ite_self _

/-- Two accounts; the color of the first one has been chosen before the migration. -/
def chosenBefore : Service where
  parameters key :=
    if key = AppearanceItem.darkMode.globalParam then some dark
    else if key = AppearanceItem.darkMode.paramAssignUser (.createBaseContext 100) then some light
    else none

theorem chosenBefore_restartable :
    Restartable { clock := ⟨0, 0, 0, by decide⟩, createdOsAccounts := fun _ => [100, 101] }
      chosenBefore :=
  doCompatibleProcess_restartable fun _ _ => rfl

/-- A product with a font weight of its own; the old font weight was emptied. -/
def emptied : Service where
  parameters key :=
    if key = AppearanceItem.fontWeightScale.globalParam then some ""
    else if key = standardFontWeight then some "1.2"
    else none

/-- No context receives the font weight of the product. -/
theorem emptied_skipped :
    let env : Env := { clock := ⟨0, 0, 0, by decide⟩ }
    let context := AccountContext.createBaseContext 100
    context ∈ AccountContext.getContextsByUserIds env (getUserIds env .migration) ∧
      ¬emptied.IsSet (AppearanceItem.fontWeightScale.paramAssignUser context) ∧
      emptied.getDefaultFontWeightScaleValue env
        (emptied.legacyValue .fontWeightScale) = "1.2" ∧
      (emptied.doCompatibleProcess env).parameters
        (AppearanceItem.fontWeightScale.paramAssignUser context) = none := by
  decide +kernel

end MigrationRestart
end UiAppearance
