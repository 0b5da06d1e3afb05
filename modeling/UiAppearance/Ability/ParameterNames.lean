import UiAppearance.Ability.Appearance
import UiAppearance.Foundations.DecimalText

/-!
# Names of parameters

The parameters of different contexts, of different items and of the service as
a whole never share a name: contexts print differently, and the fixed parts
differ before the context begins.
-/

namespace UiAppearance

namespace AccountContext

theorem toString_injective {context context' : AccountContext}
    (h : context.toString = context'.toString) : context = context' := by
  have hdot (v : ℤ) : '.' ∉ (toString v).toList :=
    DecimalText.not_mem_toString (by decide) (by decide) v
  have hlist := congrArg String.toList h
  have hsub (c : AccountContext) (hc : c.isSubProfileContext = true) :
      c.toString.toList =
        (toString c.userId).toList ++ '.' :: (toString c.subProfileId).toList := by
    unfold AccountContext.toString
    rw [if_pos hc]
    simp
  have hbase (c : AccountContext) (hc : ¬c.isSubProfileContext = true) :
      c.toString.toList = (toString c.userId).toList ∧ c.subProfileId = invalidSubProfileId := by
    unfold AccountContext.toString
    rw [if_neg hc]
    simpa [isSubProfileContext] using hc
  obtain ⟨userId, subProfileId⟩ := context
  obtain ⟨userId', subProfileId'⟩ := context'
  by_cases hc : isSubProfileContext ⟨userId, subProfileId⟩ = true <;>
    by_cases hc' : isSubProfileContext ⟨userId', subProfileId'⟩ = true
  · rw [hsub _ hc, hsub _ hc'] at hlist
    obtain ⟨rfl, hprofile⟩ := DecimalText.printed_append_injective (by decide) (by decide) hlist
    obtain rfl := DecimalText.toString_injective (String.toList_injective hprofile)
    rfl
  · rw [hsub _ hc, (hbase _ hc').1] at hlist
    exact absurd (hlist ▸ List.mem_append_right _ List.mem_cons_self) (hdot userId')
  · rw [(hbase _ hc).1, hsub _ hc'] at hlist
    exact absurd (hlist.symm ▸ List.mem_append_right _ List.mem_cons_self) (hdot userId)
  · obtain ⟨huser, rfl⟩ := hbase _ hc
    obtain ⟨huser', rfl⟩ := hbase _ hc'
    rw [huser, huser'] at hlist
    obtain rfl := DecimalText.toString_injective (String.toList_injective hlist)
    rfl

theorem buildUserParamKey_injective {name : String} {context context' : AccountContext}
    (h : buildUserParamKey name context = buildUserParamKey name context') :
    context = context' := by
  have hlist := congrArg String.toList h
  unfold buildUserParamKey at hlist
  rw [String.toList_append, String.toList_append] at hlist
  exact toString_injective (String.toList_injective (List.append_cancel_left hlist))

/-- The name of a parameter begins with its fixed part. -/
theorem buildUserParamKey_ne {name key : String}
    (h : name.toList.isPrefixOf key.toList = false) (context : AccountContext) :
    buildUserParamKey name context ≠ key := by
  rintro rfl
  unfold buildUserParamKey at h
  rw [← Bool.not_eq_true, List.isPrefixOf_iff_prefix, String.toList_append] at h
  exact h (List.prefix_append _ _)

theorem buildUserParamKey_ne_build {name name' : String}
    (h : name.toList.isPrefixOf name'.toList = false)
    (h' : name'.toList.isPrefixOf name.toList = false) (context context' : AccountContext) :
    buildUserParamKey name context ≠ buildUserParamKey name' context' := by
  rw [← Bool.not_eq_true, List.isPrefixOf_iff_prefix] at h h'
  intro heq
  have hlist := congrArg String.toList heq
  unfold buildUserParamKey at hlist
  rw [String.toList_append, String.toList_append] at hlist
  have hprefix : name.toList <+: name'.toList ++ context'.toString.toList := by
    rw [← hlist]
    exact List.prefix_append _ _
  rcases List.prefix_or_prefix_of_prefix hprefix (List.prefix_append name'.toList _) with hp | hp
  · exact h hp
  · exact h' hp

end AccountContext

/-- The families of parameters that every context has. -/
inductive UserParamFamily where
  | darkMode
  | fontScale
  | fontWeightScale
  | temporaryFlag
  | temporaryStartTime
  | temporaryEndTime
  deriving DecidableEq, Repr

namespace UserParamFamily

/-- The fixed part of the names. -/
def paramName : UserParamFamily → String
  | darkMode => persistDarkmodeKeyForNone
  | fontScale => fontScaleForNone
  | fontWeightScale => fontWeightScaleForNone
  | temporaryFlag => TemporaryColorMode.colorModeParamString
  | temporaryStartTime => TemporaryColorMode.startTimeParamString
  | temporaryEndTime => TemporaryColorMode.endTimeParamString

variable {family family' : UserParamFamily} {context context' : AccountContext}

/-- No fixed part is the beginning of another one. -/
theorem paramName_not_isPrefixOf (h : family ≠ family') :
    family.paramName.toList.isPrefixOf family'.paramName.toList = false := by
  revert h
  cases family <;> cases family' <;> decide

theorem buildUserParamKey_inj :
    AccountContext.buildUserParamKey family.paramName context =
        AccountContext.buildUserParamKey family'.paramName context' ↔
      family = family' ∧ context = context' := by
  constructor
  · intro h
    by_cases hfamily : family = family'
    · subst hfamily
      exact ⟨rfl, AccountContext.buildUserParamKey_injective h⟩
    · exact absurd h (AccountContext.buildUserParamKey_ne_build (paramName_not_isPrefixOf hfamily)
        (paramName_not_isPrefixOf (Ne.symm hfamily)) context context')
  · rintro ⟨rfl, rfl⟩
    rfl

end UserParamFamily

/-- The three parts of an appearance. -/
inductive AppearanceItem where
  | darkMode
  | fontScale
  | fontWeightScale
  deriving DecidableEq, Repr

namespace AppearanceItem

/-- The fixed part of the parameters of contexts. -/
def paramName : AppearanceItem → String
  | darkMode => persistDarkmodeKeyForNone
  | fontScale => fontScaleForNone
  | fontWeightScale => fontWeightScaleForNone

def paramAssignUser (item : AppearanceItem) (context : AccountContext) : String :=
  AccountContext.buildUserParamKey item.paramName context

/-- The parameter of the service as a whole. -/
def globalParam : AppearanceItem → String
  | darkMode => persistDarkmodeKey
  | fontScale => fontScaleForUser0
  | fontWeightScale => fontWeightScaleForUser0

def family : AppearanceItem → UserParamFamily
  | darkMode => .darkMode
  | fontScale => .fontScale
  | fontWeightScale => .fontWeightScale

variable (item item' : AppearanceItem) (context context' : AccountContext)

theorem family_inj : item.family = item'.family ↔ item = item' := by
  cases item <;> cases item' <;> decide

theorem paramName_family : item.family.paramName = item.paramName := by
  cases item <;> rfl

theorem paramAssignUser_inj : item.paramAssignUser context = item'.paramAssignUser context' ↔
    item = item' ∧ context = context' := by
  unfold paramAssignUser
  rw [← paramName_family, ← paramName_family, UserParamFamily.buildUserParamKey_inj, family_inj]

theorem paramAssignUser_ne_globalParam :
    item.paramAssignUser context ≠ item'.globalParam := by
  refine AccountContext.buildUserParamKey_ne ?_ context
  cases item <;> cases item' <;> decide

theorem paramAssignUser_ne_standard : item.paramAssignUser context ≠ standardFontWeight := by
  refine AccountContext.buildUserParamKey_ne ?_ context
  cases item <;> decide

theorem globalParam_ne_standard : item.globalParam ≠ standardFontWeight := by
  cases item <;> decide

theorem paramAssignUser_ne_first : item.paramAssignUser context ≠ firstInitialization := by
  refine AccountContext.buildUserParamKey_ne ?_ context
  cases item <;> decide

theorem globalParam_ne_first : item.globalParam ≠ firstInitialization := by
  cases item <;> decide

theorem isTemporaryParam_paramAssignUser :
    isTemporaryParam (item.paramAssignUser context) = false := by
  cases item
  · exact Service.not_isTemporaryParam_darkMode context
  · exact Service.not_isTemporaryParam_fontScale context
  · exact Service.not_isTemporaryParam_fontWeightScale context

theorem isTemporaryParam_globalParam : isTemporaryParam item.globalParam = false := by
  cases item <;> decide

end AppearanceItem

end UiAppearance
