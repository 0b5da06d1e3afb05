import UiAppearance.Properties.ShownConfiguration

/-!
# A switch of the centre

When the sub-profile of user 100 changes, its appearance goes to the context in
the foreground of every other effective user: to the entry in memory, to the
three parameters, and to the application manager. For any other user the centre
hands its entry to the one context that was switched to.
-/

namespace UiAppearance
namespace CenterSwitch

open Service ShownConfiguration

/-- A context has an entry in memory and in its parameters, and its user is shown it. -/
structure Synchronised (s : Service) (shown : ℤ → Configuration) (param : UiAppearanceParam)
    (context : AccountContext) : Prop where
  entry : s.usersParam context = some param
  parameters : ∀ item : AppearanceItem,
    s.parameters (item.paramAssignUser context) = some (item.valueOf param)
  shown : shown context.userId = .ofParam param

/-- The effective users apart from the centre. -/
def otherUsers (env : Env) : List ℤ := (getMultipleUsers env).filter fun userId => userId ≠ user100

/-- What the users are shown after a call. -/
def shownAfter (s s' : Service) (shown : ℤ → Configuration) : ℤ → Configuration :=
  (sent s s').foldr update shown

/-- A switch of the centre to a sub-profile. -/
structure CenterSynchronised (env : Env) (s : Service) (shown : ℤ → Configuration)
    (subProfileId : ℤ) : Prop where
  center : ∃ param, (s.handleSubProfileSwitched env user100 subProfileId).usersParam
      (subProfileContext env user100 subProfileId) = some param ∧
    ∀ userId ∈ otherUsers env,
      Synchronised (s.handleSubProfileSwitched env user100 subProfileId)
        (shownAfter s (s.handleSubProfileSwitched env user100 subProfileId) shown) param
        (.getForegroundContext env userId)
  others : ∀ context, context ≠ subProfileContext env user100 subProfileId →
    (∀ userId ∈ otherUsers env, context ≠ .getForegroundContext env userId) →
      (s.handleSubProfileSwitched env user100 subProfileId).usersParam context =
        s.usersParam context

/-- A switch of another user to a sub-profile. -/
structure TargetSynchronised (env : Env) (s : Service) (shown : ℤ → Configuration)
    (userId subProfileId : ℤ) : Prop where
  target : ∀ param, s.usersParam (.getForegroundContext env user100) = some param →
    Synchronised (s.handleSubProfileSwitched env userId subProfileId)
      (shownAfter s (s.handleSubProfileSwitched env userId subProfileId) shown) param
      (subProfileContext env userId subProfileId) ∧
    ∀ context, context ≠ subProfileContext env userId subProfileId →
      (s.handleSubProfileSwitched env userId subProfileId).usersParam context =
        s.usersParam context
  absent : s.usersParam (.getForegroundContext env user100) = none →
    s.handleSubProfileSwitched env userId subProfileId = s

variable {env : Env} {s s' : Service} {center : AccountContext} {param : UiAppearanceParam}

section Spread

/-- An entry went to each of several contexts, and their users were told of it in turn. -/
structure Spread (param : UiAppearanceParam) (targets : List AccountContext) (s s' : Service) :
    Prop where
  entries : ∀ c ∈ targets, s'.usersParam c = some param
  others : ∀ c, c ∉ targets → s'.usersParam c = s.usersParam c
  parameters : ∀ c ∈ targets, ∀ item : AppearanceItem,
    s'.parameters (item.paramAssignUser c) = some (item.valueOf param)
  kept : ∀ c, c ∉ targets → ∀ item : AppearanceItem,
    s'.parameters (item.paramAssignUser c) = s.parameters (item.paramAssignUser c)
  told : s'.appearance.configurations =
    (targets.map fun c => (Configuration.ofParam param, [c.userId])).reverse ++
      s.appearance.configurations

theorem Spread.nil : Spread param [] s s := ⟨nofun, fun _ _ => rfl, nofun, fun _ _ _ => rfl, rfl⟩

theorem Spread.cons {s₁ : Service} {c : AccountContext} {targets : List AccountContext}
    (h : Spread param [c] s s₁) (hrest : Spread param targets s₁ s') :
    Spread param (c :: targets) s s' where
  entries := by
    intro c' hc'
    by_cases hlater : c' ∈ targets
    · exact hrest.entries c' hlater
    · rw [hrest.others c' hlater]
      exact h.entries c' (List.mem_singleton.mpr ((List.mem_cons.mp hc').resolve_right hlater))
  others := by
    intro c' hc'
    obtain ⟨hfirst, hlater⟩ := not_or.mp (mt List.mem_cons.mpr hc')
    rw [hrest.others c' hlater, h.others c' (mt List.mem_singleton.mp hfirst)]
  parameters := by
    intro c' hc' item
    by_cases hlater : c' ∈ targets
    · exact hrest.parameters c' hlater item
    · rw [hrest.kept c' hlater]
      exact h.parameters c'
        (List.mem_singleton.mpr ((List.mem_cons.mp hc').resolve_right hlater)) item
  kept := by
    intro c' hc' item
    obtain ⟨hfirst, hlater⟩ := not_or.mp (mt List.mem_cons.mpr hc')
    rw [hrest.kept c' hlater, h.kept c' (mt List.mem_singleton.mp hfirst)]
  told := by
    rw [hrest.told, h.told]
    simp

variable (hhealthy : Healthy env)
  (hset : ∀ paramName value, env.setParameter paramName value = true)

include hhealthy hset in
/-- One context takes over the entry of the centre. -/
theorem spread_applyAppearanceContextToUser (target : AccountContext)
    (hsource : s.usersParam center = some param) :
    Spread param [target] s (s.applyAppearanceContextToUser env center target) where
  entries := by
    intro c hc
    obtain rfl := List.mem_singleton.mp hc
    rw [usersParam_applyAppearanceContextToUser env c hsource, Table.put_self]
  others := by
    intro c hc
    rw [usersParam_applyAppearanceContextToUser env target hsource,
      Table.put_of_ne (mt List.mem_singleton.mpr hc)]
  parameters := by
    intro c hc item
    rw [parameters_applyAppearanceContextToUser hset s target hsource,
      if_pos (List.mem_singleton.mp hc)]
  kept := by
    intro c hc item
    rw [parameters_applyAppearanceContextToUser hset s target hsource,
      if_neg (mt List.mem_singleton.mpr hc)]
  told := by
    have hparam : (keepEntry env { s with usersParam := s.usersParam.put target param } target
        param).paramOf env target = param := by
      unfold paramOf keepEntry
      simp only [usersParam_setParameterWrap]
      exact Table.valueAt_put_self
    rw [applyAppearanceContextToUser_of_some env target hsource,
      configurations_updateCurrentUserConfiguration hhealthy, hparam]
    unfold keepEntry addressee
    simp only [configurations_setParameterWrap]
    rfl

include hhealthy hset in
/-- The loop over the effective users, which leaves the centre alone. -/
theorem spread_loop (hcenter : center.userId = user100) (userIds : List ℤ)
    (hsource : s.usersParam center = some param) :
    Spread param ((userIds.filter fun userId => userId ≠ user100).map
        (AccountContext.getForegroundContext env)) s
      (userIds.foldl (fun s userId => if userId = user100 then s
        else s.applyAppearanceContextToUser env center (.getForegroundContext env userId)) s) := by
  induction userIds generalizing s with
  | nil => exact .nil
  | cons userId rest ih =>
    rw [List.foldl_cons]
    by_cases huser : userId = user100
    · rw [if_pos huser, List.filter_cons_of_neg (by simpa using huser)]
      exact ih hsource
    · rw [if_neg huser, List.filter_cons_of_pos (by simpa using huser), List.map_cons]
      have hfirst := spread_applyAppearanceContextToUser hhealthy hset
        (.getForegroundContext env userId) hsource
      refine hfirst.cons (ih ?_)
      rw [hfirst.others center ?_, hsource]
      intro hmem
      obtain rfl := List.mem_singleton.mp hmem
      exact huser (by simpa using hcenter)

end Spread

section Shown

/-- Messages with one configuration show it to whoever they are addressed to. -/
theorem foldr_update (config : UiAppearanceParam) (userIds : List ℤ)
    (shown : ℤ → Configuration) (userId : ℤ) :
    ((userIds.map fun u => (Configuration.ofParam config, [u])).foldr update shown) userId =
      if userId ∈ userIds then .ofParam config else shown userId := by
  induction userIds with
  | nil => rfl
  | cons first rest ih =>
    change (if userId ∈ [first] then (Configuration.ofParam config).merge (List.foldr update shown _
      userId) else List.foldr update shown _ userId) = _
    rw [ih]
    by_cases hfirst : userId = first
    · simp [hfirst]
    · simp [hfirst]

/-- Whatever was sent before it, a user that an entry has spread to is shown the entry. -/
theorem shownAfter_of_spread {s₁ : Service} {targets : List AccountContext}
    (h : Spread param targets s₁ s')
    (hfirst : ∃ first, s₁.appearance.configurations = first ++ s.appearance.configurations)
    (shown : ℤ → Configuration) {c : AccountContext} (hc : c ∈ targets) :
    shownAfter s s' shown c.userId = .ofParam param := by
  obtain ⟨first, hfirst⟩ := hfirst
  have hnews : (targets.map fun c => (Configuration.ofParam param, [c.userId])).reverse =
      (targets.map AccountContext.userId).reverse.map
        fun u => (Configuration.ofParam param, [u]) := by
    rw [← List.map_reverse, ← List.map_reverse, List.map_map]
    rfl
  have hsent : sent s s' = (targets.map AccountContext.userId).reverse.map
      (fun u => (Configuration.ofParam param, [u])) ++ first := by
    refine sent_eq ?_
    rw [h.told, hfirst, hnews, List.append_assoc]
  unfold shownAfter
  rw [hsent, List.foldr_append, foldr_update, if_pos]
  rw [List.mem_reverse]
  exact List.mem_map_of_mem hc

end Shown

section Switches

variable (hsubspace : env.enableSubspace = true) (hhealthy : Healthy env)
  (hset : ∀ paramName value, env.setParameter paramName value = true)

include hsubspace hhealthy hset

theorem centerSynchronised (hfinished : s.isInitializationFinished = true)
    (shown : ℤ → Configuration) (subProfileId : ℤ) :
    CenterSynchronised env s shown subProfileId := by
  set center := subProfileContext env user100 subProfileId with hdef
  have hcenter : center.userId = user100 := by
    rw [hdef]
    unfold subProfileContext AccountContext.createContext
    split_ifs
    · exact AccountContext.getForegroundContext_userId ..
    · rfl
  have hentry : (s.accountContextSwitchFunc env center).usersParam center =
      some (s.switchedParam env center) := by
    rw [usersParam_accountContextSwitchFunc, Table.put_self]
  have hswitch : s.handleSubProfileSwitched env user100 subProfileId =
      (getMultipleUsers env).foldl (fun s userId => if userId = user100 then s
        else s.applyAppearanceContextToUser env center (.getForegroundContext env userId))
        (s.accountContextSwitchFunc env center) := by
    unfold handleSubProfileSwitched
    rw [hsubspace]
    rfl
  have hspread := spread_loop hhealthy hset hcenter (getMultipleUsers env) hentry
  rw [← hswitch] at hspread
  constructor
  · refine ⟨s.switchedParam env center, ?_, ?_⟩
    · rw [hspread.others center, hentry]
      intro hmem
      obtain ⟨userId, huser, heq⟩ := List.mem_map.mp hmem
      have hother : userId ≠ user100 := by simpa using (List.mem_filter.mp huser).2
      rw [← heq, AccountContext.getForegroundContext_userId] at hcenter
      exact hother hcenter
    · intro userId huser
      have htarget := List.mem_map_of_mem (f := AccountContext.getForegroundContext env) huser
      exact
        { entry := hspread.entries _ htarget
          parameters := hspread.parameters _ htarget
          shown := shownAfter_of_spread hspread
            ⟨[_], configurations_accountContextSwitchFunc hhealthy⟩ shown htarget }
  · intro context hne hnone
    rw [hspread.others context, usersParam_accountContextSwitchFunc, Table.put_of_ne hne,
      usersParam_switchPrepared hfinished]
    intro hmem
    obtain ⟨userId, huser, heq⟩ := List.mem_map.mp hmem
    exact hnone userId huser heq.symm

theorem targetSynchronised (shown : ℤ → Configuration) {userId : ℤ} (huser : userId ≠ user100)
    (hvalid : invalidUserId < userId) (subProfileId : ℤ) :
    TargetSynchronised env s shown userId subProfileId := by
  have hswitch : s.handleSubProfileSwitched env userId subProfileId =
      s.applyAppearanceContextToUser env (.getForegroundContext env user100)
        (subProfileContext env userId subProfileId) := by
    unfold handleSubProfileSwitched
    rw [hsubspace, if_pos huser, if_neg (Int.not_le.mpr hvalid)]
    rfl
  constructor
  · intro param hsource
    have hspread := spread_applyAppearanceContextToUser hhealthy hset
      (subProfileContext env userId subProfileId) hsource
    rw [← hswitch] at hspread
    have htarget := List.mem_singleton_self (subProfileContext env userId subProfileId)
    refine ⟨?_, fun context hne => hspread.others context (mt List.mem_singleton.mp hne)⟩
    exact
      { entry := hspread.entries _ htarget
        parameters := hspread.parameters _ htarget
        shown := shownAfter_of_spread hspread ⟨[], rfl⟩ shown htarget }
  · intro hnone
    rw [hswitch]
    unfold applyAppearanceContextToUser
    rw [hnone]

/-- A switch of the centre reaches the effective users, one of another user that user alone. -/
theorem handleSubProfileSwitched_synchronises (hfinished : s.isInitializationFinished = true)
    (shown : ℤ → Configuration) :
    (∀ subProfileId, CenterSynchronised env s shown subProfileId) ∧
      ∀ userId subProfileId, userId ≠ user100 → invalidUserId < userId →
        TargetSynchronised env s shown userId subProfileId :=
  ⟨centerSynchronised hsubspace hhealthy hset hfinished shown,
    fun _ subProfileId huser hvalid =>
      targetSynchronised hsubspace hhealthy hset shown huser hvalid subProfileId⟩

end Switches

/-- Two effective users besides the centre, whose sub-profile 7 is dark by its settings. -/
def darkCenter : Service where
  isInitializationFinished := true
  settingDataManager :=
    { tables := fun _ => Table.empty.put "settings.uiappearance.darkmode_mode.7" "1" }

theorem darkCenter_synchronises :
    let env : Env :=
      { clock := ⟨43200, 43200, 0, by decide⟩, foregroundOsAccounts := [100, 101, 102] }
    (∀ subProfileId, CenterSynchronised env darkCenter (fun _ => {}) subProfileId) ∧
      ∀ userId subProfileId, userId ≠ user100 → invalidUserId < userId →
        TargetSynchronised env darkCenter (fun _ => {}) userId subProfileId :=
  handleSubProfileSwitched_synchronises rfl ⟨rfl, fun _ => rfl⟩ (fun _ _ => rfl) rfl _

end CenterSwitch
end UiAppearance
