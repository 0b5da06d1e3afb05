import UiAppearance.Ability.Setters

/-!
# Setting, then getting

A getter reads the entry of its caller; a setter writes those of the effective
users, and compares with the entry of its caller only. The two agree exactly
where the caller is one of the effective users, or where every entry concerned
held the value before.
-/

namespace UiAppearance

namespace Request

open Service

/-- The getter of the same caller returns the requested value. -/
def Got (env : Env) (s : Service) : Request → Prop
  | setDarkMode mode => s.getDarkMode env = .ofInt mode
  | setFontScale fontScale => s.getFontScale env = fontScale
  | setFontWeightScale fontWeightScale => s.getFontWeightScale env = fontWeightScale

/-- The entry of a context holds the requested value. -/
def Holds (s : Service) (r : Request) (context : AccountContext) : Prop :=
  ∃ param, s.usersParam context = some param ∧ r.assign param = param

/-- The call is turned down because its value is the current one. -/
def Declined (env : Env) (s : Service) : Request → Prop
  | setDarkMode mode => s.getDarkMode env = .ofInt mode
  | _ => False

def isSetDarkMode : Request → Bool
  | setDarkMode _ => true
  | _ => false

/-- A colour that is asked for is one of the two. -/
def Known : Request → Prop
  | setDarkMode mode => DarkMode.ofInt mode ≠ .unknown
  | _ => True

/-- An empty text is refused. -/
def isEmpty : Request → Bool
  | setDarkMode _ => false
  | setFontScale fontScale => fontScale = ""
  | setFontWeightScale fontWeightScale => fontWeightScale = ""

end Request

namespace SetThenGet

open Service Scenario

/-- An authorised caller, and nothing that is asked for fails. -/
structure Healthy (env : Env) : Prop where
  accessGranted : env.accessGranted = true
  appManager : env.appManager = true
  updateConfiguration : ∀ userIds, env.updateConfiguration userIds = true
  setParameter : ∀ paramName value, env.setParameter paramName value = true

/-- After a call that succeeds or is declined the caller gets the value, and for a colour every
one of several effective users holds it. -/
def Agrees (env : Env) (s : Service) (r : Request) : Prop :=
  (r.call env s).2 = .succeeded ∨ r.Declined env s →
    r.Got env (r.call env s).1 ∧
      (r.isSetDarkMode = true → 1 < (r.effectiveUserIds env).length →
        ∀ userId ∈ r.effectiveUserIds env,
          r.Holds (r.call env s).1 (.getForegroundContext env userId))

/-- An empty text; or one effective user at most; or the value was there before, for a colour with
every effective user; or the caller is an effective user. -/
def Covered (env : Env) (s : Service) (r : Request) : Prop :=
  r.isEmpty = true ∨ (r.effectiveUserIds env).length ≤ 1 ∨
    (r.Got env s ∧ (r.isSetDarkMode = true → ∀ userId ∈ r.effectiveUserIds env,
      r.Holds s (.getForegroundContext env userId))) ∨
    (¬r.Got env s ∧ getCallingUserId env ∈ r.effectiveUserIds env)

variable {env : Env} {s s' : Service} {r : Request}

theorem declined_iff (hmode : r.isSetDarkMode = true) : r.Declined env s ↔ r.Got env s := by
  cases r with
  | setDarkMode mode => exact Iff.rfl
  | setFontScale fontScale => cases hmode
  | setFontWeightScale fontWeightScale => cases hmode

/-- A getter looks at the entry of the caller only. -/
theorem got_congr (h : s'.usersParam (getCallingAccountContext env) =
    s.usersParam (getCallingAccountContext env)) : r.Got env s' ↔ r.Got env s := by
  cases r <;>
    simp only [Request.Got, getDarkMode, currentDarkMode, getFontScale, getFontWeightScale, h]

theorem got_of_assigned {param : UiAppearanceParam}
    (h : s.usersParam (getCallingAccountContext env) = some (r.assign param)) : r.Got env s := by
  cases r <;>
    simp only [Request.Got, getDarkMode, currentDarkMode, getFontScale, getFontWeightScale, h] <;>
    rfl

theorem updateConfiguration_healthy (h : Healthy env) (config : Configuration) (userId : ℤ)
    (effectiveUserIds : List ℤ) :
    (s.updateConfiguration env config userId effectiveUserIds).2 = true := by
  unfold Service.updateConfiguration
  simp [h.appManager, h.updateConfiguration]

/-- With nothing failing, a call is admitted unless it is declined. -/
theorem admitted_iff (h : Healthy env) (hr : r.Known) (hempty : r.isEmpty = false) :
    r.admitted env s = true ↔ ¬r.Declined env s := by
  cases r with
  | setDarkMode mode =>
    simp only [Request.admitted, admitsSetDarkMode, h.accessGranted,
      updateConfiguration_healthy h, Request.Declined, Bool.true_and, Bool.and_true,
      Bool.and_eq_true, decide_eq_true_eq]
    constructor
    · exact fun hadmitted hsame => hadmitted.1 hsame.symm
    · exact fun hdiffers => ⟨fun hsame => hdiffers hsame.symm, hr⟩
  | setFontScale fontScale =>
    have hvalue : fontScale ≠ "" := of_decide_eq_false hempty
    exact iff_of_true (by simp [Request.admitted, Request.admitsFont, h.accessGranted,
      updateConfiguration_healthy h, hvalue]) id
  | setFontWeightScale fontWeightScale =>
    have hvalue : fontWeightScale ≠ "" := of_decide_eq_false hempty
    exact iff_of_true (by simp [Request.admitted, Request.admitsFont, h.accessGranted,
      updateConfiguration_healthy h, hvalue]) id

theorem not_admitted_of_isEmpty (hempty : r.isEmpty = true) : r.admitted env s = false := by
  cases r with
  | setDarkMode mode => cases hempty
  | setFontScale fontScale =>
    simp [Request.admitted, Request.admitsFont, show fontScale = "" from of_decide_eq_true hempty]
  | setFontWeightScale fontWeightScale =>
    simp [Request.admitted, Request.admitsFont,
      show fontWeightScale = "" from of_decide_eq_true hempty]

theorem writes_healthy (h : Healthy env) (context : AccountContext) :
    r.writes env context = true := by
  cases r <;> exact h.setParameter _ _

theorem succeeded_iff (h : Healthy env) (hr : r.Known) (hempty : r.isEmpty = false) :
    (r.call env s).2 = .succeeded ↔ ¬r.Declined env s := by
  rw [r.succeeded_iff env s, admitted_iff h hr hempty]
  exact and_iff_left fun context _ => writes_healthy h context

/-- A declined call changes no entry, any other one those of all its targets. -/
theorem usersParam_of_declined (h : Healthy env) (hr : r.Known) (hempty : r.isEmpty = false)
    (hd : r.Declined env s) :
    (r.call env s).1.usersParam = s.usersParam := by
  have hrefused : r.admitted env s = false := by
    rw [← Bool.not_eq_true, admitted_iff h hr hempty]
    exact not_not_intro hd
  exact congrArg Service.usersParam (Request.call_of_refused hrefused).1

theorem assigned_targets (h : Healthy env) (hr : r.Known) (hempty : r.isEmpty = false)
    (hd : ¬r.Declined env s) :
    Table.Assigned r.assign (s.newParam env) (r.targets env) s.usersParam
      (r.call env s).1.usersParam := by
  have hassigned := r.assigned_call env s
  unfold Request.reached at hassigned
  rwa [if_pos ((admitted_iff h hr hempty).mpr hd),
    reachedContexts_of_all fun context _ => writes_healthy h context] at hassigned

theorem mem_targets_iff : getCallingAccountContext env ∈ r.targets env ↔
    (r.effectiveUserIds env).length ≤ 1 ∨ getCallingUserId env ∈ r.effectiveUserIds env := by
  unfold Request.targets
  split_ifs with hseveral
  · rw [or_iff_right (by omega)]
    constructor
    · intro hmem
      obtain ⟨userId, huser, hsame⟩ := List.mem_map.mp hmem
      have hid := congrArg AccountContext.userId hsame
      rw [getCallingAccountContext, AccountContext.getForegroundContext_userId,
        AccountContext.getForegroundContext_userId] at hid
      rwa [← hid]
    · exact fun hmem => List.mem_map_of_mem hmem
  · exact iff_of_true (List.mem_singleton.mpr rfl) (.inl (by omega))

/-- The caller gets the value when it is a target, or when it got it before. -/
theorem got_after_iff (h : Healthy env) (hr : r.Known) (hempty : r.isEmpty = false)
    (hd : ¬r.Declined env s) :
    r.Got env (r.call env s).1 ↔
      getCallingAccountContext env ∈ r.targets env ∨ r.Got env s := by
  have hassigned := assigned_targets h hr hempty hd
  by_cases hmem : getCallingAccountContext env ∈ r.targets env
  · exact iff_of_true (got_of_assigned (hassigned.entries _ hmem)) (.inl hmem)
  · rw [or_iff_right hmem]
    exact got_congr (hassigned.others _ hmem)

theorem holds_after (h : Healthy env) (hr : r.Known) (hempty : r.isEmpty = false)
    (hd : ¬r.Declined env s)
    (hseveral : 1 < (r.effectiveUserIds env).length) {userId : ℤ}
    (huser : userId ∈ r.effectiveUserIds env) :
    r.Holds (r.call env s).1 (.getForegroundContext env userId) := by
  have hmem : AccountContext.getForegroundContext env userId ∈ r.targets env := by
    unfold Request.targets
    rw [if_pos hseveral]
    exact List.mem_map_of_mem huser
  exact ⟨_, (assigned_targets h hr hempty hd).entries _ hmem, r.assign_assign _⟩

theorem agrees_of_declined (h : Healthy env) (hr : r.Known) (hempty : r.isEmpty = false)
    (hd : r.Declined env s)
    (hmode : r.isSetDarkMode = true) : Agrees env s r ↔ Covered env s r := by
  have hsame := usersParam_of_declined h hr hempty hd
  have hgot : r.Got env s := (declined_iff hmode).mp hd
  have hgot' : r.Got env (r.call env s).1 := (got_congr (congrFun hsame _)).mpr hgot
  have hholds (context : AccountContext) :
      r.Holds (r.call env s).1 context ↔ r.Holds s context := by
    unfold Request.Holds
    rw [hsame]
  simp only [Agrees, Covered, hempty, hd, hgot, hgot', hmode, hholds, or_true, true_and,
    forall_const, not_true, false_and, or_false, false_or, Bool.false_eq_true]
  rw [← Nat.not_lt]
  tauto

theorem agrees_of_not_declined (h : Healthy env) (hr : r.Known) (hempty : r.isEmpty = false)
    (hd : ¬r.Declined env s) :
    Agrees env s r ↔ Covered env s r := by
  have hresult := (succeeded_iff (s := s) h hr hempty).mpr hd
  have hgot := got_after_iff h hr hempty hd
  rw [mem_targets_iff] at hgot
  have hcolour (hmode : r.isSetDarkMode = true) : ¬r.Got env s := mt (declined_iff hmode).mpr hd
  unfold Agrees Covered
  simp only [hresult, hempty, true_or, false_or, forall_const, hgot, Bool.false_eq_true]
  constructor
  · rintro ⟨(hone | hmem) | hbefore, -⟩
    · exact .inl hone
    · by_cases hbefore : r.Got env s
      · exact .inr (.inl ⟨hbefore, fun hmode => absurd hbefore (hcolour hmode)⟩)
      · exact .inr (.inr ⟨hbefore, hmem⟩)
    · exact .inr (.inl ⟨hbefore, fun hmode => absurd hbefore (hcolour hmode)⟩)
  · intro hcovered
    constructor
    · rcases hcovered with hone | ⟨hbefore, -⟩ | ⟨-, hmem⟩
      · exact .inl (.inl hone)
      · exact .inr hbefore
      · exact .inl (.inr hmem)
    · intro _ hseveral userId huser
      exact holds_after h hr hempty hd hseveral huser

theorem agrees_iff (h : Healthy env) (hr : r.Known) : Agrees env s r ↔ Covered env s r := by
  cases hempty : r.isEmpty with
  | true =>
    have hrefused : r.admitted env s = false := not_admitted_of_isEmpty hempty
    have hfailed := (Request.call_of_refused hrefused).2
    have hnever : ¬r.Declined env s := by
      cases r with
      | setDarkMode mode => cases hempty
      | setFontScale fontScale => exact id
      | setFontWeightScale fontWeightScale => exact id
    exact iff_of_true (fun hresult => absurd hresult (not_or.mpr ⟨hfailed, hnever⟩)) (.inl hempty)
  | false =>
    by_cases hd : r.Declined env s
    · have hmode : r.isSetDarkMode = true := by
        cases r with
        | setDarkMode mode => rfl
        | setFontScale fontScale => exact hd.elim
        | setFontWeightScale fontWeightScale => exact hd.elim
      exact agrees_of_declined h hr hempty hd hmode
    · exact agrees_of_not_declined h hr hempty hd

/-- Two effective users, and a caller that is neither of them. -/
def otherCaller : Env :=
  { noon with foregroundOsAccounts := [100, 101], callingUid := 102 * 200000 }

/-- The same two, with the first of them as the caller. -/
def firstCaller : Env :=
  { noon with foregroundOsAccounts := [100, 101], callingUid := 100 * 200000 }

def darkAndLight : Service :=
  { usersParam := (Table.empty.put (.createBaseContext 100) { darkMode := .alwaysDark }).put
      (.createBaseContext 101) {} }

theorem firstCaller_agrees : Agrees firstCaller darkAndLight (.setDarkMode 1) := by
  have hknown : (Request.setDarkMode 1).Known := show DarkMode.ofInt 1 ≠ .unknown by decide
  have hdark : getDarkMode firstCaller darkAndLight ≠ .ofInt 1 := by decide
  exact (agrees_iff ⟨rfl, rfl, fun _ => rfl, fun _ _ => rfl⟩ hknown).mpr
    (.inr (.inr (.inr ⟨hdark, by decide⟩)))

/-- A caller that is no effective user is told of a success it cannot see; and a request that is
current for its caller leaves another effective user without it. -/
theorem left_out :
    ((Request.setDarkMode 0).call otherCaller darkAndLight).2 = .succeeded ∧
      ¬Agrees otherCaller darkAndLight (.setDarkMode 0) ∧
      ((Request.setFontScale "2").call otherCaller darkAndLight).2 = .succeeded ∧
      ¬Agrees otherCaller darkAndLight (.setFontScale "2") ∧
      (Request.setDarkMode 0).Declined firstCaller darkAndLight ∧
      ¬Agrees firstCaller darkAndLight (.setDarkMode 0) := by
  have hset : ((Request.setDarkMode 0).call otherCaller darkAndLight).2 = .succeeded := by decide
  have hfont : ((Request.setFontScale "2").call otherCaller darkAndLight).2 = .succeeded := by
    decide
  have hcurrent : (Request.setDarkMode 0).Declined firstCaller darkAndLight := by
    change getDarkMode firstCaller darkAndLight = .alwaysDark
    decide
  refine ⟨hset, ?_, hfont, ?_, hcurrent, ?_⟩
  · intro hagrees
    have hgot : getDarkMode otherCaller ((Request.setDarkMode 0).call otherCaller darkAndLight).1 =
        .alwaysDark := (hagrees (.inl hset)).1
    exact absurd hgot (by decide)
  · intro hagrees
    have hgot : getFontScale otherCaller
        ((Request.setFontScale "2").call otherCaller darkAndLight).1 = "2" :=
      (hagrees (.inl hfont)).1
    exact absurd hgot (by decide)
  · intro hagrees
    obtain ⟨param, hparam, hassign⟩ :=
      (hagrees (.inr hcurrent)).2 rfl (by decide) 101 (by decide)
    have hlight : ((Request.setDarkMode 0).call firstCaller darkAndLight).1.usersParam
        (.getForegroundContext firstCaller 101) = some {} := by decide
    rw [hlight] at hparam
    obtain rfl := Option.some.inj hparam
    exact absurd hassign (by decide)

end SetThenGet
end UiAppearance
