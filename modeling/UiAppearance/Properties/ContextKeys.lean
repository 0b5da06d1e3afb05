import UiAppearance.Properties.TimerBookkeeping
import UiAppearance.Schedule.KeyTimers
import UiAppearance.Ability.ParameterNames
import UiAppearance.Settings.Observers

/-!
# The keys of a context

The timers of a context are found under a number, its parameters and settings
under a text. The number is the user of an account, and holds the user above
the sub-profile otherwise, so that the sub-profiles of user `0` share their
numbers with the accounts. The texts name their owner.
-/

namespace UiAppearance
namespace ContextKeys

open AlarmTimerManager TimerBookkeeping Transition

/-- The contexts a switch takes. -/
structure Admitted (context : AccountContext) : Prop where
  userId : IsInt32 context.userId
  subProfileId : IsInt32 context.subProfileId
  nonneg : 0 ≤ context.userId

/-- The context is an account, and the other one the sub-profile of user `0` with its number. -/
def Doubled (context context' : AccountContext) : Prop :=
  context.subProfileId = invalidSubProfileId ∧ context' = ⟨0, context.userId⟩

/-- The context is user `0` itself, or its sub-profile `0`. -/
def Zero (context : AccountContext) : Prop :=
  context = AccountContext.createBaseContext 0 ∨ context = ⟨0, 0⟩

/-- What is done to the timers of one key. -/
inductive KeyOperation (γ : Type) where
  | setScheduleTime (startTime endTime : ℕ) (startCallback endCallback : γ)
  | clearTimerByUserId
  | restartTimerByUserId
  | setRecalculationTimer (callback : γ)
  | clearRecalculationTimer

section Operations

variable {γ : Type} (env : Env) (m : AlarmTimerManager γ) (userId : ℕ)

def perform : KeyOperation γ → AlarmTimerManager γ
  | .setScheduleTime startTime endTime startCallback endCallback =>
    (m.setScheduleTime env startTime endTime userId startCallback endCallback).1
  | .clearTimerByUserId => m.clearTimerByUserId env userId
  | .restartTimerByUserId => (m.restartTimerByUserId env userId).1
  | .setRecalculationTimer callback => m.setRecalculationTimer env userId callback
  | .clearRecalculationTimer => m.clearRecalculationTimer env userId

/-- The promise of the time service, where timers are created. -/
def PromisedFor : KeyOperation γ → Prop
  | .setScheduleTime startTime endTime startCallback endCallback =>
    Promised m (env, .setScheduleTime startTime endTime userId startCallback endCallback)
  | .setRecalculationTimer callback => Promised m (env, .setRecalculationTimer userId callback)
  | _ => True

/-- What is recorded for the key is the same, and so are its live timers. -/
structure Untouched (m m' : AlarmTimerManager γ) (userId : ℕ) : Prop where
  entries : m'.entries userId = m.entries userId
  timers : ∀ name id, recorded m (userId, name) = some id → m'.timeService id = m.timeService id

end Operations

/-- Both contexts have keys that can be restarted, different ones, and in no run does an
operation on the timers of the first touch those of the second. -/
structure Separate (context context' : AccountContext) : Prop where
  restartable : context.buildTimerKey ≠ 0 ∧ context'.buildTimerKey ≠ 0
  distinct : context.buildTimerKey ≠ context'.buildTimerKey
  untouched : ∀ {γ : Type} (es : List (Env × Operation γ)), Along next Promised {} es →
    ∀ env (operation : KeyOperation γ),
      PromisedFor env (exec next {} es) context.buildTimerKey operation →
      Untouched (exec next {} es)
        (perform env (exec next {} es) context.buildTimerKey operation) context'.buildTimerKey

section Numbers

variable {context context' : AccountContext}

theorem buildTimerKey_base (h : Admitted context)
    (hbase : context.subProfileId = invalidSubProfileId) :
    (context.buildTimerKey : ℤ) = context.userId := by
  have hkey : context.buildTimerKey = toUInt64 context.userId := by
    simp [AccountContext.buildTimerKey, AccountContext.isSubProfileContext, hbase]
  rw [hkey, toUInt64_of_nonneg h.nonneg h.userId]
  exact Int.toNat_of_nonneg h.nonneg

/-- The two halves do not overlap. -/
theorem buildTimerKey_subProfile (h : Admitted context)
    (hsub : context.subProfileId ≠ invalidSubProfileId) :
    (context.buildTimerKey : ℤ) =
      context.userId * 2 ^ 32 + context.subProfileId % 2 ^ 32 := by
  have hkey : context.buildTimerKey =
      toUInt32 context.userId <<< 32 ||| toUInt32 context.subProfileId := by
    simp [AccountContext.buildTimerKey, AccountContext.isSubProfileContext, hsub]
  have hlow : toUInt32 context.subProfileId < 2 ^ 32 := by
    unfold toUInt32
    omega
  have hhigh := h.userId.2
  have hnonneg := h.nonneg
  rw [hkey, ← Nat.shiftLeft_add_eq_or_of_lt hlow, Nat.shiftLeft_eq]
  unfold toUInt32
  omega

theorem buildTimerKey_eq_zero_iff (h : Admitted context) :
    context.buildTimerKey = 0 ↔ Zero context := by
  have hint : context.buildTimerKey = 0 ↔ (context.buildTimerKey : ℤ) = 0 := by omega
  have hzero : Zero context ↔ context.userId = 0 ∧
      (context.subProfileId = invalidSubProfileId ∨ context.subProfileId = 0) := by
    obtain ⟨userId, subProfileId⟩ := context
    simp only [Zero, AccountContext.createBaseContext, AccountContext.mk.injEq]
    tauto
  have hnonneg := h.nonneg
  have hrange := h.subProfileId
  unfold IsInt32 at hrange
  rw [hint, hzero]
  by_cases hbase : context.subProfileId = invalidSubProfileId
  · rw [buildTimerKey_base h hbase]
    simp [hbase]
  · rw [buildTimerKey_subProfile h hbase]
    unfold invalidSubProfileId at hbase ⊢
    omega

/-- An account and a sub-profile have the same key only where the halves coincide. -/
theorem buildTimerKey_eq_of_base (h : Admitted context) (h' : Admitted context')
    (hbase : context.subProfileId = invalidSubProfileId)
    (hsub : context'.subProfileId ≠ invalidSubProfileId) :
    context.buildTimerKey = context'.buildTimerKey ↔ Doubled context context' := by
  have hint : context.buildTimerKey = context'.buildTimerKey ↔
      (context.buildTimerKey : ℤ) = context'.buildTimerKey := Int.natCast_inj.symm
  have hdoubled : Doubled context context' ↔
      context'.userId = 0 ∧ context'.subProfileId = context.userId := by
    obtain ⟨userId, subProfileId⟩ := context'
    unfold Doubled
    rw [AccountContext.mk.injEq]
    exact and_iff_right hbase
  rw [hint, hdoubled, buildTimerKey_base h hbase, buildTimerKey_subProfile h' hsub]
  have hrange := h.userId
  have hrange' := h'.subProfileId
  have hnonneg := h.nonneg
  have hnonneg' := h'.nonneg
  unfold IsInt32 at hrange hrange'
  omega

theorem Doubled.subProfileId (hdoubled : Doubled context context') (h : Admitted context) :
    context'.subProfileId ≠ invalidSubProfileId := by
  rw [hdoubled.2]
  have hnonneg := h.nonneg
  unfold invalidSubProfileId
  dsimp only
  omega

/-- Contexts of one kind have different keys. -/
theorem eq_of_buildTimerKey (h : Admitted context) (h' : Admitted context')
    (hkind : context.subProfileId = invalidSubProfileId ↔
      context'.subProfileId = invalidSubProfileId)
    (hkey : (context.buildTimerKey : ℤ) = context'.buildTimerKey) : context = context' := by
  have hrange := h.subProfileId
  have hrange' := h'.subProfileId
  unfold IsInt32 at hrange hrange'
  have hparts : context.userId = context'.userId ∧
      context.subProfileId = context'.subProfileId := by
    by_cases hbase : context.subProfileId = invalidSubProfileId
    · rw [buildTimerKey_base h hbase, buildTimerKey_base h' (hkind.mp hbase)] at hkey
      exact ⟨hkey, hbase.trans (hkind.mp hbase).symm⟩
    · rw [buildTimerKey_subProfile h hbase,
        buildTimerKey_subProfile h' fun hbase' => hbase (hkind.mpr hbase')] at hkey
      omega
  obtain ⟨userId, subProfileId⟩ := context
  obtain ⟨userId', subProfileId'⟩ := context'
  obtain ⟨rfl, rfl⟩ := hparts
  rfl

theorem buildTimerKey_eq_iff (h : Admitted context) (h' : Admitted context') :
    context.buildTimerKey = context'.buildTimerKey ↔
      context = context' ∨ Doubled context context' ∨ Doubled context' context := by
  constructor
  · intro hkey
    by_cases hbase : context.subProfileId = invalidSubProfileId <;>
      by_cases hbase' : context'.subProfileId = invalidSubProfileId
    · exact .inl (eq_of_buildTimerKey h h' (iff_of_true hbase hbase') (by rw [hkey]))
    · exact .inr (.inl ((buildTimerKey_eq_of_base h h' hbase hbase').mp hkey))
    · exact .inr (.inr ((buildTimerKey_eq_of_base h' h hbase' hbase).mp hkey.symm))
    · exact .inl (eq_of_buildTimerKey h h' (iff_of_false hbase hbase') (by rw [hkey]))
  · rintro (rfl | hdoubled | hdoubled)
    · rfl
    · exact (buildTimerKey_eq_of_base h h' hdoubled.1 (hdoubled.subProfileId h)).mpr hdoubled
    · exact ((buildTimerKey_eq_of_base h' h hdoubled.1 (hdoubled.subProfileId h')).mpr
        hdoubled).symm

end Numbers

section Timers

variable {γ : Type} {env : Env} {m m' : AlarmTimerManager γ} {userId userId' id : ℕ}
  {name : TimerName}

theorem ne_zero_of_recorded (h : recorded m (userId, name) = some id) : id ≠ 0 := by
  have hnonzero {x : ℕ} (hx : nonZero x = some id) : id ≠ 0 := by
    unfold nonZero at hx
    split_ifs at hx with hzero
    obtain rfl := Option.some.inj hx
    exact hzero
  cases name with
  | start => exact hnonzero h
  | finish => exact hnonzero h
  | recalculation => exact hnonzero h

/-- The identifier is none of those recorded for the key. -/
structure Foreign (m : AlarmTimerManager γ) (userId id : ℕ) : Prop where
  start : id ≠ (m.timerIds userId).1
  finish : id ≠ (m.timerIds userId).2
  recalculation : id ≠ (m.recalculationTimerIdMap userId).getD 0

/-- In balanced books no two keys have a timer in common. -/
theorem foreign_of_recorded (h : Balanced (live m) (recorded m)) (hne : userId' ≠ userId)
    (hid : recorded m (userId', name) = some id) : Foreign m userId id := by
  have hother (x : ℕ) (name' : TimerName) (hx : recorded m (userId, name') = nonZero x) :
      id ≠ x := by
    rintro rfl
    unfold nonZero at hx
    rw [if_neg (ne_zero_of_recorded hid)] at hx
    have hsame := h.once _ _ id hid hx
    exact hne (Prod.mk.inj hsame).1
  exact ⟨hother _ .start rfl, hother _ .finish rfl, hother _ .recalculation rfl⟩

theorem live_of_recorded (h : Balanced (live m) (recorded m))
    (hid : recorded m (userId, name) = some id) : (m.timeService id).isSome = true :=
  (h.recorded id).mpr ⟨_, hid⟩

theorem recorded_of_entries (h : m'.entries userId = m.entries userId) :
    recorded m' (userId, name) = recorded m (userId, name) := by
  obtain ⟨hids, hrest⟩ := Prod.mk.inj h
  obtain ⟨-, hrecalculation⟩ := Prod.mk.inj hrest
  cases name <;> simp only [recorded, timerIds, hids, hrecalculation]

theorem Untouched.trans {m'' : AlarmTimerManager γ} (h : Untouched m m' userId)
    (h' : Untouched m' m'' userId) : Untouched m m'' userId := by
  refine ⟨h'.entries.trans h.entries, fun name id hid => ?_⟩
  have hid' := (recorded_of_entries h.entries).trans hid
  exact (h'.timers name id hid').trans (h.timers name id hid)

/-- A fresh timer takes the place of nobody else's. -/
theorem timeService_replaceTimer {old time : ℕ} {callback : γ} {name' : TimerName}
    (hfresh : Fresh env m old name') (hold : id ≠ old)
    (hlive : (m.timeService id).isSome = true) :
    (m.replaceTimer env old name' time callback).1.timeService id = m.timeService id := by
  have hkept : (m.clearTimer env old).timeService id = m.timeService id :=
    timeService_clearTimer_of_ne hold
  rw [replaceTimer_eq_initTimer, ← hkept]
  rcases hfresh with hnone | hnew
  · unfold initTimer
    dsimp only
    rw [if_pos hnone]
  · refine timeService_initTimer_of_ne ?_
    rintro rfl
    rw [← hkept, hnew] at hlive
    cases hlive

variable (h : Balanced (live m) (recorded m)) (hne : userId' ≠ userId)

include h hne

theorem untouched_setTimer {name' : TimerName} {time : ℕ} {callback : γ}
    (hfresh : Fresh env m (slot name' (m.timerIds userId)) name') :
    Untouched m (m.setTimer env name' userId time callback) userId' := by
  refine ⟨entries_setTimer_of_ne hne, fun name id hid => ?_⟩
  obtain ⟨hstart, hfinish, -⟩ := foreign_of_recorded h hne hid
  refine timeService_replaceTimer hfresh ?_ (live_of_recorded h hid)
  unfold slot
  split_ifs
  · exact hstart
  · exact hfinish

theorem untouched_setScheduleTime {startTime endTime : ℕ} {startCallback endCallback : γ}
    (hpromised :
      Promised m (env, .setScheduleTime startTime endTime userId startCallback endCallback)) :
    Untouched m (m.setScheduleTime env startTime endTime userId startCallback endCallback).1
      userId' := by
  obtain ⟨hdestroy, hfresh⟩ := hpromised
  unfold setScheduleTime
  cases hvalid : isValidScheduleTime startTime endTime with
  | false => exact ⟨rfl, fun _ _ _ => rfl⟩
  | true =>
    obtain ⟨hstart, hfinish⟩ := hfresh hvalid
    have hbounds : Untouched m (m.recordInitialSetupTime startTime endTime userId) userId' :=
      ⟨congrArg (fun bounds => (_, bounds, _)) (Table.put_of_ne hne), fun _ _ _ => rfl⟩
    have hbalanced : Balanced (live (m.recordInitialSetupTime startTime endTime userId))
        (recorded (m.recordInitialSetupTime startTime endTime userId)) := h
    have hstart : Fresh env (m.recordInitialSetupTime startTime endTime userId)
        (m.timerIds userId).1 .start := fresh_recordInitialSetupTime.mpr hstart
    have hfirst : Untouched m (withStart env m startTime endTime userId startCallback) userId' :=
      hbounds.trans (untouched_setTimer hbalanced hne hstart)
    have hbalanced' := balanced_setTimer hdestroy (by decide)
      (setTimerTriggerTime env.clock startTime endTime).1 startCallback hstart hbalanced
    have hboth (time : ℕ) : Untouched m ((withStart env m startTime endTime userId
        startCallback).setTimer env .finish userId time endCallback) userId' :=
      hfirst.trans (untouched_setTimer hbalanced' hne hfinish)
    dsimp only
    rw [Bool.not_true, if_neg Bool.false_ne_true]
    split_ifs
    · exact hboth _
    · exact hboth _

theorem untouched_setRecalculationTimer {callback : γ}
    (hpromised : Promised m (env, .setRecalculationTimer userId callback)) :
    Untouched m (m.setRecalculationTimer env userId callback) userId' := by
  refine ⟨entries_setRecalculationTimer_of_ne hne callback, fun name id hid => ?_⟩
  have hinit (time : ℕ) (hzero : (m.recalculationTimerIdMap userId).getD 0 = 0) :
      (m.initTimer env .recalculation time callback).1.timeService id = m.timeService id :=
    timeService_replaceTimer (hpromised.2 hzero) (ne_zero_of_recorded hid) (live_of_recorded h hid)
  unfold setRecalculationTimer
  dsimp only
  split_ifs with hrunning
  · rfl
  · exact hinit _ (Nat.eq_zero_of_not_pos hrunning)
  · exact hinit _ (Nat.eq_zero_of_not_pos hrunning)

theorem untouched_perform (operation : KeyOperation γ)
    (hpromised : PromisedFor env m userId operation) :
    Untouched m (perform env m userId operation) userId' := by
  cases operation with
  | setScheduleTime startTime endTime startCallback endCallback =>
    exact untouched_setScheduleTime h hne hpromised
  | clearTimerByUserId =>
    refine ⟨entries_clearTimerByUserId_of_ne hne, fun name id hid => ?_⟩
    obtain ⟨hstart, hfinish, hrecalculation⟩ := foreign_of_recorded h hne hid
    exact timeService_clearTimerByUserId_of_ne hstart hfinish hrecalculation
  | restartTimerByUserId =>
    obtain ⟨hentries, htimers⟩ := @restartTimerByUserId_keeps γ env m userId
    refine ⟨congrFun hentries userId', fun name id hid => ?_⟩
    obtain ⟨hstart, hfinish, -⟩ := foreign_of_recorded h hne hid
    exact htimers id hstart hfinish
  | setRecalculationTimer callback => exact untouched_setRecalculationTimer h hne hpromised
  | clearRecalculationTimer =>
    refine ⟨entries_clearRecalculationTimer_of_ne env m hne, fun name id hid => ?_⟩
    exact timeService_clearRecalculationTimer_of_ne (foreign_of_recorded h hne hid).recalculation

end Timers

section Contexts

variable {context context' : AccountContext}

/-- Timer keys keep two contexts apart, unless one is user `0`, or its sub-profile `0`, or the two
are an account and the sub-profile of user `0` with the same number. -/
theorem separate_iff (h : Admitted context) (h' : Admitted context') (hne : context ≠ context') :
    Separate context context' ↔ ¬Zero context ∧ ¬Zero context' ∧
      ¬Doubled context context' ∧ ¬Doubled context' context := by
  have hdistinct : context.buildTimerKey ≠ context'.buildTimerKey ↔
      ¬Doubled context context' ∧ ¬Doubled context' context := by
    rw [Ne, buildTimerKey_eq_iff h h', or_iff_right hne, not_or]
  rw [← hdistinct, ← buildTimerKey_eq_zero_iff h, ← buildTimerKey_eq_zero_iff h']
  constructor
  · rintro ⟨⟨hzero, hzero'⟩, hkeys, -⟩
    exact ⟨hzero, hzero', hkeys⟩
  · rintro ⟨hzero, hzero', hkeys⟩
    refine ⟨⟨hzero, hzero'⟩, hkeys, fun es hes env operation hpromised => ?_⟩
    exact untouched_perform (booked_exec hes).balanced hkeys.symm operation hpromised

/-- An account and its first sub-profile. -/
theorem separate_subProfile : Separate ⟨100, -1⟩ ⟨100, 1⟩ :=
  (separate_iff ⟨by decide, by decide, by decide⟩ ⟨by decide, by decide, by decide⟩
    (by decide)).mpr (by unfold Zero Doubled; decide)

/-- The timers of sub-profile `100` of user `0` are cleared with those of account `100`, and those
of user `0` are never restarted. -/
theorem user0_inseparable :
    let env : Env := { halfFailing with startTimer := fun _ => true }
    let account : AccountContext := ⟨100, -1⟩
    let subProfile : AccountContext := ⟨0, 100⟩
    let base : AccountContext := ⟨0, -1⟩
    let m := (({} : AlarmTimerManager ℕ).setScheduleTime env 660 780
      subProfile.buildTimerKey 0 0).1
    (m.timerIdMap.lookup subProfile.buildTimerKey).isSome = true ∧
      (m.clearTimerByUserId env account.buildTimerKey).timerIdMap.lookup
        subProfile.buildTimerKey = none ∧
      (∀ m : AlarmTimerManager ℕ, m.restartTimerByUserId env base.buildTimerKey = (m, false)) ∧
      ¬Separate account subProfile ∧ ¬Separate base account := by
  refine ⟨by decide, by decide, fun _ => rfl, ?_, ?_⟩
  · rintro ⟨-, hkeys, -⟩
    exact hkeys (by decide)
  · rintro ⟨⟨hzero, -⟩, -⟩
    exact hzero (by decide)

end Contexts

/-- Every text key has one owner: the parameters of the contexts, the names of the observers and
the uris of the users' settings. -/
theorem textKeys_owned :
    (∀ (family family' : UserParamFamily) (context context' : AccountContext),
      AccountContext.buildUserParamKey family.paramName context =
          AccountContext.buildUserParamKey family'.paramName context' ↔
        family = family' ∧ context = context') ∧
    (∀ (key key' : String) (userId userId' : ℤ),
      generateObserverName key userId = generateObserverName key' userId' ↔
        key = key' ∧ userId = userId') ∧
    ∀ (key key' : String) (userId userId' : ℤ),
      assembleUserDbUri userId key = assembleUserDbUri userId' key' ↔
        userId = userId' ∧ key = key' :=
  ⟨fun _ _ _ _ => UserParamFamily.buildUserParamKey_inj, fun _ _ _ _ => generateObserverName_inj,
    fun _ _ _ _ => assembleUserDbUri_inj⟩

end ContextKeys
end UiAppearance
