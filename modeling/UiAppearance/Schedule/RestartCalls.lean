import UiAppearance.Schedule.KeyTimers

/-!
# The timers a restart starts

`RestartAllTimer` goes through the keys and starts the two timers of each at
the trigger times of its recorded bounds, up to the first key it has no bounds
for. The bounds of a key are recorded and forgotten together with its timers,
so that no key is left out.
-/

namespace UiAppearance
namespace AlarmTimerManager

variable {γ : Type} (env : Env) (m : AlarmTimerManager γ)

/-- Identifiers with the trigger times they are started at. -/
abbrev Starts := List (ℕ × ℕ)

def startsFor (ids bounds : ℕ × ℕ) : Starts :=
  let triggerTimeInterval := setTimerTriggerTime env.clock bounds.1 bounds.2
  [(ids.1, triggerTimeInterval.1), (ids.2, triggerTimeInterval.2)]

/-- What `RestartTimerByUserId` starts, and what it returns. -/
def startsByUserId (userId : ℕ) : Starts × Bool :=
  if userId = 0 then ([], false)
  else
    match m.timerIdMap.lookup userId, m.initialSetupTimeMap userId with
    | some ids, some bounds => (startsFor env ids bounds, true)
    | _, _ => ([], false)

/-- What `RestartAllTimer` starts, and what it returns. -/
def restartStarts : Starts × Bool :=
  (m.timerIdMap.keys.mergeSort (· ≤ ·)).foldl
    (fun r userId =>
      if userId = 0 then r
      else if r.2 then (r.1 ++ (m.startsByUserId env userId).1, (m.startsByUserId env userId).2)
      else r)
    ([], true)

def startAll (starts : Starts) : AlarmTimerManager γ :=
  starts.foldl (fun m call => m.restartTimerByTimerId call.1 call.2) m

variable {env m} {userId : ℕ}

section Restart

theorem entries_startAll (starts : Starts) : (m.startAll starts).entries = m.entries := by
  unfold startAll
  induction starts generalizing m with
  | nil => rfl
  | cons call rest ih => exact ih.trans (restartTimerByTimerId_keeps m call.1 call.2).1

theorem startAll_append (starts starts' : Starts) :
    m.startAll (starts ++ starts') = (m.startAll starts).startAll starts' :=
  List.foldl_append ..

theorem restartTimerByUserId_eq (userId : ℕ) :
    m.restartTimerByUserId env userId =
      (m.startAll (m.startsByUserId env userId).1, (m.startsByUserId env userId).2) := by
  unfold restartTimerByUserId startsByUserId
  by_cases hzero : userId = 0
  · rw [if_pos hzero, if_pos hzero]
    rfl
  · rw [if_neg hzero, if_neg hzero]
    cases m.timerIdMap.lookup userId with
    | none => rfl
    | some ids =>
      cases m.initialSetupTimeMap userId with
      | none => rfl
      | some bounds => rfl

/-- Only the two maps decide what is started, and starting leaves them alone. -/
theorem startsByUserId_startAll (starts : Starts) (userId : ℕ) :
    (m.startAll starts).startsByUserId env userId = m.startsByUserId env userId := by
  have hentries := congrFun (entries_startAll (m := m) starts) userId
  obtain ⟨hids, hrest⟩ := Prod.mk.inj hentries
  unfold startsByUserId
  rw [hids, (Prod.mk.inj hrest).1]

/-- A restart is these calls, one after the other. -/
theorem restartAllTimer_eq :
    m.restartAllTimer env = (m.startAll (m.restartStarts env).1, (m.restartStarts env).2) := by
  have hall (keys : List ℕ) (r : Starts × Bool) :
      keys.foldl (fun r userId =>
        if userId = 0 then r
        else if r.2 then r.1.restartTimerByUserId env userId else r) (m.startAll r.1, r.2) =
      let r' := keys.foldl (fun r userId =>
        if userId = 0 then r
        else if r.2 then (r.1 ++ (m.startsByUserId env userId).1, (m.startsByUserId env userId).2)
        else r) r
      (m.startAll r'.1, r'.2) := by
    induction keys generalizing r with
    | nil => rfl
    | cons userId keys ih =>
      rw [List.foldl_cons, List.foldl_cons]
      by_cases hzero : userId = 0
      · rw [if_pos hzero, if_pos hzero]
        exact ih r
      · rw [if_neg hzero, if_neg hzero]
        by_cases hgoes : r.2 = true
        · rw [if_pos hgoes, if_pos hgoes, restartTimerByUserId_eq, startsByUserId_startAll,
            ← startAll_append]
          exact ih (r.1 ++ (m.startsByUserId env userId).1, (m.startsByUserId env userId).2)
        · rw [if_neg hgoes, if_neg hgoes]
          exact ih r
  exact hall _ ([], true)

/-- With bounds for every key, each key adds its own calls, whatever the others are. -/
theorem restartStarts_eq
    (hsame : ∀ userId, (m.timerIdMap.lookup userId).isSome = true →
      (m.initialSetupTimeMap userId).isSome = true) :
    m.restartStarts env = ((m.timerIdMap.keys.mergeSort (· ≤ ·)).flatMap
      fun userId => (m.startsByUserId env userId).1, true) := by
  have hkey (userId : ℕ) (hmem : userId ∈ m.timerIdMap.keys) (hzero : userId ≠ 0) :
      (m.startsByUserId env userId).2 = true := by
    have hlookup : (m.timerIdMap.lookup userId).isSome = true :=
      AList.lookup_isSome.mpr (AList.mem_keys.mpr hmem)
    obtain ⟨ids, hids⟩ := Option.isSome_iff_exists.mp hlookup
    obtain ⟨bounds, hbounds⟩ := Option.isSome_iff_exists.mp (hsame userId hlookup)
    unfold startsByUserId
    rw [if_neg hzero, hids, hbounds]
  have hall (keys : List ℕ) (hmem : ∀ userId ∈ keys, userId ∈ m.timerIdMap.keys)
      (starts : Starts) :
      keys.foldl (fun r userId =>
        if userId = 0 then r
        else if r.2 then (r.1 ++ (m.startsByUserId env userId).1, (m.startsByUserId env userId).2)
        else r) (starts, true) =
      (starts ++ keys.flatMap fun userId => (m.startsByUserId env userId).1, true) := by
    induction keys generalizing starts with
    | nil => simp
    | cons userId keys ih =>
      have hrest := ih fun userId' h => hmem userId' (List.mem_cons_of_mem _ h)
      rw [List.foldl_cons, List.flatMap_cons]
      by_cases hzero : userId = 0
      · have hnone : (m.startsByUserId env userId).1 = [] := by
          unfold startsByUserId
          rw [if_pos hzero]
        rw [if_pos hzero, hrest, hnone, List.nil_append]
      · rw [if_neg hzero, if_pos rfl, hkey userId (hmem userId List.mem_cons_self) hzero, hrest,
          List.append_assoc]
  exact hall _ (fun userId h => (List.mergeSort_perm _ _).mem_iff.mp h) []

/-- The two timers of a key are started at the trigger times of its bounds. -/
theorem startsFor_subset {ids bounds : ℕ × ℕ}
    (hsame : ∀ userId, (m.timerIdMap.lookup userId).isSome = true →
      (m.initialSetupTimeMap userId).isSome = true)
    (hzero : userId ≠ 0) (hids : m.timerIdMap.lookup userId = some ids)
    (hbounds : m.initialSetupTimeMap userId = some bounds) :
    startsFor env ids bounds ⊆ (m.restartStarts env).1 := by
  have hkey : userId ∈ m.timerIdMap.keys := by
    refine AList.mem_keys.mp (AList.lookup_isSome.mp ?_)
    rw [hids]
    rfl
  have hstarts : (m.startsByUserId env userId).1 = startsFor env ids bounds := by
    unfold startsByUserId
    rw [if_neg hzero, hids, hbounds]
  intro call hcall
  rw [restartStarts_eq hsame]
  refine List.mem_flatMap.mpr ⟨userId, (List.mergeSort_perm _ _).mem_iff.mpr hkey, ?_⟩
  rw [hstarts]
  exact hcall

end Restart

section Records

/-- The bounds of a key, and whether it has timers. -/
def records (m : AlarmTimerManager γ) (userId : ℕ) : Option (ℕ × ℕ) × Bool :=
  (m.initialSetupTimeMap userId, (m.timerIdMap.lookup userId).isSome)

variable {m' : AlarmTimerManager γ} {userId' : ℕ}

theorem records_of_entries (h : m'.entries userId = m.entries userId) :
    m'.records userId = m.records userId := by
  obtain ⟨hids, hrest⟩ := Prod.mk.inj h
  unfold records
  rw [hids, (Prod.mk.inj hrest).1]

theorem records_of_maps (hids : m'.timerIdMap = m.timerIdMap)
    (hbounds : m'.initialSetupTimeMap = m.initialSetupTimeMap) : m'.records = m.records := by
  unfold records
  rw [hids, hbounds]

theorem records_clearRecalculationTimer :
    (m.clearRecalculationTimer env userId).records = m.records := by
  obtain ⟨hids, hbounds⟩ := maps_clearRecalculationTimer env m userId
  exact records_of_maps hids hbounds

theorem records_setRecalculationTimer (callback : γ) :
    (m.setRecalculationTimer env userId callback).records = m.records := by
  have hinit (time : ℕ) : (m.initTimer env .recalculation time callback).1.records = m.records := by
    obtain ⟨hids, hbounds, -⟩ := maps_initTimer env m .recalculation time callback
    exact records_of_maps hids hbounds
  unfold setRecalculationTimer
  dsimp only
  split_ifs
  · rfl
  · exact hinit _
  · exact hinit _

theorem records_clearTimerByUserId :
    (m.clearTimerByUserId env userId).records = Function.update m.records userId (none, false) := by
  funext userId'
  by_cases hsame : userId' = userId
  · subst hsame
    have hheld : (m.clearTimerByUserId env userId').Holds userId' {} :=
      holds_clearTimerByUserId m userId'
    obtain ⟨hids, hbounds⟩ := hheld.schedule
    unfold records
    rw [Function.update_self, hids, hbounds]
    rfl
  · rw [Function.update_of_ne hsame]
    exact records_of_entries (entries_clearTimerByUserId_of_ne hsame)

theorem records_setTimer {name : TimerName} {time : ℕ} {callback : γ} :
    (m.setTimer env name userId time callback).records =
      Function.update m.records userId (m.initialSetupTimeMap userId, true) := by
  obtain ⟨hids, hbounds, -⟩ :=
    maps_replaceTimer env m (slot name (m.timerIds userId)) name time callback
  funext userId'
  unfold setTimer records
  dsimp only
  rw [hids, hbounds]
  by_cases hsame : userId' = userId
  · subst hsame
    rw [Function.update_self, AList.lookup_insert]
    rfl
  · rw [Function.update_of_ne hsame, AList.lookup_insert_ne hsame]

/-- Accepted bounds are recorded, whether or not the timers can be created. -/
theorem records_setScheduleTime {startTime endTime : ℕ} {startCallback endCallback : γ} :
    (m.setScheduleTime env startTime endTime userId startCallback endCallback).1.records =
      if isValidScheduleTime startTime endTime then
        Function.update m.records userId (some (startTime, endTime), true)
      else m.records := by
  have hbounds (m : AlarmTimerManager γ) (name : TimerName) (time : ℕ) (callback : γ) :
      (m.setTimer env name userId time callback).initialSetupTimeMap = m.initialSetupTimeMap :=
    (maps_replaceTimer env m (slot name (m.timerIds userId)) name time callback).2.1
  have hset : (((m.recordInitialSetupTime startTime endTime userId).setTimer env .start userId
      (setTimerTriggerTime env.clock startTime endTime).1 startCallback).setTimer env .finish userId
      (setTimerTriggerTime env.clock startTime endTime).2 endCallback).records =
      Function.update m.records userId (some (startTime, endTime), true) := by
    rw [records_setTimer, records_setTimer, hbounds, Function.update_idem]
    funext userId'
    by_cases hsame : userId' = userId
    · subst hsame
      rw [Function.update_self, Function.update_self]
      exact congrArg (·, true) Table.put_self
    · rw [Function.update_of_ne hsame, Function.update_of_ne hsame]
      exact congrArg (·, _) (Table.put_of_ne hsame)
  unfold setScheduleTime
  cases hvalid : isValidScheduleTime startTime endTime with
  | false => rfl
  | true =>
    rw [if_pos rfl, ← hset, if_neg (by decide)]
    dsimp only
    split_ifs <;> rfl

end Records

end AlarmTimerManager
end UiAppearance
