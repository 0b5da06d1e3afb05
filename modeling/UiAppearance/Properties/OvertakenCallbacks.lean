import UiAppearance.Properties.FollowedSettings

/-!
# Callbacks that overtake each other

A callback reads its setting before it takes the lock. If the setting is written
again and the callback of that write is through before the first one gets the
lock, the first one assigns the older value. Nobody will be told of the newer one
any more: until the setting is written or loaded again, the memory stays behind.
-/

namespace UiAppearance
namespace OvertakenCallbacks

open Service Transition SettingIsolation AccountContext FollowedSettings
open ObservedContext (observerOf observerName)
open SettingDataManager (number)

/-- Nothing is going on about the item, whose field in memory and whose setting are these. -/
structure Settled (item : SettingItem) (memory stored : ℤ) (t : Threads) : Prop where
  registered : Registered t.service
  watched : Watched t.service item
  untold : ¬InFlight t.service item
  idle : Idle t item
  memory : memoryValue t.service item = memory
  stored : storedValue t.service item = stored

/-- The step neither tells the observer of the item nor loads or switches the followed context, nor
does it change the row of the item without telling. -/
def Untold (item : SettingItem) (t : Threads) (e : Env × ThreadEvent) : Prop :=
  Answers e.1 ∧ ¬InFlight (next t e).service item ∧
    match e.2 with
    | .event .onAddSystemAbility => True
    | .event .bootCompleted => t.service.bootCompleteFlag = true
    | .event (.subProfileSwitched userId _) => ¬(e.1.enableSubspace = true ∧ userId = user100)
    | .event (.loadUserSettingData context _ _) => context ≠ followed t
    | .event (.settingWritten userId key _) =>
      ¬(userId = (followed t).userId ∧ key = buildSettingKey item.key (followed t))
    | .event event => event.announces = true
    | _ => True

variable {env : Env} {t t' : Threads} {item : SettingItem} {memory stored : ℤ}

section Waiting

/-- A change that nobody is told of is none. -/
theorem Settled.changed (h : Settled item memory stored t) (hregistered : Registered t'.service)
    (hwatched : Watched t'.service item) (huntold : ¬InFlight t'.service item)
    (hchanged : (view t item).Changed (view t' item)) : Settled item memory stored t' := by
  obtain ⟨hstored, hmemory⟩ := hchanged.untold huntold
  refine ⟨hregistered, hwatched, huntold, ?_, hmemory.trans h.memory, hstored.trans h.stored⟩
  intro value hread
  have hmem : item.kept value ∈ (view t item).held := by
    rw [← hchanged.held]
    exact ⟨value, hread, rfl⟩
  rw [h.idle.held] at hmem
  exact Set.notMem_empty _ hmem

theorem Settled.announcing {s s' : Service} {running : List (DarkModeObserver × ObserverPhase)}
    (h : Settled item memory stored ⟨s, running⟩) (hs : Announcing s s')
    (huntold : ¬InFlight s' item) : Settled item memory stored ⟨s', running⟩ :=
  h.changed (h.registered.announcing hs) ((watched_announcing hs).mpr h.watched) huntold
    (changed_announcing h.registered hs h.watched running)

theorem Settled.of_reading {s : Service} {running running' : List (DarkModeObserver × ObserverPhase)}
    (h : Settled item memory stored ⟨s, running⟩)
    (hsame : ∀ observer value, (observer, ObserverPhase.locked value) ∈ running' ↔
      (observer, ObserverPhase.locked value) ∈ running) :
    Settled item memory stored ⟨s, running'⟩ :=
  ⟨h.registered, h.watched, h.untold, fun value hread => h.idle value ((hsame _ _).mp hread),
    h.memory, h.stored⟩

theorem Settled.started (h : Settled item memory stored t) (env : Env) (n : ℕ) :
    Settled item memory stored (next t (env, .started n)) := by
  cases hn : t.service.settingDataManager.inFlight[n]? with
  | none =>
    unfold next
    dsimp only
    rw [hn]
    exact h
  | some o =>
    have hmem := List.mem_of_getElem? hn
    have hother : o.updateFunc ≠ ⟨item, followed t⟩ := by
      intro hsame
      have hshape := h.registered.inFlight o hmem
      unfold Shaped at hshape
      rw [hsame] at hshape
      rw [hshape] at hmem
      exact h.untold hmem
    rw [next_started hn]
    exact h.changed (registered_started h.registered) h.watched
      (fun hflight => h.untold (List.mem_of_mem_eraseIdx hflight)) (changed_started hn hother)

theorem Settled.proceeds (h : Settled item memory stored t) (hanswers : Answers env)
    (hsun : item.isSun = false) (j : ℕ)
    (huntold : ¬InFlight (next t (env, .proceeds j)).service item) :
    Settled item memory stored (next t (env, .proceeds j)) := by
  cases hj : t.running[j]? with
  | none =>
    unfold next
    dsimp only
    rw [hj]
    exact h
  | some callback =>
    obtain ⟨observer, phase⟩ := callback
    cases phase with
    | locked value =>
      obtain ⟨t', s', hassigned, hannouncing, hnext⟩ := next_locked env hj
      have hother : observer ≠ ⟨item, followed t⟩ := by
        rintro rfl
        exact h.idle value (List.mem_of_getElem? hj)
      have hwatched : Watched t'.service item := by
        rw [hassigned.service]
        exact h.watched
      have huntold' : ¬InFlight t'.service item := by
        rw [hassigned.service]
        exact h.untold
      have hsettled : Settled item memory stored t' :=
        h.changed (hassigned.registered h.registered) hwatched huntold'
          (changed_assignment hassigned hother fun _ hsun' => by rw [hsun] at hsun'; cases hsun')
      rw [hnext] at huntold ⊢
      exact hsettled.announcing hannouncing huntold
    | recalculation value =>
      obtain ⟨s', running', hannouncing, hnext, hsame⟩ := next_recalculation hanswers.insert hj
      rw [hnext] at huntold ⊢
      exact (h.of_reading hsame).announcing hannouncing huntold

theorem Settled.settingWritten (h : Settled item memory stored t) {userId : ℤ} {key : String}
    (value : Option String)
    (hother : ¬(userId = (followed t).userId ∧ key = buildSettingKey item.key (followed t))) :
    Settled item memory stored { t with service := t.service.settingWritten userId key value } := by
  refine ⟨registered_settingWritten h.registered .., h.watched, h.untold, h.idle, h.memory, ?_⟩
  rw [← h.stored]
  refine storedValue_congr rfl (tables_settingWritten_of_ne value ?_)
  rw [not_and_or] at hother
  exact hother.imp Ne.symm Ne.symm

/-- Only the user 100 loads at a switch of its sub-profile. -/
theorem announcing_handleSubProfileSwitched {userId : ℤ} (s : Service) (subProfileId : ℤ)
    (h : ¬(env.enableSubspace = true ∧ userId = user100)) :
    Announcing s (s.handleSubProfileSwitched env userId subProfileId) := by
  unfold handleSubProfileSwitched
  split_ifs with hdisabled hother
  · exact .refl s
  · exact .refl s
  · exact .of_beyondAbility (beyondAbility_applyAppearanceContextToUser ..)
  · exact absurd ⟨by simpa using hdisabled, not_not.mp hother⟩ h

/-- Whatever else happens, what is not told is not repaired. -/
theorem settled_next (hsun : item.isSun = false) (t : Threads) (e : Env × ThreadEvent)
    (h : Settled item memory stored t) (he : Untold item t e) :
    Settled item memory stored (next t e) := by
  obtain ⟨env, event⟩ := e
  obtain ⟨hanswers, huntold, hevent⟩ := he
  have hplain {event : Event} (hannounces : event.announces = true)
      (hnext : next t (env, .event event) = { t with service := t.service.step (env, event) })
      (huntold : ¬InFlight (next t (env, .event event)).service item) :
      Settled item memory stored (next t (env, .event event)) := by
    rw [hnext] at huntold ⊢
    exact h.announcing (announcing_step _ hanswers.insert hannounces) huntold
  cases event with
  | event event =>
    cases event with
    | onAddSystemAbility =>
      have hitems : Settled item memory stored { t with service := t.service.initializeManager } :=
        ⟨registered_initializeManager h.registered, h.watched, h.untold, h.idle, h.memory, h.stored⟩
      exact hitems.announcing (.of_beyondAbility (beyondAbility_onAddSystemAbility ..)) huntold
    | bootCompleted =>
      have hagain : next t (env, .event .bootCompleted) = t := by
        change { t with service := t.service.bootCompletedCallback env } = t
        unfold bootCompletedCallback
        rw [if_pos hevent]
      rwa [hagain]
    | subProfileSwitched userId subProfileId =>
      exact h.announcing (announcing_handleSubProfileSwitched _ _ hevent) huntold
    | settingWritten userId key value => exact h.settingWritten value hevent
    | loadUserSettingData context needUpdateCallback bootLoadFlag =>
      have hassigned : Settled item memory stored
          { t with service := assigned env t.service context } :=
        h.changed (registered_assigned h.registered) ((watched_assigned ..).mpr h.watched)
          (fun hflight => h.untold ((inFlight_assigned ..).mp hflight)) (changed_assigned hevent)
      exact hassigned.announcing
        (writing_loadUserSettingData env _ context needUpdateCallback false bootLoadFlag fun _ =>
          sunWritten_announces hanswers.insert context) huntold
    | rebooted => cases hevent
    | _ => exact hplain hevent rfl huntold
  | written userId key value => exact h.announcing (announcing_writtenBy ..) huntold
  | started n => exact h.started env n
  | proceeds j => exact h.proceeds hanswers hsun j huntold

end Waiting

section Overtaking

variable {s : Service} {context : AccountContext} {n : ℕ} {read read' : ℤ}

/-- A row is known under one context and item only. -/
theorem eq_observerOf {o : SettingDataObserver DarkModeObserver} (hshape : Shaped o)
    (huser : o.userId = context.userId) (hkey : o.key = buildSettingKey item.key context) :
    o = observerOf context item := by
  unfold Shaped at hshape
  have hother : o.updateFunc.context = context := by
    by_contra hne
    rw [hshape] at huser hkey
    obtain ⟨-, hsub, hown⟩ := account_of_own_key hne huser.symm hkey.symm
    exact SettingItem.key_ne_buildSettingKey hsub item.key o.updateFunc.item hown
  have hitem : o.updateFunc.item = item := by
    rw [hshape, hother] at hkey
    exact SettingItem.key_injective (buildSettingKey_inj.mp hkey)
  rw [hshape, hother, hitem]

/-- An observer that is registered once is told once. -/
theorem notified_once {l : List (SettingDataObserver DarkModeObserver)} (h : ∀ o ∈ l, Shaped o)
    (honce : l.count (observerOf context item) = 1) :
    l.filter (fun o => createUri o.userId o.key =
      createUri context.userId (buildSettingKey item.key context)) =
      [observerOf context item] := by
  have hsame : ∀ o ∈ l, decide (createUri o.userId o.key =
      createUri context.userId (buildSettingKey item.key context)) =
        (o == observerOf context item) := by
    intro o ho
    rw [Bool.eq_iff_iff, decide_eq_true_eq, createUri_inj, beq_iff_eq]
    constructor
    · rintro ⟨huser, hkey⟩
      exact eq_observerOf (h o ho) huser hkey
    · rintro rfl
      exact ⟨rfl, rfl⟩
  rw [List.filter_congr hsame, List.filter_beq, honce]
  rfl

/-- The item is written, and its callback reads. -/
def rewriting (t : Threads) (item : SettingItem) (value : Option String) : List ThreadEvent :=
  [.written (followed t).userId (buildSettingKey item.key (followed t)) value,
    .started t.service.settingDataManager.inFlight.length]

theorem exec_rewriting (hanswers : Answers env) (h : Registered t.service)
    (hwatched : Watched t.service item)
    (honce : t.service.settingDataManager.registered.count (observerOf (followed t) item) = 1)
    (value : Option String) :
    exec next t ((rewriting t item value).map (env, ·)) =
      ⟨t.service.settingWritten (followed t).userId (buildSettingKey item.key (followed t)) value,
        t.running ++ [(⟨item, followed t⟩, .locked ((number value).getD item.fallback))]⟩ := by
  set key := buildSettingKey item.key (followed t)
  set m := t.service.settingDataManager
  have hflight : (writtenBy t.service (followed t).userId key value).settingDataManager.inFlight =
      m.inFlight ++ [observerOf (followed t) item] :=
    congrArg (m.inFlight ++ ·) (notified_once h.registered honce)
  have hlast : (writtenBy t.service (followed t).userId key value).settingDataManager.inFlight[
      m.inFlight.length]? = some (observerOf (followed t) item) := by
    rw [hflight, List.getElem?_concat_length]
  have hinit : (writtenBy t.service (followed t).userId key
      value).settingDataManager.isInitialized = true := (h.valid hwatched.nonempty).1
  have hrow : (writtenBy t.service (followed t).userId key value).settingDataManager.tables
      (followed t).userId key = value := by
    change Function.update m.tables (followed t).userId
      (Function.update (m.tables (followed t).userId) key value) (followed t).userId key = value
    rw [Function.update_self, Function.update_self]
  have hread : (writtenBy t.service (followed t).userId key value).observerRead env
      ⟨item, followed t⟩ key = .locked ((number value).getD item.fallback) := by
    refine congrArg ObserverPhase.locked ((settingValue_eq hanswers hinit _ _).trans ?_)
    rw [hrow]
  have htaken : (writtenBy t.service (followed t).userId key value).takeNotification
      m.inFlight.length = t.service.settingWritten (followed t).userId key value := by
    unfold takeNotification
    dsimp only
    rw [hflight, List.eraseIdx_append_of_length_le (Nat.le_refl _), Nat.sub_self,
      List.eraseIdx_cons_zero, List.append_nil]
    rfl
  change next ⟨writtenBy t.service (followed t).userId key value, t.running⟩
    (env, .started m.inFlight.length) = _
  rw [next_started (t := ⟨writtenBy t.service (followed t).userId key value, t.running⟩) hlast]
  unfold startCallback
  dsimp only
  rw [htaken]
  exact congrArg (fun phase => Threads.mk _ (t.running ++ [(_, phase)])) hread

/-- The second callback is through first; that of the mode has a step left, which assigns
nothing. -/
theorem exec_assignments (env : Env) (s : Service) (item : SettingItem) (context : AccountContext)
    (read read' : ℤ) :
    exec next ⟨s, [(⟨item, context⟩, .locked read), (⟨item, context⟩, .locked read')]⟩
        [(env, .proceeds 1), (env, .proceeds 0)] =
      ⟨(s.observerLocked env ⟨item, context⟩ read').observerLocked env ⟨item, context⟩ read,
        if item = .mode then
          [(⟨item, context⟩, .recalculation read), (⟨item, context⟩, .recalculation read')]
        else []⟩ := by
  cases item <;> rfl

theorem announcing_observerLocked (env : Env) (s : Service) (observer : DarkModeObserver)
    (value : ℤ) :
    Announcing (s.setState observer.context
      (observer.item.assign value (s.stateOf observer.context)))
      (s.observerLocked env observer value) := writing_onStateChangeLocked ..

theorem registered_observerLocked (h : Registered s) (observer : DarkModeObserver) (value : ℤ) :
    Registered (s.observerLocked env observer value) := by
  have hassigned : Registered (s.setState observer.context
      (observer.item.assign value (s.stateOf observer.context))) :=
    ⟨h.user, h.items, h.recorded, h.valid, h.present, h.registered, h.inFlight⟩
  exact hassigned.announcing (announcing_observerLocked env s observer value)

theorem settingDataManager_observerLocked (env : Env) (s : Service) (observer : DarkModeObserver)
    (value : ℤ) :
    (s.observerLocked env observer value).settingDataManager = s.settingDataManager := by
  unfold observerLocked
  rw [settingDataManager_onStateChangeLocked]
  rfl

theorem followed_observerLocked (env : Env) (s : Service) (observer : DarkModeObserver)
    (value : ℤ) : (s.observerLocked env observer value).settingDataObserversContext =
      s.settingDataObserversContext :=
  (Prod.mk.inj (announcing_observerLocked env s observer value).observing).1

theorem stateOf_observerLocked (env : Env) (s : Service) (observer : DarkModeObserver)
    (value : ℤ) : (s.observerLocked env observer value).stateOf observer.context =
      observer.item.assign value (s.stateOf observer.context) := by
  unfold observerLocked
  rw [stateOf_onStateChangeLocked, stateOf_setState_self]

/-- The item is written twice, and the callback of the second write overtakes that of the first. -/
def overtaking (t : Threads) (item : SettingItem) (value value' : Option String) :
    List ThreadEvent :=
  rewriting t item value ++ rewriting t item value' ++ [.proceeds 1, .proceeds 0]

/-- Nothing is left to be done, and memory and setting disagree. -/
theorem settled_overtaking (hanswers : Answers env) (h : Registered t.service)
    (hwatched : Watched t.service item) (hsun : item.isSun = false)
    (honce : t.service.settingDataManager.registered.count (observerOf (followed t) item) = 1)
    (huntold : ¬InFlight t.service item) (hrunning : t.running = [])
    (value value' : Option String) :
    Settled item (item.kept ((number value).getD item.fallback))
      (item.kept ((number value').getD item.fallback))
      (exec next t ((overtaking t item value value').map (env, ·))) := by
  set key := buildSettingKey item.key (followed t)
  set read := (number value).getD item.fallback
  set read' := (number value').getD item.fallback
  set first := t.service.settingWritten (followed t).userId key value
  set second := first.settingWritten (followed t).userId key value'
  have hfirst := exec_rewriting hanswers h hwatched honce value
  have hsecond := exec_rewriting hanswers (t := ⟨first, t.running ++
    [(⟨item, followed t⟩, .locked read)]⟩) (registered_settingWritten h ..) hwatched honce value'
  have hrun : exec next t ((overtaking t item value value').map (env, ·)) =
      ⟨(second.observerLocked env ⟨item, followed t⟩ read').observerLocked env
          ⟨item, followed t⟩ read,
        if item = .mode then
          [(⟨item, followed t⟩, .recalculation read), (⟨item, followed t⟩, .recalculation read')]
        else []⟩ := by
    unfold overtaking
    rw [List.map_append, List.map_append, exec_append, exec_append, hfirst]
    refine (congrArg (fun t => exec next t _) hsecond).trans ?_
    rw [hrunning]
    exact exec_assignments env second item (followed t) read read'
  set last := (second.observerLocked env ⟨item, followed t⟩ read').observerLocked env
    ⟨item, followed t⟩ read
  have hmanager : last.settingDataManager = second.settingDataManager := by
    rw [settingDataManager_observerLocked, settingDataManager_observerLocked]
  have hfollowed : last.settingDataObserversContext = followed t := by
    rw [followed_observerLocked, followed_observerLocked]
    rfl
  rw [hrun]
  refine ⟨?_, ?_, ?_, ?_, ?_, ?_⟩
  · exact registered_observerLocked (registered_observerLocked
      (registered_settingWritten (registered_settingWritten h ..) ..) _ _) _ _
  · unfold Watched
    rw [hmanager, hfollowed]
    exact hwatched
  · unfold InFlight
    rw [hmanager, hfollowed]
    exact huntold
  · intro value hread
    unfold Reading at hread
    dsimp only at hread
    split_ifs at hread
    · simp at hread
    · cases hread
  · unfold memoryValue
    rw [hfollowed, stateOf_observerLocked]
    exact SettingItem.valueIn_assign (SettingItem.crosses_of_not_isSun hsun)
  · unfold storedValue ownRow
    rw [hmanager, hfollowed]
    have hrow : second.settingDataManager.tables (followed t).userId key = value' := by
      change Function.update first.settingDataManager.tables (followed t).userId
        (Function.update (first.settingDataManager.tables (followed t).userId) key value')
        (followed t).userId key = value'
      rw [Function.update_self, Function.update_self]
    rw [hrow]

end Overtaking

open Scenario

/-- A schedule has been loaded, and the callback of its start time is through. -/
def loaded : List (Env × ThreadEvent) :=
  [.event .onAddSystemAbility, .event .bootCompleted, .started 1, .proceeds 0].map (noon, ·)

/-- The threads after that. -/
def afterLoaded : Threads :=
  exec next ⟨Service.start Table.empty (scheduleRow "1200" "1920"), []⟩ loaded

end OvertakenCallbacks
end UiAppearance
