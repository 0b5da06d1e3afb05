import UiAppearance.Ability.Simulation
import UiAppearance.DarkMode.TrackedTimers

/-!
# The timers and the settings they mirror

A load and the notifications of the observed context leave the timers as its
settings ask for them. A switch clears them only, so they are looked at once
the load of the new context has been made.
-/

namespace UiAppearance
namespace TimerMirror

open AlarmTimerManager Service Transition Scenario

/-- The operations of the dark mode manager on its timers, and writes to the settings. -/
inductive Operation where
  | onSwitchContext (context : AccountContext)
  | loadUserSettingData (context : AccountContext)
      (needUpdateCallback isDarkMode bootLoadFlag : Bool)
  | settingChanged (observer : DarkModeObserver)
  | settingWritten (userId : ℤ) (key : String) (value : Option String)
  | restartTimer
  | timerFired (callback : TimerCallback)

def perform (env : Env) (s : Service) : Operation → Service
  | .onSwitchContext context => (s.onSwitchContext env context).1
  | .loadUserSettingData context needUpdateCallback isDarkMode bootLoadFlag =>
    (s.loadUserSettingData env context needUpdateCallback isDarkMode bootLoadFlag).service
  | .settingChanged observer => s.observerUpdateFunc env observer (observedKey observer)
  | .settingWritten userId key value => s.settingWritten userId key value
  | .restartTimer => s.restartTimer env
  | .timerFired callback => timerFired env s callback

/-- The service, and whether a switch still waits for its load. -/
structure Watched where
  service : Service
  awaited : Bool

def next (w : Watched) (e : Env × Operation) : Watched where
  service := perform e.1 w.service e.2
  awaited :=
    match e.2 with
    | .onSwitchContext context => w.awaited || switches e.1 w.service context
    | .loadUserSettingData .. => false
    | _ => w.awaited

def watchedState (s : Service) : DarkModeState := s.stateOf s.settingDataObserversContext

def watchedKey (s : Service) : ℕ := s.settingDataObserversContext.buildTimerKey

/-- Both timers of a key are armed for the schedule of a context. -/
def ArmedFor (m : AlarmTimerManager TimerCallback) (context : AccountContext)
    (state : DarkModeState) : Prop :=
  let callback := TimerCallback.schedule state.scheduleTime.1 state.scheduleTime.2 context
  m.Armed context.buildTimerKey
    (toUInt64 state.scheduleTime.1, toUInt64 state.scheduleTime.2) callback callback

/-- The timers there are, are those that the settings of the observed context ask for. -/
structure Mirrors (s : Service) : Prop where
  held : ∀ k, (s.alarmTimerManager.timerIdMap.lookup k).isSome = true ↔
    k = watchedKey s ∧ (watchedState s).settingMode.isSchedule = true ∧
      (watchedState s).accepted = true
  armed : (watchedState s).settingMode.isSchedule = true → (watchedState s).accepted = true →
    ArmedFor s.alarmTimerManager s.settingDataObserversContext (watchedState s)
  recalculating : ∀ k, (s.alarmTimerManager.recalculationTimerIdMap k).isSome = true ↔
    k = watchedKey s ∧ (watchedState s).settingMode = .sunriseSunset

/-- The same for the start and end timers after a step, where a mode that is `INVALID` leaves the
timers as they are. -/
structure ScheduleMirrors (s s' : Service) : Prop where
  elsewhere : ∀ k, k ≠ watchedKey s' → s'.alarmTimerManager.timerIdMap.lookup k = none
  held : (watchedState s').settingMode ≠ .invalid →
    ((s'.alarmTimerManager.timerIdMap.lookup (watchedKey s')).isSome = true ↔
      (watchedState s').settingMode.isSchedule = true ∧ (watchedState s').accepted = true)
  armed : (watchedState s').settingMode.isSchedule = true → (watchedState s').accepted = true →
    ArmedFor s'.alarmTimerManager s'.settingDataObserversContext (watchedState s')
  left : (watchedState s').settingMode = .invalid →
    ∀ k, s'.alarmTimerManager.timerIdMap.lookup k = s.alarmTimerManager.timerIdMap.lookup k

def RecalculationMirrors (s : Service) : Prop :=
  ∀ k, (s.alarmTimerManager.recalculationTimerIdMap k).isSome = true ↔
    k = watchedKey s ∧ (watchedState s).settingMode = .sunriseSunset

/-- The context that a load or a notification is for. -/
def Operation.context : Operation → Option AccountContext
  | .loadUserSettingData context .. => some context
  | .settingChanged observer => some observer.context
  | _ => none

/-- The time service works, and what is loaded or notified is the observed context. -/
structure Proper (w : Watched) (e : Env × Operation) : Prop where
  working : Working e.1
  unused : ∀ name, Unused e.1 w.service.alarmTimerManager name
  observed : ∀ context ∈ e.2.context, context = w.service.settingDataObserversContext ∧
    context.userId ≠ invalidUserId

/-- No notification of a time finds the sun times rejected, and no load finds a recalculation timer
that its own mode does not ask for and does not clear. -/
def Sparing (w : Watched) (e : Env × Operation) : Prop :=
  match e.2 with
  | .settingChanged observer =>
    w.awaited = false → observer.item ≠ .mode →
      let state := w.service.observerState e.1 observer (observedKey observer)
      state.settingMode = .sunriseSunset → state.accepted = true
  | .loadUserSettingData context .. =>
    let state := (w.service.loadState e.1 context).2
    state.settingMode = .invalid ∨ (state.settingMode = .customAuto ∧ state.accepted = true) →
      w.service.alarmTimerManager.recalculationTimerIdMap context.buildTimerKey = none
  | _ => True

section Calculation

variable {context : AccountContext} {state : DarkModeState} {t : KeyTimers TimerCallback}

/-- The schedule is the one the state asks for, if it asks at all. -/
def Scheduled (context : AccountContext) (state : DarkModeState) (t : KeyTimers TimerCallback) :
    Prop :=
  state.settingMode ≠ .invalid → t.schedule = KeyTimers.wanted context state

def Recalculating (state : DarkModeState) (t : KeyTimers TimerCallback) : Prop :=
  t.recalculation.isSome = decide (state.settingMode = .sunriseSunset)

theorem scheduled_reacted (context : AccountContext) (state : DarkModeState)
    (t : KeyTimers TimerCallback) : Scheduled context state (t.reacted context state) := by
  intro hmode
  unfold KeyTimers.reacted
  rw [if_neg hmode]
  split_ifs with haccepted
  · rfl
  · unfold KeyTimers.wanted
    rw [if_neg haccepted]

theorem scheduled_loaded (context : AccountContext) (state : DarkModeState)
    (t : KeyTimers TimerCallback) : Scheduled context state (t.loaded context state) := by
  have hreacted := scheduled_reacted context state t
  unfold KeyTimers.loaded
  split_ifs
  · exact hreacted
  · exact hreacted

theorem scheduled_notified (item : SettingItem) (context : AccountContext) (state : DarkModeState)
    (t : KeyTimers TimerCallback) : Scheduled context state (t.notified item context state) := by
  have hreacted := scheduled_reacted context state t
  unfold KeyTimers.notified
  split_ifs
  · exact hreacted
  · exact hreacted
  · exact hreacted

theorem recalculating_loaded
    (h : state.settingMode = .invalid ∨ (state.settingMode = .customAuto ∧ state.accepted = true) →
      t.recalculation = none) : Recalculating state (t.loaded context state) := by
  unfold Recalculating KeyTimers.loaded KeyTimers.reacted
  cases hmode : state.settingMode with
  | invalid => simp [h (.inl hmode)]
  | alwaysLight => simp [DarkModeMode.isSchedule]
  | alwaysDark => simp [DarkModeMode.isSchedule]
  | sunriseSunset => simp [KeyTimers.recalculated]
  | customAuto =>
    cases haccepted : state.accepted with
    | true => simp [DarkModeMode.isSchedule, h (.inr ⟨hmode, haccepted⟩)]
    | false => simp [DarkModeMode.isSchedule]

/-- The notification of the mode sees to it; a time leaves it as it is, unless it is rejected. -/
theorem recalculating_notified {item : SettingItem}
    (h : item ≠ .mode → Recalculating state t ∧
      (state.settingMode = .sunriseSunset → state.accepted = true)) :
    Recalculating state (t.notified item context state) := by
  unfold KeyTimers.notified
  by_cases hitem : item = .mode
  · rw [if_neg (not_not_intro hitem)]
    unfold Recalculating
    split_ifs with hsun
    · simp [KeyTimers.recalculated, hsun]
    · simp [hsun]
  · obtain ⟨hrecalculating, haccepted⟩ := h hitem
    rw [if_pos hitem]
    unfold Recalculating KeyTimers.reacted at *
    split_ifs with hinvalid hschedule
    · exact hrecalculating
    · exact hrecalculating
    · have hsun : state.settingMode ≠ .sunriseSunset := by
        intro hsun
        exact hschedule (by simp [hsun, haccepted hsun, DarkModeMode.isSchedule])
      simp [hsun]

end Calculation

section States

variable {env : Env} {s s' : Service}

theorem watchedState_of_observing (hobserving : s'.observing = s.observing)
    (hstate : s'.stateOf s.settingDataObserversContext = s.stateOf s.settingDataObserversContext) :
    watchedState s' = watchedState s := by
  unfold watchedState
  rw [show s'.settingDataObserversContext = s.settingDataObserversContext from
    congrArg Prod.fst hobserving, hstate]

theorem watchedState_loadUserSettingData (needUpdateCallback isDarkMode bootLoadFlag : Bool) :
    watchedState (s.loadUserSettingData env s.settingDataObserversContext needUpdateCallback
      isDarkMode bootLoadFlag).service = (s.loadState env s.settingDataObserversContext).2 := by
  have hcontext := congrArg Prod.fst (observing_loadUserSettingData env s
    s.settingDataObserversContext needUpdateCallback isDarkMode bootLoadFlag)
  unfold watchedState
  rw [show Service.settingDataObserversContext _ = s.settingDataObserversContext from hcontext]
  exact stateOf_loadUserSettingData ..

theorem watchedState_observerUpdateFunc {observer : DarkModeObserver}
    (h : observer.context = s.settingDataObserversContext) (key : String) :
    watchedState (s.observerUpdateFunc env observer key) = s.observerState env observer key := by
  have hcontext := congrArg Prod.fst (observing_observerUpdateFunc env s observer key)
  unfold watchedState
  rw [show Service.settingDataObserversContext _ = s.settingDataObserversContext from hcontext, ← h]
  exact stateOf_observerUpdateFunc ..

theorem settingMode_observerState {observer : DarkModeObserver} (h : observer.item ≠ .mode)
    (key : String) : (s.observerState env observer key).settingMode =
      (s.stateOf observer.context).settingMode := by
  have hsunset (state : DarkModeState) (value : ℤ) :
      (state.withSunset value).settingMode = state.settingMode := by
    unfold DarkModeState.withSunset
    split_ifs <;> rfl
  have hsunrise (state : DarkModeState) (value : ℤ) :
      (state.withSunrise value).settingMode = state.settingMode := by
    unfold DarkModeState.withSunrise
    split_ifs <;> rfl
  unfold observerState
  cases hitem : observer.item with
  | mode => exact absurd hitem h
  | startTime => rfl
  | endTime => rfl
  | sunset => exact hsunset ..
  | sunrise => exact hsunrise ..

theorem onSwitchContext_of_rejected {context : AccountContext}
    (h : switches env s context = false) : (s.onSwitchContext env context).1 =
      s.withSettings (s.settingDataManager.initializeManager env) := by
  unfold switches at h
  unfold Service.onSwitchContext
  dsimp only
  by_cases hinit : (s.settingDataManager.initializeManager env).2 = .ok
  · rw [decide_eq_true hinit, Bool.true_and] at h
    rw [if_neg (not_not_intro hinit), if_pos (Int.not_lt.mp (of_decide_eq_false h))]
  · rw [if_pos hinit]

theorem stateOf_restartTimer (context : AccountContext) :
    (s.restartTimer env).stateOf context = s.stateOf context := by
  have hcore : (s.restartTimer env).core.stateOf = s.core.stateOf := by
    rw [core_restartTimer]
    split_ifs
    · exact Core.stateOf_update ..
    · rfl
  exact congrFun hcore context

theorem stateOf_timerFired (callback : TimerCallback) (context : AccountContext) :
    (timerFired env s callback).stateOf context = s.stateOf context := by
  have hcore : (timerFired env s callback).core.stateOf = s.core.stateOf := by
    cases callback with
    | schedule startTime endTime context' =>
      change (s.scheduleTimerCallback env startTime endTime context').core.stateOf = _
      rw [core_scheduleTimerCallback]
      split_ifs
      · exact Core.stateOf_update ..
      · rfl
    | recalculation context' =>
      change (s.recalculationCallback env context').core.stateOf = _
      rw [core_recalculationCallback]
  exact congrFun hcore context

theorem observing_timerFired (callback : TimerCallback) :
    (timerFired env s callback).observing = s.observing := by
  cases callback with
  | schedule startTime endTime context => exact observing_scheduleTimerCallback ..
  | recalculation context => exact observing_recalculationCallback ..

end States

section Steps

variable {kept : Prop} {w : Watched} {e : Env × Operation}

/-- The timers of the observed context are known, and fit its settings once it is loaded. -/
def Inv (kept : Prop) (w : Watched) : Prop :=
  ∃ t, w.service.Tracks t ∧ (w.awaited = false →
    Scheduled w.service.settingDataObserversContext (watchedState w.service) t ∧
      (kept → Recalculating (watchedState w.service) t))

/-- An operation that changes neither the observed context nor its settings nor its timers. -/
theorem inv_of_same {w' : Watched} (h : Inv kept w) (hawaited : w'.awaited = w.awaited)
    (htracks : ∀ t, w.service.Tracks t → w'.service.Tracks t)
    (hobserving : w'.service.observing = w.service.observing)
    (hstate : w'.service.stateOf w.service.settingDataObserversContext =
      w.service.stateOf w.service.settingDataObserversContext) : Inv kept w' := by
  obtain ⟨t, ht, hfits⟩ := h
  refine ⟨t, htracks t ht, ?_⟩
  rw [hawaited, watchedState_of_observing hobserving hstate,
    show w'.service.settingDataObserversContext = w.service.settingDataObserversContext from
      congrArg Prod.fst hobserving]
  exact hfits

/-- A switch waits for its load; a rejected one changes nothing. -/
theorem inv_onSwitchContext (h : Inv kept w) (env : Env) (context : AccountContext) :
    Inv kept (next w (env, .onSwitchContext context)) := by
  obtain ⟨s, awaited⟩ := w
  cases hswitch : switches env s context with
  | true =>
    obtain ⟨t, ht, -⟩ := h
    refine ⟨_, ht.onSwitchContext _ context, fun hawaited => ?_⟩
    have hboth := (Bool.or_eq_false_iff.mp hawaited).2
    rw [hswitch] at hboth
    cases hboth
  | false =>
    have hsame : (next ⟨s, awaited⟩ (env, .onSwitchContext context)).service =
        s.withSettings (s.settingDataManager.initializeManager env) :=
      onSwitchContext_of_rejected hswitch
    refine inv_of_same h ?_ (fun t ht => ?_) ?_ ?_
    · change (awaited || switches env s context) = awaited
      rw [hswitch, Bool.or_false]
    · have hkept := ht.onSwitchContext env context
      rwa [hswitch, if_neg Bool.false_ne_true] at hkept
    · rw [hsame]
      rfl
    · rw [hsame]
      rfl

/-- A load sets the timers for what it has found. -/
theorem inv_loadUserSettingData {env : Env} {context : AccountContext}
    {needUpdateCallback isDarkMode bootLoadFlag : Bool} (h : Inv kept w)
    (hproper : Proper w (env, .loadUserSettingData context needUpdateCallback isDarkMode
      bootLoadFlag))
    (hsparing : kept → Sparing w (env, .loadUserSettingData context needUpdateCallback isDarkMode
      bootLoadFlag)) :
    Inv kept (next w (env, .loadUserSettingData context needUpdateCallback isDarkMode
      bootLoadFlag)) := by
  obtain ⟨s, awaited⟩ := w
  obtain ⟨hworking, hunused, hobserved⟩ := hproper
  obtain ⟨t, ht, -⟩ := h
  obtain ⟨rfl, huser⟩ := hobserved context rfl
  have hcontext : (next ⟨s, awaited⟩ (env, .loadUserSettingData s.settingDataObserversContext
      needUpdateCallback isDarkMode bootLoadFlag)).service.settingDataObserversContext =
        s.settingDataObserversContext := congrArg Prod.fst (observing_loadUserSettingData ..)
  have hstate : watchedState (next ⟨s, awaited⟩ (env, .loadUserSettingData
      s.settingDataObserversContext needUpdateCallback isDarkMode bootLoadFlag)).service =
        (s.loadState env s.settingDataObserversContext).2 := watchedState_loadUserSettingData ..
  refine ⟨_, ht.loadUserSettingData hworking hunused huser needUpdateCallback isDarkMode
    bootLoadFlag, fun _ => ?_⟩
  rw [hcontext, hstate]
  refine ⟨scheduled_loaded _ _ _, fun hkept => recalculating_loaded fun hmode => ?_⟩
  have hnone := ht.observed.recalculation.isSome
  rw [hsparing hkept hmode] at hnone
  exact Option.not_isSome_iff_eq_none.mp (Bool.not_eq_true _ ▸ hnone.symm)

/-- A notification sets the timers for the setting it has read. -/
theorem inv_settingChanged {env : Env} {observer : DarkModeObserver} (h : Inv kept w)
    (hproper : Proper w (env, .settingChanged observer))
    (hsparing : kept → Sparing w (env, .settingChanged observer)) :
    Inv kept (next w (env, .settingChanged observer)) := by
  obtain ⟨s, awaited⟩ := w
  obtain ⟨hworking, hunused, hobserved⟩ := hproper
  obtain ⟨t, ht, hfits⟩ := h
  obtain ⟨hsame, huser⟩ := hobserved observer.context rfl
  rw [hsame] at huser
  have hcontext : (next ⟨s, awaited⟩ (env, .settingChanged
      observer)).service.settingDataObserversContext = s.settingDataObserversContext :=
    congrArg Prod.fst (observing_observerUpdateFunc ..)
  have hstate : watchedState (next ⟨s, awaited⟩ (env, .settingChanged observer)).service =
      s.observerState env observer (observedKey observer) :=
    watchedState_observerUpdateFunc hsame _
  refine ⟨_, ht.observerUpdateFunc hworking hunused hsame huser (observedKey observer),
    fun hawaited => ?_⟩
  rw [hcontext, hstate, ← hsame]
  refine ⟨scheduled_notified _ _ _ _, fun hkept => recalculating_notified fun hitem =>
    ⟨?_, hsparing hkept hawaited hitem⟩⟩
  have hmode : (s.observerState env observer (observedKey observer)).settingMode =
      (watchedState s).settingMode := by
    rw [settingMode_observerState hitem]
    unfold watchedState
    rw [hsame]
  unfold Recalculating
  rw [hmode]
  exact (hfits hawaited).2 hkept

theorem inv_next (h : Inv kept w) (hproper : Proper w e) (hsparing : kept → Sparing w e) :
    Inv kept (next w e) := by
  obtain ⟨env, operation⟩ := e
  cases operation with
  | onSwitchContext context => exact inv_onSwitchContext h env context
  | loadUserSettingData context needUpdateCallback isDarkMode bootLoadFlag =>
    exact inv_loadUserSettingData h hproper hsparing
  | settingChanged observer => exact inv_settingChanged h hproper hsparing
  | settingWritten userId key value =>
    refine inv_of_same h rfl (fun t ht => ?_) rfl rfl
    exact ht.of_running rfl rfl fun _ _ _ hrunning => hrunning
  | restartTimer =>
    exact inv_of_same h rfl (fun t ht => ht.restartTimer) (observing_restartTimer env w.service)
      (stateOf_restartTimer _)
  | timerFired callback =>
    refine inv_of_same h rfl (fun t ht => ?_) (observing_timerFired callback)
      (stateOf_timerFired callback _)
    cases callback with
    | schedule startTime endTime context => exact ht.scheduleTimerCallback startTime endTime context
    | recalculation context => exact ht.recalculationCallback context

/-- An operation that leaves the mode `INVALID` leaves the start and end timers alone. -/
theorem lookup_next (hproper : Proper w e) (hawaited : (next w e).awaited = false)
    (hinvalid : (watchedState (next w e).service).settingMode = .invalid) (k : ℕ) :
    (next w e).service.alarmTimerManager.timerIdMap.lookup k =
      w.service.alarmTimerManager.timerIdMap.lookup k := by
  obtain ⟨env, operation⟩ := e
  obtain ⟨s, awaited⟩ := w
  cases operation with
  | onSwitchContext context =>
    have hrejected : switches env s context = false := (Bool.or_eq_false_iff.mp hawaited).2
    change (s.onSwitchContext env context).1.alarmTimerManager.timerIdMap.lookup k = _
    rw [onSwitchContext_of_rejected hrejected]
    rfl
  | loadUserSettingData context needUpdateCallback isDarkMode bootLoadFlag =>
    obtain ⟨rfl, -⟩ := hproper.observed context rfl
    have hstate : watchedState (next ⟨s, awaited⟩ (env, .loadUserSettingData
        s.settingDataObserversContext needUpdateCallback isDarkMode bootLoadFlag)).service =
          (s.loadState env s.settingDataObserversContext).2 := watchedState_loadUserSettingData ..
    have hloaded : (s.loadState env s.settingDataObserversContext).2.settingMode = .invalid := by
      rw [← hstate]
      exact hinvalid
    change (s.loadUserSettingData env s.settingDataObserversContext needUpdateCallback isDarkMode
      bootLoadFlag).service.alarmTimerManager.timerIdMap.lookup k = _
    rw [alarmTimerManager_loadUserSettingData]
    unfold timersFor
    simp only [hloaded, reduceCtorEq, if_false]
  | settingChanged observer =>
    obtain ⟨hsame, -⟩ := hproper.observed observer.context rfl
    have hstate : watchedState (next ⟨s, awaited⟩ (env, .settingChanged observer)).service =
        s.observerState env observer (observedKey observer) :=
      watchedState_observerUpdateFunc hsame _
    have hstored : (s.observerState env observer (observedKey observer)).settingMode =
        .invalid := by
      rw [← hstate]
      exact hinvalid
    change (s.observerUpdateFunc env observer
      (observedKey observer)).alarmTimerManager.timerIdMap.lookup k = _
    rw [alarmTimerManager_observerUpdateFunc]
    unfold timersFor
    simp only [hstored, reduceCtorEq, if_false]
    split_ifs
    · rfl
    · rw [(maps_clearRecalculationTimer ..).1]
  | settingWritten userId key value => rfl
  | restartTimer =>
    change (s.restartTimer env).alarmTimerManager.timerIdMap.lookup k = _
    rw [alarmTimerManager_restartTimer]
    split_ifs
    · exact congrArg Prod.fst (congrFun (restartAllTimer_keeps s.alarmTimerManager).1 k)
    · rfl
  | timerFired callback =>
    change (timerFired env s callback).alarmTimerManager.timerIdMap.lookup k = _
    cases callback with
    | schedule startTime endTime context =>
      exact congrArg (fun m => m.timerIdMap.lookup k)
        (alarmTimerManager_scheduleTimerCallback env s context startTime endTime)
    | recalculation context =>
      exact congrArg (fun m => m.timerIdMap.lookup k)
        (alarmTimerManager_recalculationCallback env s context)

theorem scheduleMirrors_next (h : Inv kept (next w e)) (hproper : Proper w e)
    (hawaited : (next w e).awaited = false) :
    ScheduleMirrors w.service (next w e).service := by
  obtain ⟨t, ht, hfits⟩ := h
  have hscheduled := (hfits hawaited).1
  have hwanted : (KeyTimers.wanted (next w e).service.settingDataObserversContext
      (watchedState (next w e).service)).isSome = true ↔
        (watchedState (next w e).service).settingMode.isSchedule = true ∧
          (watchedState (next w e).service).accepted = true := by
    unfold KeyTimers.wanted
    rw [← Bool.and_eq_true]
    split_ifs with hboth <;> simp [hboth]
  refine ⟨fun k hk => (ht.elsewhere k hk).schedule.1, fun hmode => ?_, fun hmode haccepted => ?_,
    fun hinvalid k => lookup_next hproper hawaited hinvalid k⟩
  · rw [← hwanted, ← hscheduled hmode, ← ht.observed.schedule.isSome_lookup]
    rfl
  · have hvalid : (watchedState (next w e).service).settingMode ≠ .invalid := by
      intro hinvalid
      rw [hinvalid] at hmode
      cases hmode
    have hholds := ht.observed.schedule
    rw [hscheduled hvalid] at hholds
    unfold KeyTimers.wanted at hholds
    rw [hmode, haccepted] at hholds
    exact hholds

theorem recalculationMirrors_of_inv (hkept : kept) (h : Inv kept w) (hawaited : w.awaited = false) :
    RecalculationMirrors w.service := by
  obtain ⟨t, ht, hfits⟩ := h
  have hrecalculating := (hfits hawaited).2 hkept
  intro k
  by_cases hk : k = watchedKey w.service
  · rw [hk, and_iff_right rfl]
    have hheld := ht.observed.recalculation.isSome
    rw [hrecalculating] at hheld
    exact (Bool.eq_iff_iff.mp hheld).trans decide_eq_true_iff
  · have hnone : w.service.alarmTimerManager.recalculationTimerIdMap k = none :=
      (ht.elsewhere k hk).recalculation
    rw [hnone]
    exact iff_of_false Bool.false_ne_true fun h => hk h.1

end Steps

/-- A fresh process, in which nothing is observed. -/
def fresh (parameters : Table String String) (tables : ℤ → Table String String) : Watched :=
  ⟨start parameters tables, false⟩

theorem inv_fresh (kept : Prop) (parameters : Table String String)
    (tables : ℤ → Table String String) : Inv kept (fresh parameters tables) :=
  ⟨{}, ⟨rfl, holds_initial _, fun k _ => holds_initial k, fun _ => rfl⟩,
    fun _ => ⟨fun hvalid => absurd rfl hvalid, fun _ => rfl⟩⟩

/-- At the end of every operation, unless a switch waits for its load, the timers mirror the
settings; and so does the recalculation timer in runs that spare it. -/
theorem mirrors_along {parameters : Table String String} {tables : ℤ → Table String String}
    {run : List (Env × Operation)} (hrun : Along next Proper (fresh parameters tables) run) :
    Along next (fun w e => (next w e).awaited = false →
        ScheduleMirrors w.service (next w e).service) (fresh parameters tables) run ∧
      (Along next Sparing (fresh parameters tables) run →
        Along next (fun w e => (next w e).awaited = false →
          RecalculationMirrors (next w e).service) (fresh parameters tables) run) := by
  constructor
  · refine along_of_invariant (I := Inv False) (fun w e h hproper => ?_) (fun w e h hproper => ?_)
      (inv_fresh False parameters tables) hrun
    · exact inv_next h hproper False.elim
    · exact scheduleMirrors_next (inv_next h hproper False.elim) hproper
  · intro hsparing
    refine along_of_invariant (I := Inv True) (C := fun w e => Proper w e ∧ Sparing w e)
      (fun w e h hok => ?_) (fun w e h hok => ?_) (inv_fresh True parameters tables)
      (along_and hrun hsparing)
    · exact inv_next h hok.1 fun _ => hok.2
    · exact recalculationMirrors_of_inv trivial (inv_next h hok.1 fun _ => hok.2)

/-- Noon, with identifiers of its own for the timers of each operation. -/
def workingNoon (n : ℕ) : Env := { noon with createTimer := fun name => 3 * n + name.ctorIdx + 1 }

theorem working_workingNoon (n : ℕ) : Working (workingNoon n) where
  created := fun name => Nat.succ_ne_zero _
  distinct := by
    intro name name' hsame
    have hidx : name.ctorIdx = name'.ctorIdx := by
      change 3 * n + name.ctorIdx + 1 = 3 * n + name'.ctorIdx + 1 at hsame
      omega
    cases name <;> cases name' <;> first | rfl | cases hidx
  started := fun _ => rfl
  destroyed := fun _ => rfl

/-- The same times with the sun mode. -/
def sunRow (userId : ℤ) (key : String) : Option String :=
  if key = SettingItem.mode.key then some "3" else customRow userId key

def switchedRun : List (Env × Operation) :=
  [(workingNoon 0, .onSwitchContext account),
    (workingNoon 1, .loadUserSettingData account false false false)]

/-- A sunset is put where the sun mode accepts it. -/
def sunsetRun : List (Env × Operation) :=
  switchedRun ++ [(workingNoon 2, .settingWritten 100 SettingItem.sunset.key (some "1000")),
    (workingNoon 3, .settingChanged ⟨.sunset, account⟩)]

theorem sunsetRun_mirrors :
    Along next (fun w e => (next w e).awaited = false →
        ScheduleMirrors w.service (next w e).service) (fresh Table.empty sunRow) sunsetRun ∧
      Along next (fun w e => (next w e).awaited = false →
        RecalculationMirrors (next w e).service) (fresh Table.empty sunRow) sunsetRun := by
  have hobserved (w : Watched) (operation : Operation) (hcontext : operation.context = some account)
      (hsame : w.service.settingDataObserversContext = account) :
      ∀ context ∈ operation.context, context = w.service.settingDataObserversContext ∧
        context.userId ≠ invalidUserId := by
    intro context hmem
    obtain rfl := Option.some.inj (hcontext.symm.trans hmem)
    exact ⟨hsame.symm, by decide⟩
  have hproper : Along next Proper (fresh Table.empty sunRow) sunsetRun := by
    refine ⟨⟨working_workingNoon 0, fun name => ?_, nofun⟩,
      ⟨working_workingNoon 1, fun name => ?_, hobserved _ _ rfl rfl⟩,
      ⟨working_workingNoon 2, fun name => ?_, nofun⟩,
      ⟨working_workingNoon 3, fun name => ?_, hobserved _ _ rfl rfl⟩, trivial⟩
    all_goals cases name <;> rfl
  have hsparing : Along next Sparing (fresh Table.empty sunRow) sunsetRun :=
    ⟨trivial, fun hmode => absurd hmode (by decide +kernel), trivial,
      fun _ _ _ => by decide +kernel, trivial⟩
  obtain ⟨hschedule, hrecalculation⟩ := mirrors_along hproper
  exact ⟨hschedule, hrecalculation hsparing⟩

def atEnd (tables : ℤ → Table String String) (run : List (Env × Operation)) : Service :=
  (exec next (fresh Table.empty tables) run).service

def other : AccountContext := .createBaseContext 101

/-- Before its load, with the mode gone, and with another context loaded, the timers do not mirror
the settings; nor does the recalculation timer after a sunset that is rejected, or a load that has
found another mode. -/
theorem not_mirrors :
    ¬Mirrors (atEnd customRow (switchedRun ++ [(workingNoon 2, .onSwitchContext account)])) ∧
      ¬Mirrors (atEnd customRow (switchedRun ++
        [(workingNoon 2, .settingWritten 100 SettingItem.mode.key none),
          (workingNoon 3, .settingChanged ⟨.mode, account⟩)])) ∧
      ¬Mirrors (atEnd (fun _ => customRow 100) (switchedRun ++
        [(workingNoon 2, .loadUserSettingData other false false false)])) ∧
      ¬Mirrors (atEnd sunRow (switchedRun ++
        [(workingNoon 2, .settingWritten 100 SettingItem.sunset.key (some "-5")),
          (workingNoon 3, .settingChanged ⟨.sunset, account⟩)])) ∧
      ¬Mirrors (atEnd sunRow (switchedRun ++
        [(workingNoon 2, .settingWritten 100 SettingItem.mode.key (some "2")),
          (workingNoon 3, .loadUserSettingData account false false false)])) := by
  refine ⟨fun h => ?_, fun h => ?_, fun h => ?_, fun h => ?_, fun h => ?_⟩
  · exact absurd (h.held 100) (by decide +kernel)
  · exact absurd (h.held 100) (by decide +kernel)
  · exact absurd (h.held 101) (by decide +kernel)
  · exact absurd (h.recalculating 100) (by decide +kernel)
  · exact absurd (h.recalculating 100) (by decide +kernel)

end TimerMirror
end UiAppearance
