import UiAppearance.Foundations.Replica
import UiAppearance.Foundations.ThreadPool
import UiAppearance.Ability.AnnouncedWrites
import UiAppearance.Ability.SwitchFrames
import UiAppearance.DarkMode.ObserverSteps
import UiAppearance.Properties.ObservedContext
import UiAppearance.Properties.Reloading
import UiAppearance.Properties.SettingIsolation

/-!
# The memory follows the settings

Whoever writes a setting of the observed context tells the observers, and the
callback of the setting reads it, without a lock, before it assigns it. The
settings are written from many places: other processes, a choice by hand, a
recalculation, a load that copies for a sub-profile. Each setting and its field
in memory are a value and its copy, and everything the service does is a step of
such a pair. So the memory has caught up whenever no notification is in flight
and no callback is between its reading and its assignment, provided that the
callbacks of one setting do not overlap.
-/

namespace UiAppearance

namespace SettingItem

/-- A value as the memory keeps it: a mode out of range becomes `INVALID`. -/
def kept : SettingItem → ℤ → ℤ
  | mode, value => (DarkModeMode.ofInt value).toInt
  | _, value => value

/-- The assignment finds the sunset not before the sunrise, and resets both. -/
def crosses : SettingItem → ℤ → DarkModeState → Bool
  | sunset, value, state => decide (state.settingSunriseTime ≤ value)
  | sunrise, value, state => decide (value ≤ state.settingSunsetTime)
  | _, _, _ => false

variable {item item' : SettingItem} {value : ℤ} {state : DarkModeState}

theorem crosses_of_not_isSun (h : item.isSun = false) : item.crosses value state = false := by
  cases item with
  | sunset => cases h
  | sunrise => cases h
  | _ => rfl

theorem valueIn_assign (h : item.crosses value state = false) :
    item.valueIn (item.assign value state) = item.kept value := by
  cases item with
  | sunset =>
    have hbefore : ¬state.settingSunriseTime ≤ value := of_decide_eq_false h
    unfold assign DarkModeState.withSunset
    dsimp only
    rw [if_neg hbefore]
    rfl
  | sunrise =>
    have hafter : ¬value ≤ state.settingSunsetTime := of_decide_eq_false h
    unfold assign DarkModeState.withSunrise
    dsimp only
    rw [if_neg hafter]
    rfl
  | _ => rfl

theorem valueIn_assign_of_ne (hne : item' ≠ item)
    (h : item'.isSun = true → item.crosses value state = false) :
    item'.valueIn (item.assign value state) = item'.valueIn state := by
  cases item with
  | sunset =>
    unfold assign DarkModeState.withSunset
    dsimp only
    cases item' with
    | sunset => exact absurd rfl hne
    | sunrise =>
      rw [if_neg (of_decide_eq_false (h rfl))]
      rfl
    | _ => split_ifs <;> rfl
  | sunrise =>
    unfold assign DarkModeState.withSunrise
    dsimp only
    cases item' with
    | sunrise => exact absurd rfl hne
    | sunset =>
      rw [if_neg (of_decide_eq_false (h rfl))]
      rfl
    | _ => split_ifs <;> rfl
  | _ =>
    cases item' with
    | mode => first | rfl | exact absurd rfl hne
    | startTime => first | rfl | exact absurd rfl hne
    | endTime => first | rfl | exact absurd rfl hne
    | _ => rfl

end SettingItem

namespace FollowedSettings

open Service Transition ObservedContext SettingIsolation AccountContext
open SettingDataManager (number)

/-- The service, and the setting callbacks that have read and are not done. -/
structure Threads where
  service : Service
  running : List (DarkModeObserver × ObserverPhase) := []

/-- An entry into the service that runs to its end, a row that another process writes and
announces, a notification that starts its callback, or the next step of a callback. -/
inductive ThreadEvent where
  | event (event : Event)
  | written (userId : ℤ) (key : String) (value : Option String)
  | started (n : ℕ)
  | proceeds (j : ℕ)

/-- Another process writes or deletes a row and tells the observers. -/
def writtenBy (s : Service) (userId : ℤ) (key : String) (value : Option String) : Service :=
  let m := (s.settingWritten userId key value).settingDataManager
  { s with settingDataManager := m.notifyChange userId key }

def next (t : Threads) (e : Env × ThreadEvent) : Threads :=
  match e.2 with
  | .event .rebooted => { service := t.service.step (e.1, .rebooted) }
  | .event event => { t with service := t.service.step (e.1, event) }
  | .written userId key value => { t with service := writtenBy t.service userId key value }
  | .started n =>
    match t.service.settingDataManager.inFlight[n]? with
    | none => t
    | some o =>
      { service := t.service.takeNotification n
        running := t.running ++ [(o.updateFunc, t.service.observerRead e.1 o.updateFunc o.key)] }
  | .proceeds j =>
    match t.running[j]? with
    | none => t
    | some (observer, phase) =>
      let r := observerStep e.1 t.service observer phase
      { service := r.1
        running := match r.2 with
          | none => t.running.eraseIdx j
          | some phase => t.running.set j (observer, phase) }

/-- The context whose settings the service follows. -/
def followed (t : Threads) : AccountContext := t.service.settingDataObserversContext

/-- The observer of the item is registered for the followed context. -/
def Watched (s : Service) (item : SettingItem) : Prop :=
  s.settingDataManager.observers (observerName s.settingDataObserversContext item) =
    some (observerOf s.settingDataObserversContext item)

/-- The setting, as the memory would keep it. -/
def storedValue (s : Service) (item : SettingItem) : ℤ :=
  item.kept ((number (ownRow s item s.settingDataObserversContext)).getD item.fallback)

def memoryValue (s : Service) (item : SettingItem) : ℤ :=
  item.valueIn (s.stateOf s.settingDataObserversContext)

def InFlight (s : Service) (item : SettingItem) : Prop :=
  observerOf s.settingDataObserversContext item ∈ s.settingDataManager.inFlight

instance (s : Service) (item : SettingItem) : Decidable (Watched s item) :=
  inferInstanceAs (Decidable (_ = _))

instance (s : Service) (item : SettingItem) : Decidable (InFlight s item) :=
  inferInstanceAs (Decidable (_ ∈ _))

/-- A callback of the item has read this value and not assigned it yet. -/
def Reading (t : Threads) (item : SettingItem) (value : ℤ) : Prop :=
  (⟨item, followed t⟩, ObserverPhase.locked value) ∈ t.running

def Idle (t : Threads) (item : SettingItem) : Prop := ∀ value, ¬Reading t item value

/-- The setting and its field in memory, seen as a value and its copy. -/
def view (t : Threads) (item : SettingItem) : Replica ℤ where
  stored := storedValue t.service item
  copy := memoryValue t.service item
  announced := InFlight t.service item
  held := { value | ∃ read, Reading t item read ∧ item.kept read = value }

/-- The settings database works. -/
structure Answers (env : Env) : Prop where
  helper : ∀ userId, env.createHelper userId = true
  query : ∀ userId key, env.query userId key = .rows
  insert : ∀ userId key value, env.insert userId key value = true

/-- The setting is written with an announcement, its callbacks do not overlap with each other or
with a load, and for a sun time no assignment finds the two times crossed. Whole callbacks are
left to their steps. -/
def Admits (item : SettingItem) (t : Threads) (e : Env × ThreadEvent) : Prop :=
  Answers e.1 ∧
    match e.2 with
    | .event (.settingWritten userId key _) =>
      ¬(userId = (followed t).userId ∧ key = buildSettingKey item.key (followed t))
    | .event (.delivered _) => False
    | .event (.settingChanged _) => False
    | .event (.loadUserSettingData context _ _) => context = followed t → Idle t item
    | .started n => ∀ o, t.service.settingDataManager.inFlight[n]? = some o →
        o.updateFunc = ⟨item, followed t⟩ → Idle t item
    | .proceeds j => ∀ observer value, t.running[j]? = some (observer, .locked value) →
        observer.context = followed t → item.isSun = true →
        observer.item.crosses value (t.service.stateOf (followed t)) = false
    | _ => True

variable {env : Env} {s s' : Service} {t : Threads} {item : SettingItem} {context : AccountContext}

section Values

/-- With the database working, a strict read finds what the row holds. -/
theorem readSetting_eq (hanswers : Answers env)
    (hinit : s.settingDataManager.isInitialized = true) (key : String) (userId : ℤ) :
    s.readSetting env key userId = number (s.settingDataManager.tables userId key) := by
  have hhelper : s.settingDataManager.hasHelper env userId = true := by
    unfold SettingDataManager.hasHelper
    rw [hinit, hanswers.helper]
    rfl
  exact SettingDataManager.getInt32ValueStrictly_toOption hhelper (hanswers.query ..)

/-- What a callback reads. -/
theorem settingValue_eq (hanswers : Answers env)
    (hinit : s.settingDataManager.isInitialized = true) (key : String) (default : ℤ) :
    s.settingValue env key context default =
      (number (s.settingDataManager.tables context.userId key)).getD default := by
  rw [← readSetting_eq hanswers hinit]
  unfold settingValue readSetting
  cases s.settingDataManager.getInt32ValueStrictly env key context.userId <;> rfl

theorem idle_of_nil (h : t.running = []) : Idle t item := by
  intro value hread
  unfold Reading at hread
  rw [h] at hread
  cases hread

theorem Idle.held (h : Idle t item) : (view t item).held = ∅ := by
  refine Set.eq_empty_of_forall_notMem ?_
  rintro value ⟨read, hread, -⟩
  exact h read hread

theorem storedValue_congr (hcontext : s'.settingDataObserversContext = s.settingDataObserversContext)
    (hrow : ownRow s' item s.settingDataObserversContext =
      ownRow s item s.settingDataObserversContext) : storedValue s' item = storedValue s item := by
  unfold storedValue
  rw [hcontext, hrow]

end Values

section Registered

/-- An observer is made for an item of a context, under the key of that item. -/
def Shaped (o : SettingDataObserver DarkModeObserver) : Prop :=
  o = observerOf o.updateFunc.context o.updateFunc.item

/-- What is recorded is registered, and everything registered or in flight is well formed. -/
structure Registered (s : Service) : Prop where
  user : s.settingDataObserversUserId = s.settingDataObserversContext.userId
  items : s.settingDataObservers = [] ∧ s.settingDataManager.observers = Table.empty ∨
    s.settingDataObservers = Reloading.settingItems
  recorded : RecordedFor s.settingDataObserversContext s.settingDataManager.observers
  valid : s.settingDataManager.observers ≠ Table.empty →
    s.settingDataManager.isInitialized = true ∧ invalidUserId < s.settingDataObserversContext.userId
  present : ∀ name o, s.settingDataManager.observers name = some o →
    o ∈ s.settingDataManager.registered
  registered : ∀ o ∈ s.settingDataManager.registered, Shaped o
  inFlight : ∀ o ∈ s.settingDataManager.inFlight, Shaped o

theorem Watched.nonempty (h : Watched s item) : s.settingDataManager.observers ≠ Table.empty := by
  intro hempty
  unfold Watched at h
  rw [hempty] at h
  cases h

theorem Registered.announcing (h : Registered s) (hs : Announcing s s') : Registered s' := by
  obtain ⟨hcontext, huser⟩ := Prod.mk.inj hs.observing
  have hm := hs.settings
  refine ⟨?_, ?_, ?_, ?_, ?_, ?_, ?_⟩
  · rw [huser, hcontext, h.user]
  · rw [hm.observers, hs.items]
    exact h.items
  · rw [hcontext, hm.observers]
    exact h.recorded
  · rw [hcontext, hm.observers, hm.isInitialized]
    exact h.valid
  · rw [hm.observers, hm.registered]
    exact h.present
  · rw [hm.registered]
    exact h.registered
  · intro o ho
    rcases hm.known o ho with hflight | hregistered
    · exact h.inFlight o hflight
    · exact h.registered o hregistered

end Registered

/-- The registrations are in order, and a setting that is watched is followed. -/
structure Inv (item : SettingItem) (t : Threads) : Prop where
  registered : Registered t.service
  follows : Watched t.service item → (view t item).Follows

section Announcing

/-- An operation that announces what it writes is a change of the value, if of anything. -/
theorem changed_announcing (hregistered : Registered s) (hs : Announcing s s')
    (hwatched : Watched s item) (running : List (DarkModeObserver × ObserverPhase)) :
    (view ⟨s, running⟩ item).Changed (view ⟨s', running⟩ item) := by
  obtain ⟨hcontext, -⟩ := Prod.mk.inj hs.observing
  have hpresent := hregistered.present _ _ hwatched
  refine ⟨?_, ?_, ?_, ?_⟩
  · change memoryValue s' item = memoryValue s item
    unfold memoryValue
    rw [hcontext, hs.states]
  · unfold view Reading followed
    dsimp only
    rw [hcontext]
  · change InFlight s item → InFlight s' item
    unfold InFlight
    rw [hcontext]
    exact fun hflight => hs.settings.kept hflight
  · rcases hs.settings.told _ hpresent with hrow | hflight
    · exact .inl (storedValue_congr hcontext hrow)
    · refine .inr ?_
      change InFlight s' item
      unfold InFlight
      rw [hcontext]
      exact hflight

theorem watched_announcing (hs : Announcing s s') : Watched s' item ↔ Watched s item := by
  obtain ⟨hcontext, -⟩ := Prod.mk.inj hs.observing
  unfold Watched
  rw [hcontext, hs.settings.observers]

theorem Inv.announcing {running : List (DarkModeObserver × ObserverPhase)}
    (h : Inv item ⟨s, running⟩) (hs : Announcing s s') : Inv item ⟨s', running⟩ where
  registered := h.registered.announcing hs
  follows := by
    intro hwatched
    rw [watched_announcing hs] at hwatched
    exact (h.follows hwatched).step
      (.change (changed_announcing h.registered hs hwatched running))

end Announcing

section Loading

/-- Only rows are written, and those are a sub-profile's own. -/
def Copied (context : AccountContext) (s s' : Service) : Prop :=
  ∃ tables, s' = { s with
      settingDataManager := { s.settingDataManager with tables := tables } } ∧
    ∀ userId key, tables userId key = s.settingDataManager.tables userId key ∨
      context.isSubProfileContext = true ∧ userId = context.userId ∧
        ∃ item : SettingItem, key = buildSettingKey item.key context

theorem copied_backFilled (env : Env) (s : Service) (context : AccountContext)
    (item : SettingItem) : Copied context s (s.backFilled env item context) := by
  unfold backFilled
  cases hfill : s.backFill env item context with
  | none => exact ⟨s.settingDataManager.tables, rfl, fun _ _ => .inl rfl⟩
  | some value =>
    obtain ⟨tables, htables, hrows⟩ := @SettingDataManager.setStringValue_silent _ env
      s.settingDataManager (buildSettingKey item.key context) context.userId (toString value)
    refine ⟨tables, ?_, fun userId key => ?_⟩
    · unfold withSettings
      dsimp only
      rw [htables]
    · by_cases hsame : userId = context.userId ∧ key = buildSettingKey item.key context
      · exact .inr ⟨(backFill_eq_some hfill).1, hsame.1, item, hsame.2⟩
      · rw [not_and_or] at hsame
        exact .inl (hrows userId key hsame)

theorem copied_loadState (env : Env) (s : Service) (context : AccountContext) :
    Copied context s (s.loadState env context).1 := by
  rw [Reloading.loadState_fst]
  generalize Reloading.settingItems = items
  induction items generalizing s with
  | nil => exact ⟨s.settingDataManager.tables, rfl, fun _ _ => .inl rfl⟩
  | cons item items ih =>
    obtain ⟨tables, hfirst, hrows⟩ := copied_backFilled env s context item
    obtain ⟨tables', hrest, hrows'⟩ := ih (s.backFilled env item context)
    refine ⟨tables', ?_, fun userId key => ?_⟩
    · rw [List.foldl_cons, hrest, hfirst]
    · rcases hrows' userId key with hrow | hcopied
      · rw [hfirst] at hrow
        rcases hrows userId key with hrow' | hcopied
        · exact .inl (hrow.trans hrow')
        · exact .inr hcopied
      · exact .inr hcopied

/-- A row that another context reads as its own is not copied to. -/
theorem ownRow_loadState_of_ne {context' : AccountContext} (hne : context' ≠ context) :
    ownRow (s.loadState env context').1 item context = ownRow s item context := by
  obtain ⟨tables, hloaded, hrows⟩ := copied_loadState env s context'
  unfold ownRow
  rw [hloaded]
  rcases hrows context.userId (buildSettingKey item.key context) with hrow | ⟨hsub, huser, item', hkey⟩
  · exact hrow
  · obtain ⟨hbase, -, -⟩ := account_of_own_key hne huser hkey
    rw [hbase] at hsub
    cases hsub

/-- What a load assigns is what the rows hold once it has copied. -/
theorem storedState_loaded (hanswers : Answers env)
    (hinit : s.settingDataManager.isInitialized = true) (item : SettingItem) :
    item.valueIn (s.loadState env context).2 =
      item.kept ((number (ownRow (s.loadState env context).1 item context)).getD
        item.fallback) := by
  have hinsert : Along (Reloading.afterWrite env context) (Reloading.Succeeds env context)
      s.settingDataManager (Reloading.loadWrites env context s) := by
    refine along_of_invariant (I := fun m => m.isInitialized = true) (C := fun _ _ => True)
      (fun m w hm _ => SettingDataManager.isInitialized_setStringValue.trans hm)
      (fun m w hm _ => ?_) hinit (along_of_forall (P := fun _ => True) fun _ _ => trivial)
    have hhelper : m.hasHelper env context.userId = true := by
      unfold SettingDataManager.hasHelper
      rw [hm, hanswers.helper]
      rfl
    exact congrArg Prod.snd
      (SettingDataManager.setStringValue_ok hhelper (hanswers.insert _ _ _))
  have hnodup : Reloading.settingItems.Nodup := by decide
  have hfilled := Reloading.nothing_left (fun item => hanswers.query _ _) hnodup hinsert item
    (by cases item <;> decide)
  rw [← Reloading.loadState_fst] at hfilled
  have hinit' : (s.loadState env context).1.settingDataManager.isInitialized = true := by
    obtain ⟨tables, hloaded, -⟩ := copied_loadState env s context
    rw [hloaded]
    exact hinit
  have hread : (s.loadState env context).1.ownSetting env item context =
      number (ownRow (s.loadState env context).1 item context) := readSetting_eq hanswers hinit' _ _
  have hstored (default : ℤ) : (s.loadState env context).1.storedSetting env item context default =
      (number (ownRow (s.loadState env context).1 item context)).getD default := by
    unfold storedSetting
    unfold backFill at hfilled
    rw [hread] at hfilled ⊢
    cases hown : number (ownRow (s.loadState env context).1 item context) with
    | some value => rfl
    | none =>
      rw [hown] at hfilled
      dsimp only at hfilled
      rw [hfilled]
      rfl
  rw [loadState_snd, ← Reloading.storedState_loadState]
  cases item with
  | mode => exact congrArg (fun value => (DarkModeMode.ofInt value).toInt) (hstored _)
  | startTime => exact hstored _
  | endTime => exact hstored _
  | sunset => exact hstored _
  | sunrise => exact hstored _

/-- The reads of a load and its assignment. -/
def assigned (env : Env) (s : Service) (context : AccountContext) : Service :=
  (s.loadState env context).1.setState context (s.loadState env context).2

theorem registered_assigned (h : Registered s) : Registered (assigned env s context) := by
  obtain ⟨tables, hloaded, -⟩ := copied_loadState env s context
  unfold assigned
  rw [hloaded]
  exact ⟨h.user, h.items, h.recorded, h.valid, h.present, h.registered, h.inFlight⟩

theorem inFlight_assigned (env : Env) (s : Service) (context : AccountContext)
    (item : SettingItem) : InFlight (assigned env s context) item ↔ InFlight s item := by
  obtain ⟨tables, hloaded, -⟩ := copied_loadState env s context
  unfold InFlight assigned
  rw [hloaded]
  exact Iff.rfl

theorem watched_assigned (env : Env) (s : Service) (context : AccountContext)
    (item : SettingItem) : Watched (assigned env s context) item ↔ Watched s item := by
  obtain ⟨tables, hloaded, -⟩ := copied_loadState env s context
  unfold Watched assigned
  rw [hloaded]
  exact Iff.rfl

theorem followed_assigned : (assigned env s context).settingDataObserversContext =
    s.settingDataObserversContext := by
  obtain ⟨tables, hloaded, -⟩ := copied_loadState env s context
  unfold assigned
  rw [hloaded]
  rfl

theorem held_assigned (t : Threads) (env : Env) (context : AccountContext) (item : SettingItem) :
    (view { t with service := assigned env t.service context } item).held = (view t item).held := by
  unfold view Reading followed
  dsimp only
  rw [followed_assigned]

/-- A load of another context does not touch them. -/
theorem changed_assigned (hne : context ≠ followed t) :
    (view t item).Changed (view { t with service := assigned env t.service context } item) := by
  refine ⟨?_, held_assigned .., (inFlight_assigned ..).mpr,
    .inl (storedValue_congr followed_assigned (ownRow_loadState_of_ne hne))⟩
  change memoryValue (assigned env t.service context) item = memoryValue t.service item
  unfold memoryValue
  rw [followed_assigned]
  obtain ⟨tables, hloaded, -⟩ := copied_loadState env t.service context
  have hstate : (assigned env t.service context).stateOf (followed t) =
      (t.service.loadState env context).1.stateOf (followed t) :=
    stateOf_setState_of_ne _ _ (Ne.symm hne) _
  refine (congrArg item.valueIn hstate).trans ?_
  rw [hloaded]
  rfl

/-- A load of the followed context refreshes value and copy, unless they are told to be read
anyway. -/
theorem view_assigned (hanswers : Answers env) (hregistered : Registered t.service)
    (hwatched : Watched t.service item)
    (halone : InFlight t.service item ∨ Idle t item) :
    (view t item).Step
      (view { t with service := assigned env t.service (followed t) } item) := by
  have hinit := (hregistered.valid hwatched.nonempty).1
  have hflight := inFlight_assigned env t.service (followed t) item
  rcases halone with hannounced | hidle
  · exact .subscribe (hflight.mpr hannounced)
  · refine .refresh hflight.mpr ((held_assigned ..).trans hidle.held) ?_
    change memoryValue (assigned env t.service (followed t)) item =
      storedValue (assigned env t.service (followed t)) item
    unfold memoryValue storedValue
    rw [followed_assigned]
    have hstate : (assigned env t.service (followed t)).stateOf (followed t) =
        (t.service.loadState env (followed t)).2 := stateOf_setState_self ..
    refine (congrArg item.valueIn hstate).trans ?_
    exact storedState_loaded hanswers hinit item

theorem Inv.assigned (hanswers : Answers env) (h : Inv item t)
    (halone : Watched t.service item → context = followed t →
      InFlight t.service item ∨ Idle t item) :
    Inv item { t with service := assigned env t.service context } where
  registered := registered_assigned h.registered
  follows := by
    intro hwatched
    rw [watched_assigned] at hwatched
    refine (h.follows hwatched).step ?_
    by_cases hsame : context = followed t
    · subst hsame
      exact view_assigned hanswers h.registered hwatched (halone hwatched rfl)
    · exact .change (changed_assigned hsame)

theorem Inv.loaded (hanswers : Answers env) (h : Inv item t)
    (halone : Watched t.service item → context = followed t →
      InFlight t.service item ∨ Idle t item)
    (needUpdateCallback isDarkMode bootLoadFlag : Bool) :
    Inv item { t with service := (t.service.loadUserSettingData env context needUpdateCallback
      isDarkMode bootLoadFlag).service } :=
  (h.assigned hanswers halone).announcing
    (writing_loadUserSettingData env _ context _ _ _ fun _ =>
      sunWritten_announces hanswers.insert context)

end Loading

section Switching

/-- The records are those of this context, and each of them has been told. -/
structure Joined (context : AccountContext) (m : SettingDataManager DarkModeObserver) : Prop where
  isInitialized : m.isInitialized = true
  recorded : RecordedFor context m.observers
  present : ∀ name o, m.observers name = some o → o ∈ m.registered ∧ o ∈ m.inFlight
  registered : ∀ o ∈ m.registered, Shaped o
  inFlight : ∀ o ∈ m.inFlight, Shaped o

/-- A registration notifies its own uri, whatever else is registered there. -/
theorem Joined.register {m : SettingDataManager DarkModeObserver} (h : Joined context m)
    (env : Env) (item : SettingItem) : Joined context (m.registerObserver env
      (buildSettingKey item.key context) ⟨item, context⟩ context.userId).1 := by
  unfold SettingDataManager.registerObserver
  split_ifs
  · exact h
  · exact h
  · have hmem {o : SettingDataObserver DarkModeObserver}
        (ho : o ∈ m.registered ++ [observerOf context item]) : Shaped o := by
      rcases List.mem_append.mp ho with hbefore | hnew
      · exact h.registered o hbefore
      · rw [List.mem_singleton] at hnew
        rw [hnew]
        rfl
    have hnotified {o : SettingDataObserver DarkModeObserver}
        (ho : o ∈ m.registered ++ [observerOf context item] ∧ o ∈ m.inFlight ∨
          o = observerOf context item) :
        o ∈ m.registered ++ [observerOf context item] ∧
          o ∈ m.inFlight ++ (m.registered ++ [observerOf context item]).filter fun o =>
            createUri o.userId o.key =
              createUri context.userId (buildSettingKey item.key context) := by
      rcases ho with ⟨hregistered, hflight⟩ | rfl
      · exact ⟨hregistered, List.mem_append_left _ hflight⟩
      · have hlast := List.mem_append_right m.registered
          (List.mem_singleton_self (observerOf context item))
        exact ⟨hlast, List.mem_append_right _ (List.mem_filter.mpr ⟨hlast, decide_eq_true rfl⟩)⟩
    refine ⟨h.isInitialized, ?_, ?_, fun o ho => hmem ho, ?_⟩
    · intro name o hname
      by_cases hnew : name = observerName context item
      · subst hnew
        exact ⟨item, rfl, (Option.some.inj (Table.put_self.symm.trans hname)).symm⟩
      · exact h.recorded name o ((Table.put_of_ne hnew).symm.trans hname)
    · intro name o hname
      refine hnotified ?_
      by_cases hnew : name = observerName context item
      · subst hnew
        exact .inr (Option.some.inj (Table.put_self.symm.trans hname)).symm
      · obtain ⟨hregistered, hflight⟩ := h.present name o ((Table.put_of_ne hnew).symm.trans hname)
        exact .inl ⟨List.mem_append_left _ hregistered, hflight⟩
    · intro o ho
      rcases List.mem_append.mp ho with hbefore | hnew
      · exact h.inFlight o hbefore
      · exact hmem (List.mem_filter.mp hnew).1
  · exact h

theorem unregisterObserver_keeps (env : Env) (m : SettingDataManager DarkModeObserver)
    (key : String) (userId : ℤ) :
    (m.unregisterObserver env key userId).1.isInitialized = m.isInitialized ∧
      (m.unregisterObserver env key userId).1.registered ⊆ m.registered ∧
      (m.unregisterObserver env key userId).1.inFlight = m.inFlight := by
  unfold SettingDataManager.unregisterObserver
  split
  · exact ⟨rfl, List.Subset.refl _, rfl⟩
  · dsimp only
    split_ifs
    · exact ⟨rfl, List.erase_subset, rfl⟩
    · exact ⟨rfl, List.Subset.refl _, rfl⟩

/-- Once the context observed so far is released, nobody is recorded. -/
theorem joined_released (h : Registered s) (hinit : s.settingDataManager.isInitialized = true)
    (env : Env) (context : AccountContext) :
    Joined context (s.releaseObservedContext env).settingDataManager ∧
      (s.releaseObservedContext env).settingDataManager.observers = Table.empty ∧
      (s.releaseObservedContext env).settingDataObservers = s.settingDataObservers := by
  have hjoined {m : SettingDataManager DarkModeObserver} (hinit' : m.isInitialized = true)
      (hempty : m.observers = Table.empty)
      (hregistered : m.registered ⊆ s.settingDataManager.registered)
      (hflight : m.inFlight = s.settingDataManager.inFlight) : Joined context m := by
    refine ⟨hinit', ?_, ?_, fun o ho => h.registered o (hregistered ho), ?_⟩
    · rw [hempty]
      exact nofun
    · rw [hempty]
      exact nofun
    · rw [hflight]
      exact h.inFlight
  have hobserved : s.observedContext = s.settingDataObserversContext := by
    unfold observedContext
    rw [h.user]
    split_ifs with hfallback
    · simp at hfallback
    · rfl
  unfold releaseObservedContext
  dsimp only
  rw [hobserved]
  split_ifs with hinvalid
  · have hempty : s.settingDataManager.observers = Table.empty := by
      by_contra hrecorded
      have hvalid := (h.valid hrecorded).2
      rw [hinvalid] at hvalid
      exact absurd hvalid (lt_irrefl _)
    exact ⟨hjoined hinit hempty (List.Subset.refl _) rfl, hempty, rfl⟩
  · set answers : SettingItem → Env := fun _ => env
    set items := s.settingDataObservers
    set m := items.foldl (unregister answers s.settingDataObserversContext) s.settingDataManager
    have hkeeps : m.isInitialized = s.settingDataManager.isInitialized ∧
        m.registered ⊆ s.settingDataManager.registered ∧
        m.inFlight = s.settingDataManager.inFlight := by
      refine List.foldlRecOn (motive := fun m : SettingDataManager DarkModeObserver =>
        m.isInitialized = s.settingDataManager.isInitialized ∧
          m.registered ⊆ s.settingDataManager.registered ∧
          m.inFlight = s.settingDataManager.inFlight) items _
        ⟨rfl, List.Subset.refl _, rfl⟩ fun m hm item _ => ?_
      obtain ⟨hinit', hregistered, hflight⟩ := unregisterObserver_keeps env m
        (buildSettingKey item.key s.settingDataObserversContext)
        s.settingDataObserversContext.userId
      exact ⟨hinit'.trans hm.1, List.Subset.trans hregistered hm.2.1, hflight.trans hm.2.2⟩
    have hempty : m.observers = Table.empty := by
      funext name
      refine (observers_foldl_unregister ..).trans ?_
      split_ifs with hmem
      · rfl
      · rcases h.items with ⟨-, hnone⟩ | hitems
        · rw [hnone]
        · cases hname : s.settingDataManager.observers name with
          | none => rfl
          | some o =>
            obtain ⟨item, rfl, -⟩ := h.recorded name o hname
            have hall : item ∈ items := by
              change item ∈ s.settingDataObservers
              rw [hitems]
              cases item <;> decide
            exact absurd (List.mem_map_of_mem hall) hmem
    exact ⟨hjoined (hkeeps.1.trans hinit) hempty hkeeps.2.1 hkeeps.2.2, hempty, rfl⟩

theorem initializeManager_ok (env : Env) (m : SettingDataManager DarkModeObserver) :
    (m.initializeManager env).2 = .ok ↔ (m.initializeManager env).1.isInitialized = true := by
  unfold SettingDataManager.initializeManager
  split_ifs with hinit
  · exact iff_of_true rfl hinit
  · exact iff_of_true rfl rfl
  · exact iff_of_false nofun hinit

theorem Inv.opened (h : Inv item t) (env : Env) :
    Inv item { t with service := t.service.openSettings env } := by
  obtain ⟨s, running⟩ := t
  by_cases hempty : s.settingDataManager.observers = Table.empty
  · have hm : ∃ b, (s.settingDataManager.initializeManager env).1 =
        { s.settingDataManager with isInitialized := b } := by
      unfold SettingDataManager.initializeManager
      split_ifs
      · exact ⟨_, rfl⟩
      · exact ⟨_, rfl⟩
      · exact ⟨_, rfl⟩
    obtain ⟨b, hb⟩ := hm
    have hnone : (s.openSettings env).settingDataManager.observers = Table.empty := by
      unfold openSettings withSettings
      rw [hb]
      exact hempty
    refine ⟨?_, fun hwatched => absurd hnone hwatched.nonempty⟩
    unfold openSettings withSettings
    rw [hb]
    exact ⟨h.registered.user, h.registered.items, h.registered.recorded,
      fun hrecorded => absurd hempty hrecorded, h.registered.present, h.registered.registered,
      h.registered.inFlight⟩
  · have hsame : s.openSettings env = s := by
      unfold openSettings withSettings SettingDataManager.initializeManager
      rw [if_pos (h.registered.valid hempty).1]
    rw [hsame]
    exact h

/-- A switch to another context tells all its observers; a rejected one concerns none of the
followed context. -/
theorem Inv.switched (h : Inv item t) (env : Env) (context : AccountContext) :
    Inv item { t with service := (t.service.onSwitchContext env context).1 } ∧
      (Watched (t.service.onSwitchContext env context).1 item →
        context = (t.service.onSwitchContext env context).1.settingDataObserversContext →
        InFlight (t.service.onSwitchContext env context).1 item) := by
  obtain ⟨s, running⟩ := t
  have hopened := h.opened env
  have hvalid := hopened.registered.valid
  unfold onSwitchContext
  dsimp only at hopened hvalid ⊢
  rw [← openSettings]
  split_ifs with hfailed huser
  · refine ⟨hopened, fun hwatched _ => ?_⟩
    exact absurd ((initializeManager_ok ..).mpr (hvalid hwatched.nonempty).1) hfailed
  · refine ⟨hopened, fun hwatched hsame => ?_⟩
    have hinvalid := (hvalid hwatched.nonempty).2
    rw [← hsame] at hinvalid
    exact absurd hinvalid (Int.not_lt.mpr huser)
  · have hinit := (initializeManager_ok ..).mp (not_not.mp hfailed)
    obtain ⟨hjoined, hempty, hitems⟩ :=
      joined_released hopened.registered hinit env context
    set released := (s.openSettings env).releaseObservedContext env
    have hregister : Joined context
        (released.registerSettingDataObservers env context).1.settingDataManager :=
      List.foldlRecOn (motive := fun r : SettingDataManager DarkModeObserver × ℕ =>
        Joined context r.1) _ _ hjoined fun r hr item _ => hr.register env item
    have htold (hwatched : Watched
        { (released.registerSettingDataObservers env context).1 with
          settingDataObserversContext := context
          settingDataObserversUserId := context.userId } item) :=
      (hregister.present _ _ hwatched).2
    refine ⟨⟨⟨rfl, ?_, hregister.recorded, fun _ => ⟨hregister.isInitialized, not_le.mp huser⟩,
      fun name o hname => (hregister.present name o hname).1, hregister.registered,
      hregister.inFlight⟩, fun hwatched => .inl (htold hwatched)⟩, fun hwatched _ => htold hwatched⟩
    rcases hopened.registered.items with ⟨hnone, -⟩ | hall
    · refine .inl ⟨hitems.trans hnone, ?_⟩
      unfold registerSettingDataObservers
      dsimp only
      rw [hitems, hnone]
      exact hempty
    · exact .inr (hitems.trans hall)

end Switching

section Events

/-- A switch and the load after it, as far as the settings and the memory are concerned. -/
theorem Inv.switchLoaded (hanswers : Answers env) (h : Inv item t) (context : AccountContext)
    (needUpdateCallback isDarkMode bootLoadFlag : Bool) :
    Inv item { t with service := ((t.service.onSwitchContext env context).1.loadUserSettingData env
      context needUpdateCallback isDarkMode bootLoadFlag).service } := by
  obtain ⟨hswitched, htold⟩ := h.switched env context
  exact hswitched.loaded hanswers (fun hwatched hsame => .inl (htold hwatched hsame)) _ _ _

theorem Inv.accountContextSwitch (hanswers : Answers env) (h : Inv item t)
    (context : AccountContext) :
    Inv item { t with service := t.service.accountContextSwitchFunc env context } :=
  (h.switchLoaded hanswers context false false false).announcing
    (.of_beyondAbility (beyondAbility_accountContextSwitchFunc ..))

theorem Inv.subProfileSwitched (hanswers : Answers env) (h : Inv item t)
    (userId subProfileId : ℤ) :
    Inv item { t with service := t.service.handleSubProfileSwitched env userId subProfileId } := by
  unfold handleSubProfileSwitched
  split_ifs
  · exact h
  · exact h
  · exact h.announcing (.of_beyondAbility (beyondAbility_applyAppearanceContextToUser ..))
  · refine (h.accountContextSwitch hanswers (subProfileContext env userId subProfileId)).announcing
      (.of_beyondAbility ?_)
    refine frame_foldl _ beyondAbility (fun s effectiveUserId => ?_) _
    split_ifs
    · rfl
    · exact beyondAbility_applyAppearanceContextToUser ..

theorem Inv.bootCompleted (hanswers : Answers env) (h : Inv item t) :
    Inv item { t with service := t.service.bootCompletedCallback env } := by
  unfold bootCompletedCallback
  split_ifs
  · exact h
  · have hflag : Inv item { t with service := { t.service with bootCompleteFlag := true } } :=
      h.announcing ⟨rfl, rfl, rfl, .refl _⟩
    exact hflag.switchLoaded hanswers _ true false true

/-- The list of observers is made anew when AppMgr starts. -/
theorem registered_initializeManager (h : Registered s) : Registered s.initializeManager :=
  ⟨h.user, .inr rfl, h.recorded, h.valid, h.present, h.registered, h.inFlight⟩

theorem Inv.onAddSystemAbility (h : Inv item t) (env : Env) :
    Inv item { t with service := t.service.onAddSystemAbility env } := by
  have hitems : Inv item { t with service := t.service.initializeManager } :=
    ⟨registered_initializeManager h.registered, h.follows⟩
  exact hitems.announcing (.of_beyondAbility (beyondAbility_onAddSystemAbility ..))

theorem registered_settingWritten (h : Registered s) (userId : ℤ) (key : String)
    (value : Option String) : Registered (s.settingWritten userId key value) :=
  ⟨h.user, h.items, h.recorded, h.valid, h.present, h.registered, h.inFlight⟩

/-- A write that nobody is told of concerns another row. -/
theorem Inv.settingWritten (h : Inv item t) {userId : ℤ} {key : String} (value : Option String)
    (hother : ¬(userId = (followed t).userId ∧ key = buildSettingKey item.key (followed t))) :
    Inv item { t with service := t.service.settingWritten userId key value } where
  registered := registered_settingWritten h.registered ..
  follows := by
    intro hwatched
    refine (h.follows hwatched).step (.change ⟨rfl, rfl, id, .inl (storedValue_congr rfl ?_)⟩)
    refine tables_settingWritten_of_ne value ?_
    rw [not_and_or] at hother
    exact hother.imp Ne.symm Ne.symm

theorem announcing_writtenBy (s : Service) (userId : ℤ) (key : String) (value : Option String) :
    Announcing s (writtenBy s userId key value) := by
  exact ⟨rfl, rfl, rfl, SettingDataManager.announces_notifyChange rfl rfl rfl rfl
    fun _ _ => tables_settingWritten_of_ne value⟩

theorem Inv.event {event : Event} (h : Inv item t) (hadmits : Admits item t (env, .event event))
    (hreboot : event ≠ .rebooted) :
    Inv item { t with service := t.service.step (env, event) } := by
  obtain ⟨hanswers, hevent⟩ := hadmits
  cases event with
  | onAddSystemAbility => exact h.onAddSystemAbility env
  | bootCompleted => exact h.bootCompleted hanswers
  | userSwitched userId => exact h.accountContextSwitch hanswers _
  | subProfileSwitched userId subProfileId => exact h.subProfileSwitched hanswers userId subProfileId
  | settingChanged observer => exact hevent.elim
  | delivered n => exact hevent.elim
  | loadUserSettingData context needUpdateCallback bootLoadFlag =>
    exact h.loaded hanswers (fun _ hsame => .inr (hevent hsame)) _ _ _
  | settingWritten userId key value => exact h.settingWritten value hevent
  | rebooted => exact absurd rfl hreboot
  | _ => exact h.announcing (announcing_step _ hanswers.insert rfl)

end Events

section Callbacks

variable {observer : DarkModeObserver} {value : ℤ}

/-- A callback starts: its notification is taken, and it reads. -/
def startCallback (env : Env) (t : Threads) (n : ℕ) (o : SettingDataObserver DarkModeObserver) :
    Threads where
  service := t.service.takeNotification n
  running := t.running ++ [(o.updateFunc, t.service.observerRead env o.updateFunc o.key)]

variable {n : ℕ} {o : SettingDataObserver DarkModeObserver}

theorem next_started (hn : t.service.settingDataManager.inFlight[n]? = some o) :
    next t (env, .started n) = startCallback env t n o := by
  unfold next
  dsimp only
  rw [hn]
  rfl

theorem changed_started (hn : t.service.settingDataManager.inFlight[n]? = some o)
    (hne : o.updateFunc ≠ ⟨item, followed t⟩) :
    (view t item).Changed (view (startCallback env t n o) item) := by
  refine ⟨rfl, ?_, fun hflight => Pool.mem_eraseIdx_of_ne hn hflight ?_, .inl rfl⟩
  · ext value
    refine exists_congr fun read => and_congr_left fun _ => ?_
    refine List.mem_append.trans (or_iff_left fun hnew => hne ?_)
    exact (Prod.mk.inj (List.mem_singleton.mp hnew)).1.symm
  · intro heq
    rw [← heq] at hne
    exact hne rfl

theorem view_started (hanswers : Answers env) (hregistered : Registered t.service)
    (hwatched : Watched t.service item)
    (hn : t.service.settingDataManager.inFlight[n]? = some o)
    (hsame : o.updateFunc = ⟨item, followed t⟩) (hidle : Idle t item) :
    (view t item).Step (view (startCallback env t n o) item) := by
  refine .read rfl hidle.held ?_
  have hshape : o = observerOf (followed t) item := by
    have hshaped := hregistered.inFlight o (List.mem_of_getElem? hn)
    unfold Shaped at hshaped
    rw [hsame] at hshaped
    exact hshaped
  have hread : t.service.observerRead env o.updateFunc o.key = .locked ((number (ownRow t.service
      item (followed t))).getD item.fallback) := by
    rw [hshape]
    exact congrArg ObserverPhase.locked
      (settingValue_eq hanswers (hregistered.valid hwatched.nonempty).1 _ _)
  unfold startCallback
  rw [hread, hsame]
  ext value
  constructor
  · rintro ⟨read, hmem, rfl⟩
    rcases List.mem_append.mp hmem with hbefore | hnew
    · exact absurd hbefore (hidle read)
    · have hvalue := (Prod.mk.inj (List.mem_singleton.mp hnew)).2
      rw [ObserverPhase.locked.inj hvalue]
      rfl
  · rintro rfl
    exact ⟨_, List.mem_append_right _ (List.mem_singleton_self _), rfl⟩

theorem registered_started (h : Registered t.service) :
    Registered (startCallback env t n o).service :=
  ⟨h.user, h.items, h.recorded, h.valid, h.present, h.registered,
    fun o ho => h.inFlight o (List.mem_of_mem_eraseIdx ho)⟩

theorem Inv.started (h : Inv item t) (hadmits : Admits item t (env, .started n)) :
    Inv item (next t (env, .started n)) := by
  obtain ⟨hanswers, halone⟩ := hadmits
  cases hn : t.service.settingDataManager.inFlight[n]? with
  | none =>
    unfold next
    dsimp only
    rw [hn]
    exact h
  | some o =>
    rw [next_started hn]
    refine ⟨registered_started h.registered, fun hwatched => (h.follows hwatched).step ?_⟩
    by_cases hsame : o.updateFunc = ⟨item, followed t⟩
    · exact view_started hanswers h.registered hwatched hn hsame (halone o hn hsame)
    · exact .change (changed_started hn hsame)

/-- The threads after a locked step: the callback that took it is done with its value. -/
structure Assigned (t t' : Threads) (observer : DarkModeObserver) (value : ℤ) : Prop where
  service : t'.service = t.service.setState observer.context
    (observer.item.assign value (t.service.stateOf observer.context))
  fewer : ∀ observer' value', (observer', ObserverPhase.locked value') ∈ t'.running →
    (observer', ObserverPhase.locked value') ∈ t.running
  others : ∀ observer' value', observer' ≠ observer →
    (observer', ObserverPhase.locked value') ∈ t.running →
    (observer', ObserverPhase.locked value') ∈ t'.running

section Assigned

variable {t' : Threads} (h : Assigned t t' observer value)

include h

theorem Assigned.followed : followed t' = followed t := by
  unfold FollowedSettings.followed
  rw [h.service]
  rfl

theorem Assigned.reading {value' : ℤ} (hread : Reading t' item value') :
    Reading t item value' := by
  unfold Reading at hread
  rw [h.followed] at hread
  exact h.fewer _ _ hread

theorem Assigned.stored : (view t' item).stored = (view t item).stored := by
  refine storedValue_congr h.followed ?_
  rw [h.service]
  rfl

theorem Assigned.kept (hannounced : (view t item).announced) : (view t' item).announced := by
  change InFlight t'.service item
  rw [h.service]
  exact hannounced

theorem Assigned.copy :
    (view t' item).copy = item.valueIn (t'.service.stateOf (FollowedSettings.followed t)) := by
  rw [← h.followed]
  rfl

/-- The assignment of another callback leaves the item alone, unless sun times are reset. -/
theorem changed_assignment (hne : observer ≠ ⟨item, FollowedSettings.followed t⟩)
    (hcross : observer.context = FollowedSettings.followed t → item.isSun = true →
      observer.item.crosses value (t.service.stateOf (FollowedSettings.followed t)) = false) :
    (view t item).Changed (view t' item) := by
  refine ⟨?_, ?_, h.kept, .inl h.stored⟩
  · rw [h.copy, h.service]
    by_cases hsame : observer.context = FollowedSettings.followed t
    · have hitem : item ≠ observer.item := by
        rintro rfl
        rw [← hsame] at hne
        exact hne rfl
      rw [← hsame] at hcross ⊢
      rw [stateOf_setState_self, SettingItem.valueIn_assign_of_ne hitem (hcross rfl), hsame]
      rfl
    · rw [stateOf_setState_of_ne _ _ (Ne.symm hsame)]
      rfl
  · ext value'
    refine exists_congr fun read => and_congr_left fun _ => ⟨h.reading, fun hread => ?_⟩
    unfold Reading
    rw [h.followed]
    exact h.others _ _ (Ne.symm hne) hread

end Assigned

/-- The assignment of a callback of the item stores what was read. -/
theorem view_assignment {t' : Threads} (h : Assigned t t' ⟨item, followed t⟩ value)
    (hmem : Reading t item value)
    (hcross : item.isSun = true → item.crosses value (t.service.stateOf (followed t)) = false) :
    (view t item).Step (view t' item) := by
  have huncrossed : item.crosses value (t.service.stateOf (followed t)) = false := by
    cases hsun : item.isSun with
    | true => exact hcross hsun
    | false => exact SettingItem.crosses_of_not_isSun hsun
  refine .store h.stored h.kept ?_ ?_
  · rintro _ ⟨read, hread, rfl⟩
    exact ⟨read, h.reading hread, rfl⟩
  · rw [h.copy, h.service, stateOf_setState_self, SettingItem.valueIn_assign huncrossed]
    exact ⟨value, hmem, rfl⟩

theorem Assigned.registered {t' : Threads} (ht : Assigned t t' observer value)
    (h : Registered t.service) : Registered t'.service := by
  rw [ht.service]
  exact ⟨h.user, h.items, h.recorded, h.valid, h.present, h.registered, h.inFlight⟩

theorem Inv.assignment {t' : Threads} (h : Inv item t) (ht : Assigned t t' observer value)
    (hmem : (observer, ObserverPhase.locked value) ∈ t.running)
    (hcross : observer.context = followed t → item.isSun = true →
      observer.item.crosses value (t.service.stateOf (followed t)) = false) : Inv item t' where
  registered := ht.registered h.registered
  follows := by
    intro hwatched
    rw [ht.service] at hwatched
    refine (h.follows hwatched).step ?_
    by_cases hsame : observer = ⟨item, followed t⟩
    · subst hsame
      exact view_assignment ht hmem (hcross rfl)
    · exact .change (changed_assignment ht hsame hcross)

/-- Callbacks that read and do not assign come and go unnoticed. -/
theorem Inv.of_reading {running running' : List (DarkModeObserver × ObserverPhase)}
    (h : Inv item ⟨s, running⟩)
    (hsame : ∀ observer value, (observer, ObserverPhase.locked value) ∈ running' ↔
      (observer, ObserverPhase.locked value) ∈ running) : Inv item ⟨s, running'⟩ where
  registered := h.registered
  follows := by
    intro hwatched
    refine (h.follows hwatched).step (.change ⟨rfl, ?_, id, .inl rfl⟩)
    ext value
    exact exists_congr fun read => and_congr_left fun _ => hsame _ _

/-- The locked step of a callback is its assignment and the reaction to it. -/
theorem next_locked {j : ℕ} (env : Env)
    (hj : t.running[j]? = some (observer, .locked value)) :
    ∃ t' s', Assigned t t' observer value ∧ Announcing t'.service s' ∧
      next t (env, .proceeds j) = ⟨s', t'.running⟩ := by
  have hreact := writing_onStateChangeLocked (R := SettingDataManager.Announces) env
    (t.service.setState observer.context
      (observer.item.assign value (t.service.stateOf observer.context)))
    observer.context true false observer.item.resets false
  unfold next
  dsimp only
  rw [hj]
  dsimp only [observerStep]
  split_ifs
  · refine ⟨⟨_, _⟩, _, ⟨rfl, ?_, ?_⟩, hreact, rfl⟩
    · intro observer' value' hmem'
      rcases List.mem_or_eq_of_mem_set hmem' with hbefore | hnew
      · exact hbefore
      · exact ObserverPhase.noConfusion (Prod.mk.inj hnew).2
    · intro observer' value' hne hmem
      exact Pool.mem_set_of_ne hj hmem fun heq => hne (Prod.mk.inj heq).1
  · refine ⟨⟨_, _⟩, _, ⟨rfl, ?_, ?_⟩, hreact, rfl⟩
    · exact fun _ _ => List.mem_of_mem_eraseIdx
    · intro observer' value' hne hmem
      exact Pool.mem_eraseIdx_of_ne hj hmem fun heq => hne (Prod.mk.inj heq).1

/-- What the callback of the mode does after the lock. -/
theorem next_recalculation {j : ℕ}
    (hinsert : ∀ userId key value, env.insert userId key value = true)
    (hj : t.running[j]? = some (observer, .recalculation value)) :
    ∃ s' running', Announcing t.service s' ∧ next t (env, .proceeds j) = ⟨s', running'⟩ ∧
      ∀ observer' value', (observer', ObserverPhase.locked value') ∈ running' ↔
        (observer', ObserverPhase.locked value') ∈ t.running := by
  unfold next
  dsimp only
  rw [hj]
  refine ⟨_, t.running.eraseIdx j, ?_, rfl, fun observer' value' => ⟨List.mem_of_mem_eraseIdx, ?_⟩⟩
  · dsimp only [observerStep]
    split_ifs
    · exact writing_initSunriseSunsetMode _ _ _ fun _ => sunWritten_announces hinsert _
    · exact .of_beyondSchedule (beyondSchedule_clearRecalculationTimer ..)
  · intro hmem
    exact Pool.mem_eraseIdx_of_ne hj hmem fun heq => ObserverPhase.noConfusion (Prod.mk.inj heq).2

theorem Inv.proceeds (h : Inv item t) {j : ℕ} (hadmits : Admits item t (env, .proceeds j)) :
    Inv item (next t (env, .proceeds j)) := by
  obtain ⟨hanswers, hcross⟩ := hadmits
  cases hj : t.running[j]? with
  | none =>
    unfold next
    dsimp only
    rw [hj]
    exact h
  | some callback =>
    obtain ⟨observer, phase⟩ := callback
    cases phase with
    | locked value =>
      obtain ⟨t', s', hassigned, hannouncing, hnext⟩ := next_locked env hj
      have hinv := h.assignment hassigned (List.mem_of_getElem? hj) (hcross observer value hj)
      rw [hnext]
      exact hinv.announcing hannouncing
    | recalculation value =>
      obtain ⟨s', running', hannouncing, hnext, hsame⟩ := next_recalculation hanswers.insert hj
      rw [hnext]
      exact (h.of_reading hsame).announcing hannouncing

end Callbacks

section Runs

theorem inv_next (t : Threads) (e : Env × ThreadEvent) (h : Inv item t)
    (hadmits : Admits item t e) : Inv item (next t e) := by
  obtain ⟨env, event⟩ := e
  cases event with
  | event event =>
    by_cases hreboot : event = .rebooted
    · subst hreboot
      exact ⟨⟨rfl, .inl ⟨rfl, rfl⟩, nofun, fun hrecorded => absurd rfl hrecorded, nofun, nofun,
        nofun⟩, nofun⟩
    · have hsame : next t (env, .event event) =
          { t with service := t.service.step (env, event) } := by
        cases event with
        | rebooted => exact absurd rfl hreboot
        | _ => rfl
      rw [hsame]
      exact h.event hadmits hreboot
  | written userId key value => exact h.announcing (announcing_writtenBy ..)
  | started n => exact h.started hadmits
  | proceeds j => exact h.proceeds hadmits

variable (parameters : Table String String) (tables : ℤ → Table String String)

theorem inv_start (item : SettingItem) : Inv item ⟨Service.start parameters tables, []⟩ :=
  ⟨⟨rfl, .inl ⟨rfl, rfl⟩, nofun, fun hrecorded => absurd rfl hrecorded, nofun, nofun, nofun⟩, nofun⟩

/-- In every interleaving that is admitted, a setting of the observed context that is not announced
is the value that every running callback of it holds, and with no such callback it is what the
memory has. -/
theorem memory_follows {run : List (Env × ThreadEvent)}
    (hok : Along next (Admits item) ⟨Service.start parameters tables, []⟩ run) :
    let t := exec next ⟨Service.start parameters tables, []⟩ run
    Watched t.service item → InFlight t.service item ∨
      (∀ value, Reading t item value → item.kept value = storedValue t.service item) ∧
      (Idle t item → memoryValue t.service item = storedValue t.service item) := by
  intro t hwatched
  have h : Inv item t := exec_invariant inv_next (inv_start parameters tables item) hok
  rcases h.follows hwatched with hannounced | ⟨hheld, hcopy⟩
  · exact .inl hannounced
  · refine .inr ⟨fun value hread => ?_, fun hidle => hcopy hidle.held⟩
    exact hheld _ ⟨value, hread, rfl⟩

end Runs

open Scenario

/-- A schedule is loaded; the start time is written to 21:00 while its callback, which has read
20:00, waits for the lock. -/
def rewritten : List (Env × ThreadEvent) :=
  [.event .onAddSystemAbility, .event .bootCompleted, .started 1,
    .written 100 SettingItem.startTime.key (some "1260"), .proceeds 0, .started 4,
    .event (.setDarkMode 0), .proceeds 0].map (noon, ·)

theorem noon_answers : Answers noon := ⟨fun _ => rfl, fun _ _ => rfl, fun _ _ _ => rfl⟩

theorem rewritten_followed :
    memoryValue (exec next ⟨Service.start Table.empty (scheduleRow "1200" "1920"), []⟩
      rewritten).service .startTime = 1260 := by
  have hok : Along next (Admits .startTime)
      ⟨Service.start Table.empty (scheduleRow "1200" "1920"), []⟩ rewritten :=
    ⟨⟨noon_answers, trivial⟩, ⟨noon_answers, trivial⟩,
      ⟨noon_answers, fun _ _ _ => idle_of_nil rfl⟩, ⟨noon_answers, trivial⟩,
      ⟨noon_answers, fun _ _ _ _ => nofun⟩,
      ⟨noon_answers, fun _ _ _ => idle_of_nil (by decide +kernel)⟩, ⟨noon_answers, trivial⟩,
      ⟨noon_answers, fun _ _ _ _ => nofun⟩, trivial⟩
  rcases memory_follows _ _ hok (by decide +kernel) with hflight | ⟨-, hcopy⟩
  · exact absurd hflight (by decide +kernel)
  · exact (hcopy (idle_of_nil (by decide +kernel))).trans (by decide +kernel)

end FollowedSettings
end UiAppearance
