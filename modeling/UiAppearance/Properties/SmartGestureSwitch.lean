import UiAppearance.Foundations.Replica
import UiAppearance.Foundations.ThreadPool
import UiAppearance.Ability.Events
import UiAppearance.Settings.SmartGestureManager

/-!
# The smart gesture switch is followed

The application manager shows the switch as the setting has it once every
notification has been delivered and every update is through, provided that no
update reads while another one has yet to send. Values that stand for no mode are
skipped. At boot the setting is both observed and read, and these two updates may
overlap.
-/

namespace UiAppearance
namespace SmartGestureSwitch

open Transition SmartGestureManager
open SettingDataManager (number)

/-- The observer that is registered when the boot has completed. -/
def switchObserver : SettingDataObserver Bool := ⟨settingSmartGestureSwitch, invalidUserId, true⟩

/-- The mode that a row stands for. -/
def modeOf (row : Option String) : Option SmartGestureMode := (number row).bind SmartGestureMode.ofInt

def storedMode (s : SmartGestureManager) : Option SmartGestureMode :=
  modeOf (s.settingDataManager.tables invalidUserId settingSmartGestureSwitch)

/-- A notification is in flight, or an update is about to read. -/
def Announced (s : SmartGestureManager) : Prop :=
  switchObserver ∈ s.settingDataManager.inFlight ∨
    .reading settingSmartGestureSwitch invalidUserId ∈ s.updates

/-- An update has read this mode and not sent it yet. -/
def Sending (s : SmartGestureManager) (mode : SmartGestureMode) : Prop :=
  .sending mode invalidUserId ∈ s.updates

def Idle (s : SmartGestureManager) : Prop := ∀ mode, ¬Sending s mode

instance (s : SmartGestureManager) : Decidable (Announced s) :=
  inferInstanceAs (Decidable (_ ∨ _))

instance (s : SmartGestureManager) : Decidable (Idle s) :=
  decidable_of_iff (∀ phase ∈ s.updates, ∀ mode ∈ [SmartGestureMode.disable, .auto],
    phase ≠ .sending mode invalidUserId) <| by
    constructor
    · intro h mode hsending
      exact h _ hsending mode (by cases mode <;> simp) rfl
    · rintro h _ hsending mode - rfl
      exact h mode hsending

/-- The setting and what is shown as a value and its copy. A row that stands for no mode asks for
nothing. -/
def view (s : SmartGestureManager) : Replica (Option SmartGestureMode) where
  stored := storedMode s
  copy := if storedMode s = none then none else s.shown invalidUserId
  announced := Announced s
  held := { m | ∃ mode, Sending s mode ∧ some mode = m }

/-- The settings database works, and the application manager is there and takes every update. -/
structure Healthy (env : Env) : Prop where
  settingService : env.settingService = true
  createHelper : ∀ userId, env.createHelper userId = true
  query : ∀ userId key, env.query userId key = .rows
  appManager : env.appManager = true
  updateConfiguration : ∀ userIds, env.updateConfiguration userIds = true

/-- The application manager stays, the setting is written with an announcement, and no update
reads while another one has yet to send. -/
def Admits (s : SmartGestureManager) (e : Env × GestureEvent) : Prop :=
  Healthy e.1 ∧
    match e.2 with
    | .onRemoveSystemAbility => False
    | .settingWritten userId key _ announced =>
      userId = invalidUserId → key = settingSmartGestureSwitch → announced = true
    | .proceeds j => ∀ key userId, s.updates[j]? = some (.reading key userId) → Idle s
    | _ => True

variable {env : Env} {s s' : SmartGestureManager} {mode : SmartGestureMode}

def Registered (s : SmartGestureManager) : Prop :=
  switchObserver ∈ s.settingDataManager.registered

instance (s : SmartGestureManager) : Decidable (Registered s) := inferInstanceAs (Decidable (_ ∈ _))

/-- An update of this switch and no other. -/
def OfSwitch : GesturePhase → Prop
  | .reading key userId => key = settingSmartGestureSwitch ∧ userId = invalidUserId
  | .sending _ userId => userId = invalidUserId

/-- From the completed boot on somebody listens, what is under way belongs to the switch, and what
is out of date is announced. -/
structure Inv (s : SmartGestureManager) : Prop where
  installed : s.bootCompleteFlags ≠ [] →
    s.observer = (settingSmartGestureSwitch, true) ∧ s.updateCallback = true
  heard : true ∈ s.bootCompleteFlags → Registered s
  opened : Registered s → s.settingDataManager.isInitialized = true ∧ s.updateCallback = true
  recorded : (s.settingDataManager.observers
    (generateObserverName settingSmartGestureSwitch invalidUserId)).isSome = true → Registered s
  registered : ∀ o ∈ s.settingDataManager.registered, o = switchObserver
  told : ∀ o ∈ s.settingDataManager.inFlight, o = switchObserver ∧ Registered s
  busy : ∀ phase ∈ s.updates, OfSwitch phase ∧ Registered s
  follows : Registered s → (view s).Follows

section Reading

theorem readValue_eq (henv : Healthy env) (hopen : s.settingDataManager.isInitialized = true) :
    s.readValue env settingSmartGestureSwitch invalidUserId = storedMode s := by
  have hhelper : s.settingDataManager.hasHelper env invalidUserId = true := by
    simp [SettingDataManager.hasHelper, hopen, henv.createHelper]
  have hread := SettingDataManager.getInt32ValueStrictly_toOption hhelper
    (henv.query invalidUserId settingSmartGestureSwitch)
  unfold storedMode modeOf readValue
  rw [← hread]
  cases s.settingDataManager.getInt32ValueStrictly env settingSmartGestureSwitch invalidUserId with
  | error code => rfl
  | ok value => rfl

theorem onChangeSmartGestureMode_eq (henv : Healthy env) (hcallback : s.updateCallback = true) :
    s.onChangeSmartGestureMode env mode invalidUserId =
      { s with shown := Function.update s.shown invalidUserId (some mode) } := by
  simp [onChangeSmartGestureMode, updateSmartGestureModeCallback, hcallback, henv.appManager,
    henv.updateConfiguration]

end Reading

section Steps

theorem follows_of_announced (h : Announced s) : (view s).Follows := .inl h

/-- The settings may be written as long as the observer is told. -/
theorem Inv.announces (h : Inv s) {m : SettingDataManager Bool}
    (hm : SettingDataManager.Announces s.settingDataManager m) :
    Inv { s with settingDataManager := m } where
  installed := h.installed
  heard := by
    intro hbooted
    have hregistered := h.heard hbooted
    rw [Registered, ← hm.registered] at hregistered
    exact hregistered
  opened := by
    intro hregistered
    rw [Registered, hm.registered] at hregistered
    rw [hm.isInitialized]
    exact h.opened hregistered
  recorded := by
    intro hrecorded
    rw [hm.observers] at hrecorded
    have hregistered := h.recorded hrecorded
    rw [Registered, ← hm.registered] at hregistered
    exact hregistered
  registered := by
    rw [hm.registered]
    exact h.registered
  told := by
    intro o ho
    unfold Registered
    rw [hm.registered]
    rcases hm.known o ho with hbefore | hlisting
    · exact h.told o hbefore
    · obtain rfl := h.registered o hlisting
      exact ⟨rfl, hlisting⟩
  busy := by
    unfold Registered
    rw [hm.registered]
    exact h.busy
  follows := by
    intro hregistered
    rw [Registered, hm.registered] at hregistered
    have hkept : Announced s → Announced { s with settingDataManager := m } := by
      rintro (hflight | hreading)
      · exact .inl (hm.kept hflight)
      · exact .inr hreading
    rcases hm.told switchObserver hregistered with hrow | hflight
    · have hstored : storedMode { s with settingDataManager := m } = storedMode s :=
        congrArg modeOf hrow
      apply (h.follows hregistered).step
      apply Replica.Step.change
      refine ⟨?_, rfl, hkept, .inl hstored⟩
      unfold view
      simp only [hstored]
    · exact follows_of_announced (.inl hflight)

theorem announces_settingWritten {userId : ℤ} {key : String} {value : Option String}
    {announced : Bool} (honly : ∀ o ∈ s.settingDataManager.registered, o = switchObserver)
    (hadmits : userId = invalidUserId → key = settingSmartGestureSwitch → announced = true) :
    SettingDataManager.Announces s.settingDataManager
      (s.settingWritten userId key value announced).settingDataManager := by
  have hrows (userId' : ℤ) (key' : String) (hne : userId' ≠ userId ∨ key' ≠ key) :
      Function.update s.settingDataManager.tables userId
        (Function.update (s.settingDataManager.tables userId) key value) userId' key' =
        s.settingDataManager.tables userId' key' := by
    by_cases huser : userId' = userId
    · subst huser
      rw [Function.update_self]
      exact Function.update_of_ne (hne.resolve_left fun hne => hne rfl) ..
    · rw [Function.update_of_ne huser]
  cases announced with
  | true => exact SettingDataManager.announces_notifyChange rfl rfl rfl rfl hrows
  | false =>
    refine ⟨rfl, rfl, rfl, List.Subset.refl _, fun _ ho => .inl ho, ?_⟩
    intro o ho
    obtain rfl := honly o ho
    refine .inl (hrows _ _ ?_)
    by_contra hsame
    rw [not_or, not_not, not_not] at hsame
    cases hadmits hsame.1.symm hsame.2.symm

/-- Opening the settings leaves everything else. -/
theorem Inv.opening (h : Inv s) :
    Inv { s with settingDataManager := (s.settingDataManager.initializeManager env).1 } := by
  unfold SettingDataManager.initializeManager
  split_ifs with hinit hservice
  · exact h
  · exact ⟨h.installed, h.heard, fun hregistered => ⟨rfl, (h.opened hregistered).2⟩, h.recorded,
      h.registered, h.told, h.busy, h.follows⟩
  · exact h

theorem Inv.installing (h : Inv s) (e : Env) : Inv (next s (e, .onAddSystemAbility)) where
  installed _ := ⟨rfl, rfl⟩
  heard := by
    intro hbooted
    rcases List.mem_append.mp hbooted with hbefore | hnew
    · exact h.heard hbefore
    · cases List.mem_singleton.mp hnew
  opened hregistered := ⟨(h.opened hregistered).1, rfl⟩
  recorded := h.recorded
  registered := h.registered
  told := h.told
  busy := h.busy
  follows := h.follows

/-- With the settings open the registration succeeds, and it concerns this observer only. -/
theorem registers (henv : Healthy env) (h : Inv s)
    (hopen : s.settingDataManager.isInitialized = true)
    (hloaded : s.observer = (settingSmartGestureSwitch, true)) :
    let m := (s.registerSettingDataObserver env).1.settingDataManager
    m.isInitialized = true ∧ switchObserver ∈ m.registered ∧
      (∀ o ∈ m.registered, o = switchObserver) ∧ ∀ o ∈ m.inFlight, o = switchObserver := by
  have hhelper : s.settingDataManager.hasHelper env invalidUserId = true := by
    simp [SettingDataManager.hasHelper, hopen, henv.createHelper]
  unfold registerSettingDataObserver SettingDataManager.registerObserver
  rw [hloaded, if_neg (by simp [hopen])]
  split_ifs with hrecorded
  · exact ⟨hopen, h.recorded hrecorded, h.registered, fun o ho => (h.told o ho).1⟩
  · have hall : ∀ o ∈ s.settingDataManager.registered ++ [switchObserver], o = switchObserver := by
      intro o ho
      rcases List.mem_append.mp ho with hbefore | hnew
      · exact h.registered o hbefore
      · exact List.mem_singleton.mp hnew
    refine ⟨hopen, List.mem_append_right _ (List.mem_singleton_self _), hall, ?_⟩
    intro o ho
    rcases List.mem_append.mp ho with hbefore | hnew
    · exact (h.told o hbefore).1
    · exact hall o (List.mem_filter.mp hnew).1

theorem initializeManager_eq (henv : Healthy env) (m : SettingDataManager Bool) :
    (m.initializeManager env).1 = { m with isInitialized := true } := by
  unfold SettingDataManager.initializeManager
  split_ifs with hinit hservice
  · rw [← hinit]
  · rfl
  · exact absurd henv.settingService hservice

/-- After the boot has completed the observer is there, and an update is about to read. -/
theorem Inv.boot (h : Inv s) (henv : Healthy env) (n : ℕ) : Inv (s.bootCompletedCallback env n) := by
  unfold bootCompletedCallback
  split_ifs with hflag
  · have hinstalled := h.installed fun hnil => by simp [hnil] at hflag
    set opened := { s with settingDataManager := (s.settingDataManager.initializeManager env).1 }
    have hopened : Inv opened := h.opening
    have hinit : opened.settingDataManager.isInitialized = true := by
      rw [show opened.settingDataManager = _ from initializeManager_eq henv s.settingDataManager]
    obtain ⟨hopen, hregistered, hlist, hflight⟩ := registers henv hopened hinit hinstalled.1
    refine ⟨fun _ => hinstalled, fun _ => hregistered, fun _ => ⟨hopen, hinstalled.2⟩,
      fun _ => hregistered, hlist, fun o ho => ⟨hflight o ho, hregistered⟩, ?_, fun _ => ?_⟩
    · intro phase hphase
      rcases List.mem_append.mp hphase with hbefore | hnew
      · exact ⟨(h.busy phase hbefore).1, hregistered⟩
      · obtain rfl := List.mem_singleton.mp hnew
        exact ⟨⟨rfl, rfl⟩, hregistered⟩
    · exact follows_of_announced (.inr (List.mem_append_right _ (List.mem_singleton_self _)))
  · exact h

/-- A notification that reaches the observer becomes an update about to read. -/
theorem Inv.starting (h : Inv s) (n : ℕ) : Inv (s.onChange n) := by
  unfold onChange
  cases hn : s.settingDataManager.inFlight[n]? with
  | none => exact h
  | some o =>
    obtain ⟨rfl, hregistered⟩ := h.told o (List.mem_of_getElem? hn)
    refine ⟨h.installed, h.heard, h.opened, h.recorded, h.registered, ?_, ?_, fun _ => ?_⟩
    · intro o ho
      exact h.told o (List.mem_of_mem_eraseIdx ho)
    · intro phase hphase
      rcases List.mem_append.mp hphase with hbefore | hnew
      · exact h.busy phase hbefore
      · obtain rfl := List.mem_singleton.mp hnew
        exact ⟨⟨rfl, rfl⟩, hregistered⟩
    · exact follows_of_announced (.inr (List.mem_append_right _ (List.mem_singleton_self _)))

end Steps

section Updates

variable {j : ℕ}

/-- The other updates are where they were. -/
theorem Inv.updating (h : Inv s) {updates : List GesturePhase}
    {shown : ℤ → Option SmartGestureMode} (hregistered : Registered s)
    (hours : ∀ phase ∈ updates, phase ∈ s.updates ∨ OfSwitch phase)
    (hfollows : (view { s with updates := updates, shown := shown }).Follows) :
    Inv { s with updates := updates, shown := shown } := by
  refine ⟨h.installed, h.heard, h.opened, h.recorded, h.registered, h.told, ?_, fun _ => hfollows⟩
  intro phase hphase
  rcases hours phase hphase with hbefore | hnew
  · exact h.busy phase hbefore
  · exact ⟨hnew, hregistered⟩

/-- An update reads. Where the row stands for no mode, it ends there. -/
theorem Inv.read (h : Inv s) (henv : Healthy env) {key : String} {userId : ℤ}
    (hj : s.updates[j]? = some (.reading key userId)) (hidle : Idle s) :
    Inv (s.proceed env j) := by
  obtain ⟨⟨rfl, rfl⟩, hregistered⟩ := h.busy _ (List.mem_of_getElem? hj)
  unfold proceed
  rw [hj]
  dsimp only
  rw [readValue_eq henv (h.opened hregistered).1]
  cases hstored : storedMode s with
  | none =>
    apply h.updating hregistered
    · exact fun phase hphase => .inl (List.mem_of_mem_eraseIdx hphase)
    · refine .inr ⟨?_, fun _ => ?_⟩
      · rintro _ ⟨mode, hsending, rfl⟩
        exact absurd (List.mem_of_mem_eraseIdx hsending) (hidle mode)
      · change (if storedMode s = none then none else s.shown invalidUserId) = storedMode s
        rw [if_pos hstored, hstored]
  | some mode =>
    apply h.updating hregistered
    · intro phase hphase
      rcases List.mem_or_eq_of_mem_set hphase with hbefore | rfl
      · exact .inl hbefore
      · exact .inr rfl
    · refine .inr ⟨?_, fun hempty => ?_⟩
      · rintro _ ⟨mode', hsending, rfl⟩
        rcases List.mem_or_eq_of_mem_set hsending with hbefore | hnew
        · exact absurd hbefore (hidle mode')
        · obtain ⟨rfl, -⟩ := GesturePhase.sending.inj hnew
          exact hstored.symm
      · have hmem : some mode ∈ (∅ : Set (Option SmartGestureMode)) := by
          rw [← hempty]
          exact ⟨mode, Pool.mem_set_self hj, rfl⟩
        exact absurd hmem (Set.notMem_empty _)

/-- An update sends what it has read. -/
theorem Inv.send (h : Inv s) (henv : Healthy env) {userId : ℤ}
    (hj : s.updates[j]? = some (.sending mode userId)) : Inv (s.proceed env j) := by
  obtain ⟨rfl, hregistered⟩ := h.busy _ (List.mem_of_getElem? hj)
  unfold proceed
  rw [hj]
  dsimp only
  rw [onChangeSmartGestureMode_eq henv (h.opened hregistered).2]
  apply h.updating hregistered
  · exact fun phase hphase => .inl (List.mem_of_mem_eraseIdx hphase)
  · rcases h.follows hregistered with hannounced | ⟨hread, -⟩
    · apply follows_of_announced
      rcases hannounced with hflight | hreading
      · exact .inl hflight
      · exact .inr (Pool.mem_eraseIdx_of_ne hj hreading (by simp))
    · have hstored : some mode = storedMode s := hread _ ⟨mode, List.mem_of_getElem? hj, rfl⟩
      refine .inr ⟨?_, fun _ => ?_⟩
      · rintro _ ⟨mode', hsending, rfl⟩
        exact hread _ ⟨mode', List.mem_of_mem_eraseIdx hsending, rfl⟩
      · change (if storedMode s = none then none
          else Function.update s.shown invalidUserId (some mode) invalidUserId) = storedMode s
        rw [← hstored, if_neg (by simp), Function.update_self]

end Updates

section Runs

variable (tables : ℤ → Table String String)

theorem inv_start : Inv (start tables) :=
  ⟨fun hflags => absurd rfl hflags, nofun, nofun, nofun, nofun, nofun, nofun, nofun⟩

theorem inv_next (s : SmartGestureManager) (e : Env × GestureEvent) (h : Inv s)
    (hadmits : Admits s e) : Inv (next s e) := by
  obtain ⟨env, event⟩ := e
  obtain ⟨henv, hadmits⟩ := hadmits
  cases event with
  | onAddSystemAbility => exact h.installing env
  | onRemoveSystemAbility => exact hadmits.elim
  | accountSwitched => exact h.opening
  | bootCompleted n => exact h.boot henv n
  | settingWritten userId key value announced =>
    exact h.announces (announces_settingWritten h.registered hadmits)
  | started n => exact h.starting n
  | proceeds j =>
    cases hj : s.updates[j]? with
    | none =>
      change Inv (s.proceed env j)
      unfold proceed
      rw [hj]
      exact h
    | some phase =>
      cases phase with
      | reading key userId => exact h.read henv hj (hadmits key userId hj)
      | sending mode userId => exact h.send henv hj

/-- Once the boot has completed, in every interleaving that is admitted: unless the switch is still
announced, every update that has yet to send carries the stored mode, and with no such update the
stored mode is the one that is shown. -/
theorem shown_follows {run : List (Env × GestureEvent)}
    (hok : Along next Admits (start tables) run) :
    let s := exec next (start tables) run
    true ∈ s.bootCompleteFlags → Announced s ∨
      (∀ mode, Sending s mode → storedMode s = some mode) ∧
      (Idle s → ∀ mode, storedMode s = some mode → s.shown invalidUserId = some mode) := by
  intro s hbooted
  have h : Inv s := exec_invariant inv_next (inv_start tables) hok
  rcases h.follows (h.heard hbooted) with hannounced | ⟨hread, hshown⟩
  · exact .inl hannounced
  · refine .inr ⟨?_, ?_⟩
    · intro mode hsending
      exact (hread _ ⟨mode, hsending, rfl⟩).symm
    · intro hidle mode hstored
      have hnone : (view s).held = ∅ := by
        apply Set.eq_empty_of_forall_notMem
        rintro _ ⟨mode, hsending, rfl⟩
        exact hidle mode hsending
      have hcopy : (if storedMode s = none then none else s.shown invalidUserId) = storedMode s :=
        hshown hnone
      rwa [hstored, if_neg (by simp)] at hcopy

end Runs

open Scenario

/-- The switch is set before the boot completes, and again while the first update has yet to
read. -/
def switchedTwice : List (Env × GestureEvent) :=
  [.onAddSystemAbility, .settingWritten invalidUserId settingSmartGestureSwitch (some "1") true,
    .bootCompleted 0, .proceeds 0, .started 0, .proceeds 0,
    .settingWritten invalidUserId settingSmartGestureSwitch (some "0") true, .proceeds 0,
    .proceeds 0, .started 0, .proceeds 0, .proceeds 0].map (noon, ·)

theorem noon_healthy : Healthy noon := ⟨rfl, fun _ => rfl, fun _ _ => rfl, rfl, fun _ => rfl⟩

theorem switchedTwice_followed :
    (exec next (start fun _ => Table.empty) switchedTwice).shown invalidUserId = some .disable := by
  have hok : Along next Admits (start fun _ => Table.empty) switchedTwice := by
    refine ⟨⟨noon_healthy, trivial⟩, ⟨noon_healthy, fun _ _ => rfl⟩, ⟨noon_healthy, trivial⟩,
      ⟨noon_healthy, fun _ _ _ => by decide +kernel⟩, ⟨noon_healthy, trivial⟩,
      ⟨noon_healthy, fun _ _ h => by cases h⟩, ⟨noon_healthy, fun _ _ => rfl⟩,
      ⟨noon_healthy, fun _ _ _ => by decide +kernel⟩, ⟨noon_healthy, fun _ _ h => by cases h⟩,
      ⟨noon_healthy, trivial⟩, ⟨noon_healthy, fun _ _ _ => by decide +kernel⟩,
      ⟨noon_healthy, fun _ _ h => by cases h⟩, trivial⟩
  rcases shown_follows _ hok (by decide +kernel) with hannounced | ⟨-, hshown⟩
  · exact absurd hannounced (by decide +kernel)
  · exact hshown (by decide +kernel) _ (by decide +kernel)

end SmartGestureSwitch
end UiAppearance
