import UiAppearance.Properties.SmartGestureSwitch

/-!
# A switch that is set while the boot completes

At boot the observer is registered before the setting is read, on a thread of its
own. If the setting is written between that reading and the sending, the newer
value may be sent first. The older one then stays on show: the newer one has been
announced, and is not announced again.
-/

namespace UiAppearance
namespace SmartGestureBoot

open Transition SmartGestureManager SmartGestureSwitch

/-- The boot completes and reads; the setting is written, and the updates of the registration and
of the write are through before what was read at first is sent. -/
def race (n : ℕ) (value : Option String) : List GestureEvent :=
  [.bootCompleted n, .proceeds 0,
    .settingWritten invalidUserId settingSmartGestureSwitch value true] ++
    [.started 0, .proceeds 1, .proceeds 1] ++ [.started 0, .proceeds 1, .proceeds 1] ++
    [.proceeds 0]

/-- Nothing is going on about the switch, which is stored like this and shown otherwise. -/
structure Behind (newer : SmartGestureMode) (s : SmartGestureManager) : Prop where
  registered : Registered s
  only : ∀ o ∈ s.settingDataManager.registered, o = switchObserver
  quiet : s.settingDataManager.inFlight = []
  idle : s.updates = []
  stored : storedMode s = some newer
  shown : s.shown invalidUserId ≠ some newer

/-- The step leaves nothing in flight, and no boot completes for the first time. -/
def Untold (s : SmartGestureManager) (e : Env × GestureEvent) : Prop :=
  (next s e).settingDataManager.inFlight = [] ∧
    match e.2 with
    | .bootCompleted n => s.bootCompleteFlags[n]? ≠ some false
    | .settingWritten userId key _ announced =>
      userId = invalidUserId → key = settingSmartGestureSwitch → announced = true
    | _ => True

variable {env : Env} {s : SmartGestureManager} {mode newer : SmartGestureMode}

section Waiting

theorem behind_next (s : SmartGestureManager) (e : Env × GestureEvent) (h : Behind newer s)
    (huntold : Untold s e) : Behind newer (next s e) := by
  obtain ⟨env, event⟩ := e
  obtain ⟨hquiet, huntold⟩ := huntold
  cases event with
  | onAddSystemAbility => exact ⟨h.registered, h.only, h.quiet, h.idle, h.stored, h.shown⟩
  | onRemoveSystemAbility => exact ⟨h.registered, h.only, h.quiet, h.idle, h.stored, nofun⟩
  | accountSwitched =>
    change Behind newer { s with settingDataManager := (s.settingDataManager.initializeManager env).1 }
    unfold SettingDataManager.initializeManager
    split_ifs
    · exact h
    · exact ⟨h.registered, h.only, h.quiet, h.idle, h.stored, h.shown⟩
    · exact h
  | bootCompleted n =>
    change Behind newer (s.bootCompletedCallback env n)
    unfold bootCompletedCallback
    rw [if_neg huntold]
    exact h
  | settingWritten userId key value announced =>
    have hannounces : SettingDataManager.Announces s.settingDataManager
        (s.settingWritten userId key value announced).settingDataManager :=
      announces_settingWritten h.only huntold
    have hregistered : Registered (s.settingWritten userId key value announced) := by
      unfold Registered
      rw [hannounces.registered]
      exact h.registered
    have huntold : switchObserver ∉
        (s.settingWritten userId key value announced).settingDataManager.inFlight := by
      rw [show (s.settingWritten ..).settingDataManager.inFlight = [] from hquiet]
      exact List.not_mem_nil
    have hrow := (hannounces.told switchObserver h.registered).resolve_right huntold
    refine ⟨hregistered, ?_, hquiet, h.idle, (congrArg modeOf hrow).trans h.stored, h.shown⟩
    intro o ho
    apply h.only
    rw [← hannounces.registered]
    exact ho
  | started n =>
    change Behind newer (s.onChange n)
    unfold onChange
    rw [h.quiet]
    exact h
  | proceeds j =>
    change Behind newer (s.proceed env j)
    unfold proceed
    rw [h.idle]
    exact h

end Waiting

section Updates

variable {l : List GesturePhase}

theorem proceed_reading (henv : Healthy env) (hopen : s.settingDataManager.isInitialized = true)
    (hupdates : s.updates = l ++ [.reading settingSmartGestureSwitch invalidUserId])
    (hstored : storedMode s = some mode) :
    s.proceed env l.length =
      { s with updates := l ++ [.sending mode invalidUserId] } := by
  unfold proceed
  simp [hupdates, readValue_eq henv hopen, hstored]

theorem proceed_sending (henv : Healthy env) (hcallback : s.updateCallback = true)
    (hupdates : s.updates = l ++ [.sending mode invalidUserId]) :
    s.proceed env l.length =
      { s with updates := l, shown := Function.update s.shown invalidUserId (some mode) } := by
  unfold proceed
  simp [hupdates, onChangeSmartGestureMode_eq henv hcallback, List.eraseIdx_append_of_length_le]

/-- A notification is taken, and its update runs to the end beside the earlier ones. -/
theorem exec_update (henv : Healthy env) (hopen : s.settingDataManager.isInitialized = true)
    (hcallback : s.updateCallback = true) {rest : List (SettingDataObserver Bool)}
    (hflight : s.settingDataManager.inFlight = switchObserver :: rest)
    (hstored : storedMode s = some mode) {k : ℕ} (hk : s.updates.length = k) :
    exec next s ([.started 0, .proceeds k, .proceeds k].map (env, ·)) =
      { s with
          settingDataManager := { s.settingDataManager with inFlight := rest }
          shown := Function.update s.shown invalidUserId (some mode) } := by
  subst hk
  set taken := { s with settingDataManager := { s.settingDataManager with inFlight := rest } }
  have hstarted : s.onChange 0 = { taken with
      updates := s.updates ++ [.reading settingSmartGestureSwitch invalidUserId] } := by
    unfold onChange
    simp [hflight, switchObserver, taken]
  have hread : ({ taken with
      updates := s.updates ++ [.reading settingSmartGestureSwitch invalidUserId] } :
        SmartGestureManager).proceed env s.updates.length =
      { taken with updates := s.updates ++ [.sending mode invalidUserId] } :=
    proceed_reading henv hopen rfl hstored
  change ((s.onChange 0).proceed env s.updates.length).proceed env s.updates.length = _
  rw [hstarted, hread]
  exact proceed_sending henv hcallback rfl

end Updates

section Boot

/-- Nothing has happened about a switch that nobody has registered for. -/
theorem bootCompletedCallback_eq (h : Inv s) (henv : Healthy env) (hfresh : ¬Registered s) {n : ℕ}
    (hn : s.bootCompleteFlags[n]? = some false) :
    ∃ observers, s.bootCompletedCallback env n = { s with
      bootCompleteFlags := s.bootCompleteFlags.set n true
      settingDataManager :=
        ⟨true, observers, s.settingDataManager.tables, [switchObserver], [switchObserver]⟩
      updates := [.reading settingSmartGestureSwitch invalidUserId] } := by
  have hinstalled := h.installed fun hnil => by simp [hnil] at hn
  have hregistered : s.settingDataManager.registered = [] := by
    apply List.eq_nil_iff_forall_not_mem.mpr
    intro o ho
    obtain rfl := h.registered o ho
    exact hfresh ho
  have hflight : s.settingDataManager.inFlight = [] :=
    List.eq_nil_iff_forall_not_mem.mpr fun o ho => hfresh (h.told o ho).2
  have hupdates : s.updates = [] :=
    List.eq_nil_iff_forall_not_mem.mpr fun phase hphase => hfresh (h.busy phase hphase).2
  have hunrecorded : (s.settingDataManager.observers
      (generateObserverName settingSmartGestureSwitch invalidUserId)).isSome = false := by
    rw [← Bool.not_eq_true]
    exact fun hrecorded => hfresh (h.recorded hrecorded)
  refine ⟨s.settingDataManager.observers.put
    (generateObserverName settingSmartGestureSwitch invalidUserId) switchObserver, ?_⟩
  unfold bootCompletedCallback registerSettingDataObserver SettingDataManager.registerObserver
  rw [if_pos hn]
  simp only [initializeManager_eq henv, hinstalled.1, hunrecorded, hupdates]
  simp [SettingDataManager.hasHelper, SettingDataManager.notifyChange, henv.createHelper,
    hregistered, hflight, switchObserver]

/-- What was read first is sent last. -/
theorem behind_race (h : Inv s) (henv : Healthy env) (hfresh : ¬Registered s) {n : ℕ}
    (hn : s.bootCompleteFlags[n]? = some false) (hmode : storedMode s = some mode)
    {value : Option String} (hvalue : modeOf value = some newer) (hne : mode ≠ newer) :
    Behind newer (exec next s ((race n value).map (env, ·))) := by
  obtain ⟨observers, hboot⟩ := bootCompletedCallback_eq h henv hfresh hn
  have hcallback := (h.installed fun hnil => by simp [hnil] at hn).2
  set tables := s.settingDataManager.tables
  set booted : SmartGestureManager := { s with
    bootCompleteFlags := s.bootCompleteFlags.set n true
    settingDataManager := ⟨true, observers, tables, [switchObserver], [switchObserver]⟩
    updates := [.reading settingSmartGestureSwitch invalidUserId] }
  have hread : booted.proceed env 0 = { booted with updates := [.sending mode invalidUserId] } :=
    proceed_reading (l := []) henv rfl rfl hmode
  set written : SmartGestureManager := { booted with
    settingDataManager := ⟨true, observers, Function.update tables invalidUserId
        (Function.update (tables invalidUserId) settingSmartGestureSwitch value),
      [switchObserver], [switchObserver, switchObserver]⟩
    updates := [.sending mode invalidUserId] }
  have hfirst : exec next s ([.bootCompleted n, .proceeds 0,
      .settingWritten invalidUserId settingSmartGestureSwitch value true].map (env, ·)) =
      written := by
    change ((s.bootCompletedCallback env n).proceed env 0).settingWritten _ _ value true = _
    rw [hboot, hread]
    simp [SmartGestureManager.settingWritten, SettingDataManager.notifyChange, switchObserver,
      booted, written]
  have hstored : storedMode written = some newer := by
    unfold storedMode
    rw [← hvalue]
    simp [written]
  have hsecond := exec_update (k := 1) henv (s := written) rfl hcallback rfl hstored rfl
  set sent : SmartGestureManager := { written with
    settingDataManager := { written.settingDataManager with inFlight := [switchObserver] }
    shown := Function.update written.shown invalidUserId (some newer) }
  have hthird := exec_update (k := 1) henv (s := sent) rfl hcallback rfl hstored rfl
  set told : SmartGestureManager := { sent with
    settingDataManager := { sent.settingDataManager with inFlight := [] }
    shown := Function.update sent.shown invalidUserId (some newer) }
  have hlast : told.proceed env 0 = { told with
      updates := [], shown := Function.update told.shown invalidUserId (some mode) } :=
    proceed_sending (l := []) henv hcallback rfl
  have hrace : exec next s ((race n value).map (env, ·)) = told.proceed env 0 := by
    unfold race
    simp only [List.map_append, exec_append, hfirst]
    rw [hsecond, hthird]
    rfl
  rw [hrace, hlast]
  refine ⟨List.mem_singleton_self _, fun o ho => List.mem_singleton.mp ho, rfl, rfl, hstored, ?_⟩
  change Function.update told.shown invalidUserId (some mode) invalidUserId ≠ some newer
  rw [Function.update_self]
  exact fun heq => hne (Option.some.inj heq)

/-- From every state without a registration in which the first mode is stored, a boot that the
setting is changed during can leave that mode on show; no run in which the setting is not announced
again shows the newer one. -/
theorem older_mode_stays {tables : ℤ → Table String String}
    {before run : List (Env × GestureEvent)} {n : ℕ} {value : Option String}
    (hbefore : Along next Admits (start tables) before)
    (hs : exec next (start tables) before = s) (henv : Healthy env) (hfresh : ¬Registered s)
    (hn : s.bootCompleteFlags[n]? = some false) (hmode : storedMode s = some mode)
    (hvalue : modeOf value = some newer) (hne : mode ≠ newer)
    (hrun : Along next Untold (exec next s ((race n value).map (env, ·))) run) :
    let s' := exec next (exec next s ((race n value).map (env, ·))) run
    s'.settingDataManager.inFlight = [] ∧ s'.updates = [] ∧ storedMode s' = some newer ∧
      s'.shown invalidUserId ≠ some newer := by
  have h : Inv s := by
    rw [← hs]
    exact exec_invariant inv_next (inv_start tables) hbefore
  have hbehind := exec_invariant behind_next
    (behind_race h henv hfresh hn hmode hvalue hne) hrun
  exact ⟨hbehind.quiet, hbehind.idle, hbehind.stored, hbehind.shown⟩

end Boot

open Scenario

/-- The switch is off before the boot completes. -/
def switchedOff : SmartGestureManager :=
  exec next (start fun _ => Table.empty) ([.onAddSystemAbility,
    .settingWritten invalidUserId settingSmartGestureSwitch (some "0") true].map (noon, ·))

/-- It is switched on while the boot completes, and stays off on show, another account and
another start of the application manager included. -/
theorem switchedOn_unseen :
    (exec next (exec next switchedOff ((race 0 (some "1")).map (noon, ·)))
      ([.accountSwitched, .onAddSystemAbility].map (noon, ·))).shown invalidUserId ≠
        some .auto := by
  have hbefore : Along next Admits (start fun _ => Table.empty) ([.onAddSystemAbility,
      .settingWritten invalidUserId settingSmartGestureSwitch (some "0") true].map (noon, ·)) :=
    ⟨⟨noon_healthy, trivial⟩, ⟨noon_healthy, fun _ _ => rfl⟩, trivial⟩
  have hrun : Along next Untold (exec next switchedOff ((race 0 (some "1")).map (noon, ·)))
      ([.accountSwitched, .onAddSystemAbility].map (noon, ·)) :=
    ⟨⟨by decide +kernel, trivial⟩, ⟨by decide +kernel, trivial⟩, trivial⟩
  have hfresh : ¬Registered switchedOff := by decide +kernel
  have hn : switchedOff.bootCompleteFlags[0]? = some false := by decide +kernel
  have hmode : storedMode switchedOff = some .disable := by decide +kernel
  have hvalue : modeOf (some "1") = some .auto := by decide +kernel
  have hs : exec next (start fun _ => Table.empty) ([.onAddSystemAbility,
      .settingWritten invalidUserId settingSmartGestureSwitch (some "0") true].map (noon, ·)) =
      switchedOff := rfl
  exact (older_mode_stays hbefore hs noon_healthy hfresh hn hmode hvalue (by decide) hrun).2.2.2

end SmartGestureBoot
end UiAppearance
