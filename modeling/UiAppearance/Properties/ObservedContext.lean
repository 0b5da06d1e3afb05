import UiAppearance.Ability.Events
import UiAppearance.DarkMode.StoredState
import UiAppearance.DarkMode.TrackedTimers
import UiAppearance.Settings.Observers
import UiAppearance.Foundations.Transition

/-!
# Observers follow the observed context

A switch drops the observers of the context observed so far and registers those
of the new one. A registration may fail, and so may every helper; what is
recorded belongs to the new context all the same, because the old records go
whether or not the database could be told.
-/

namespace UiAppearance
namespace ObservedContext

open Service Transition

/-- What a switch to the context records for an item, and under which name. -/
def observerOf (context : AccountContext) (item : SettingItem) :
    SettingDataObserver DarkModeObserver :=
  ⟨AccountContext.buildSettingKey item.key context, context.userId, ⟨item, context⟩⟩

def observerName (context : AccountContext) (item : SettingItem) : String :=
  generateObserverName (AccountContext.buildSettingKey item.key context) context.userId

/-- The answers of one switch: each call for an item gets its own. -/
structure SwitchCalls where
  env : Env
  unregister : SettingItem → Env
  register : SettingItem → Env

/-- One round of `RegisterSettingDataObserversLocked`, with its count of failures. -/
def register (calls : SettingItem → Env) (context : AccountContext)
    (r : SettingDataManager DarkModeObserver × ℕ) (item : SettingItem) :
    SettingDataManager DarkModeObserver × ℕ :=
  let registered := r.1.registerObserver (calls item)
    (AccountContext.buildSettingKey item.key context) ⟨item, context⟩ context.userId
  (registered.1, r.2 + if registered.2 = .ok then 0 else 1)

def unregister (calls : SettingItem → Env) (context : AccountContext)
    (m : SettingDataManager DarkModeObserver) (item : SettingItem) :
    SettingDataManager DarkModeObserver :=
  (m.unregisterObserver (calls item) (AccountContext.buildSettingKey item.key context)
    context.userId).1

/-- The part of `OnSwitchContext` that lets go of the context observed so far. -/
def releaseContext (s : Service) (calls : SwitchCalls) : Service :=
  let observed := s.observedContext
  let s := { s with settingDataObserversContext := observed }
  if observed.userId = invalidUserId then s
  else
    let s := s.clearTimerByContext calls.env observed
    { s with
      settingDataManager :=
        s.settingDataObservers.foldl (unregister calls.unregister observed) s.settingDataManager
      settingDataObserversContext := .createBaseContext invalidUserId
      settingDataObserversUserId := invalidUserId }

/-- `OnSwitchContext`, where every registration and every unregistration may fail on its own. -/
def switchContext (s : Service) (calls : SwitchCalls) (context : AccountContext) :
    Service × ErrCode :=
  let r := s.settingDataManager.initializeManager calls.env
  let s := s.withSettings r
  if r.2 ≠ .ok then (s, .noInit)
  else if context.userId ≤ invalidUserId then (s, .invalidOperation)
  else
    let s := releaseContext s calls
    let r := s.settingDataObservers.foldl (register calls.register context)
      (s.settingDataManager, 0)
    ({ s with
        settingDataManager := r.1
        settingDataObserversContext := context
        settingDataObserversUserId := context.userId }, if r.2 = 0 then .ok else .noInit)

/-- With the same answers for all calls this is the switch of the service. -/
theorem switchContext_same (s : Service) (env : Env) (context : AccountContext) :
    switchContext s ⟨env, fun _ => env, fun _ => env⟩ context = s.onSwitchContext env context := rfl

/-- Every record is the one of an item of this context. -/
def RecordedFor (context : AccountContext)
    (observers : Table String (SettingDataObserver DarkModeObserver)) : Prop :=
  ∀ name observer, observers name = some observer →
    ∃ item, name = observerName context item ∧ observer = observerOf context item

def next (s : Service) (e : SwitchCalls × AccountContext) : Service := (switchContext s e.1 e.2).1

/-- What is recorded after a call. -/
structure Follows (s : Service) (e : SwitchCalls × AccountContext) : Prop where
  recorded : RecordedFor (next s e).settingDataObserversContext
    (next s e).settingDataManager.observers
  complete : (switchContext s e.1 e.2).2 = .ok → ∀ item,
    (next s e).settingDataManager.observers
        (observerName (next s e).settingDataObserversContext item) =
      some (observerOf (next s e).settingDataObserversContext item)
  rejected : switches e.1.env s e.2 = false →
    (next s e).settingDataManager.observers = s.settingDataManager.observers ∧
      (next s e).settingDataObserversContext = s.settingDataObserversContext

/-- Before the first switch nothing is recorded. -/
structure Inv (s : Service) : Prop where
  items : ∀ item, item ∈ s.settingDataObservers
  user : s.settingDataObserversUserId = s.settingDataObserversContext.userId
  recorded : RecordedFor s.settingDataObserversContext s.settingDataManager.observers
  unobserved : s.settingDataObserversContext.userId = invalidUserId →
    s.settingDataManager.observers = Table.empty

variable {calls : SwitchCalls} {context : AccountContext} {s : Service}

section Loops

variable {answers : SettingItem → Env} {items : List SettingItem}

theorem register_keeps (answers : SettingItem → Env) {r : SettingDataManager DarkModeObserver × ℕ}
    (h : RecordedFor context r.1.observers) (item : SettingItem) :
    RecordedFor context (register answers context r item).1.observers ∧
      (∀ name, (r.1.observers name).isSome = true →
        ((register answers context r item).1.observers name).isSome = true) ∧
      ((register answers context r item).2 = 0 → r.2 = 0 ∧
        ((register answers context r item).1.observers (observerName context item)).isSome = true) := by
  have hcases := @SettingDataManager.registerObserver_cases _ (answers item) r.1
    (AccountContext.buildSettingKey item.key context) ⟨item, context⟩ context.userId
  unfold register
  dsimp only
  rcases hcases with ⟨-, hok, hput, -⟩ | ⟨hsame, hrecorded⟩
  · rw [hput, hok, if_pos rfl]
    refine ⟨?_, ?_, fun hzero => ⟨by simpa using hzero, ?_⟩⟩
    · intro name observer hname
      by_cases hnew : name = observerName context item
      · rw [hnew] at hname ⊢
        exact ⟨item, rfl, (Option.some.inj (Table.put_self.symm.trans hname)).symm⟩
      · exact h name observer ((Table.put_of_ne hnew).symm.trans hname)
    · intro name hname
      by_cases hnew : name = observerName context item
      · rw [hnew]
        exact congrArg Option.isSome Table.put_self
      · exact (congrArg Option.isSome (Table.put_of_ne hnew)).trans hname
    · exact congrArg Option.isSome Table.put_self
  · rw [hsame]
    refine ⟨h, fun _ hname => hname, fun hzero => ?_⟩
    split_ifs at hzero with hok
    exact ⟨by simpa using hzero, hrecorded hok⟩

theorem foldl_register (answers : SettingItem → Env) {r : SettingDataManager DarkModeObserver × ℕ}
    (h : RecordedFor context r.1.observers) :
    RecordedFor context (items.foldl (register answers context) r).1.observers ∧
      (∀ name, (r.1.observers name).isSome = true →
        ((items.foldl (register answers context) r).1.observers name).isSome = true) ∧
      ((items.foldl (register answers context) r).2 = 0 → r.2 = 0 ∧ ∀ item ∈ items,
        ((items.foldl (register answers context) r).1.observers
          (observerName context item)).isSome = true) := by
  induction items generalizing r with
  | nil => exact ⟨h, fun _ hname => hname, fun hzero => ⟨hzero, nofun⟩⟩
  | cons item items ih =>
    obtain ⟨hrecorded, hkept, hcount⟩ := register_keeps answers h item
    obtain ⟨hrecorded', hkept', hcount'⟩ := ih hrecorded
    refine ⟨hrecorded', fun name hname => hkept' name (hkept name hname), fun hzero => ?_⟩
    obtain ⟨hzero', hitems⟩ := hcount' hzero
    obtain ⟨hzero, hitem⟩ := hcount hzero'
    refine ⟨hzero, fun item' hmem => ?_⟩
    rcases List.mem_cons.mp hmem with rfl | hrest
    · exact hkept' _ hitem
    · exact hitems item' hrest

theorem observers_foldl_unregister (m : SettingDataManager DarkModeObserver) (name : String) :
    (items.foldl (unregister answers context) m).observers name =
      if name ∈ items.map (observerName context) then none else m.observers name := by
  induction items generalizing m with
  | nil => rfl
  | cons item items ih =>
    rw [List.foldl_cons, ih, unregister, SettingDataManager.observers_unregisterObserver]
    by_cases hname : name = observerName context item
    · subst hname
      rw [List.map_cons, if_pos List.mem_cons_self]
      split_ifs
      · rfl
      · exact Function.update_self ..
    · have hmem : name ∈ (item :: items).map (observerName context) ↔
          name ∈ items.map (observerName context) := by
        rw [List.map_cons, List.mem_cons, or_iff_right hname]
      simp only [hmem]
      congr 1
      exact Function.update_of_ne hname ..

end Loops

section Switch

theorem observerName_inj {item item' : SettingItem} :
    observerName context item = observerName context item' ↔ item = item' := by
  constructor
  · intro h
    obtain ⟨hkey, -⟩ := generateObserverName_inj.mp h
    exact SettingItem.key_injective (AccountContext.buildSettingKey_inj.mp hkey)
  · rintro rfl
    rfl

/-- Whatever the helpers do, releasing a context leaves no record behind. -/
theorem observers_releaseContext (hs : Inv s) (calls : SwitchCalls) :
    (releaseContext s calls).settingDataManager.observers = Table.empty := by
  have hcontext : s.observedContext = s.settingDataObserversContext := by
    unfold observedContext
    rw [hs.user]
    split_ifs with hfallback
    · simp at hfallback
    · rfl
  unfold releaseContext
  dsimp only
  rw [hcontext]
  split_ifs with hinvalid
  · exact hs.unobserved hinvalid
  · funext name
    refine (observers_foldl_unregister ..).trans ?_
    split_ifs with hmem
    · rfl
    · cases hname : s.settingDataManager.observers name with
      | none => exact hname
      | some observer =>
        obtain ⟨item, hitem, -⟩ := hs.recorded name observer hname
        exact absurd (hitem ▸ List.mem_map_of_mem (hs.items item)) hmem

theorem observers_initializeManager (env : Env) (m : SettingDataManager DarkModeObserver) :
    (m.initializeManager env).1.observers = m.observers := by
  unfold SettingDataManager.initializeManager
  split_ifs <;> rfl

theorem Inv.withSettings (hs : Inv s) {r : SettingDataManager DarkModeObserver × ErrCode}
    (h : r.1.observers = s.settingDataManager.observers) : Inv (s.withSettings r) where
  items := hs.items
  user := hs.user
  recorded := by
    change RecordedFor s.settingDataObserversContext r.1.observers
    rw [h]
    exact hs.recorded
  unobserved := fun hinvalid => h.trans (hs.unobserved hinvalid)

theorem rejected_switchContext (h : switches calls.env s context = false) :
    ∃ m, (switchContext s calls context).1 = { s with settingDataManager := m } ∧
      m.observers = s.settingDataManager.observers ∧ (switchContext s calls context).2 ≠ .ok := by
  have hobservers := observers_initializeManager calls.env s.settingDataManager
  refine ⟨(s.settingDataManager.initializeManager calls.env).1, ?_⟩
  unfold switchContext
  dsimp only
  unfold switches at h
  by_cases hinit : (s.settingDataManager.initializeManager calls.env).2 = .ok
  · have huser : context.userId ≤ invalidUserId := by simpa [hinit] using h
    rw [if_neg (not_not_intro hinit), if_pos huser]
    exact ⟨rfl, hobservers, nofun⟩
  · rw [if_pos hinit]
    exact ⟨rfl, hobservers, nofun⟩

/-- A switch that is not rejected registers over empty records, and tells if that failed. -/
theorem accepted_switchContext (hs : Inv s) (h : switches calls.env s context = true) :
    ∃ m : SettingDataManager DarkModeObserver, m.observers = Table.empty ∧
      invalidUserId < context.userId ∧
      (switchContext s calls context).1.settingDataObservers = s.settingDataObservers ∧
      (switchContext s calls context).1.settingDataObserversContext = context ∧
      (switchContext s calls context).1.settingDataObserversUserId = context.userId ∧
      (switchContext s calls context).1.settingDataManager =
        (s.settingDataObservers.foldl (register calls.register context) (m, 0)).1 ∧
      ((switchContext s calls context).2 = .ok →
        (s.settingDataObservers.foldl (register calls.register context) (m, 0)).2 = 0) := by
  unfold switches at h
  obtain ⟨hinit, huser⟩ := Bool.and_eq_true_iff.mp h
  rw [decide_eq_true_eq] at hinit huser
  have hitems : (releaseContext (s.withSettings (s.settingDataManager.initializeManager calls.env))
      calls).settingDataObservers = s.settingDataObservers := by
    unfold releaseContext
    dsimp only
    split_ifs <;> rfl
  have hconnected := hs.withSettings (observers_initializeManager calls.env s.settingDataManager)
  refine ⟨_, observers_releaseContext hconnected calls, huser, ?_⟩
  unfold switchContext
  dsimp only
  rw [if_neg (not_not_intro hinit), if_neg (Int.not_le.mpr huser), hitems]
  refine ⟨rfl, rfl, rfl, rfl, fun hok => ?_⟩
  by_contra hcount
  exact absurd (hok.symm.trans (if_neg hcount)) (by decide)

theorem inv_next (hs : Inv s) (e : SwitchCalls × AccountContext) : Inv (next s e) := by
  cases h : switches e.1.env s e.2 with
  | false =>
    obtain ⟨m, hnext, hobservers, -⟩ := rejected_switchContext h
    rw [next, hnext]
    exact Inv.withSettings (r := (m, .ok)) hs hobservers
  | true =>
    obtain ⟨m, hempty, huser, hitems, hcontext, hid, hmanager, -⟩ := accepted_switchContext hs h
    have hrecorded : RecordedFor e.2 m.observers := by
      rw [hempty]
      exact nofun
    refine ⟨?_, ?_, ?_, ?_⟩
    · exact hitems ▸ hs.items
    · rw [next, hid, hcontext]
    · rw [next, hcontext, hmanager]
      exact (foldl_register e.1.register hrecorded).1
    · rw [next, hcontext]
      intro hinvalid
      exact absurd hinvalid (Int.ne_of_gt huser)

theorem follows_next (hs : Inv s) (e : SwitchCalls × AccountContext) : Follows s e where
  recorded := (inv_next hs e).recorded
  complete := by
    intro hok item
    have hrecorded := (inv_next hs e).recorded
    have haccepted : switches e.1.env s e.2 = true := by
      rw [← Bool.not_eq_false]
      intro h
      obtain ⟨-, -, -, hcode⟩ := rejected_switchContext h
      exact hcode hok
    obtain ⟨m, hempty, -, -, hcontext, -, hmanager, hcount⟩ := accepted_switchContext hs haccepted
    have hnothing : RecordedFor e.2 m.observers := by
      rw [hempty]
      exact nofun
    obtain ⟨-, -, hitems⟩ := foldl_register (r := (m, 0)) e.1.register hnothing
    have hsome := (hitems (hcount hok)).2 item (hs.items item)
    rw [← hmanager] at hsome
    obtain ⟨observer, hobserver⟩ := Option.isSome_iff_exists.mp hsome
    obtain ⟨item', hname, rfl⟩ := hrecorded _ _ hobserver
    obtain rfl : item = item' := by
      rw [next, hcontext] at hname
      exact observerName_inj.mp hname
    rw [next, hcontext] at hobserver ⊢
    exact hobserver
  rejected := by
    intro h
    obtain ⟨m, hnext, hobservers, -⟩ := rejected_switchContext h
    rw [next, hnext]
    exact ⟨hobservers, rfl⟩

end Switch

/-- The manager as `Initialize` leaves it, over any stores. -/
def fresh (parameters : Table String String) (tables : ℤ → Table String String) : Service :=
  (start parameters tables).initializeManager

theorem inv_fresh (parameters : Table String String) (tables : ℤ → Table String String) :
    Inv (fresh parameters tables) where
  items := by
    intro item
    change item ∈ [SettingItem.mode, .startTime, .endTime, .sunset, .sunrise]
    cases item <;> decide
  user := rfl
  recorded := nofun
  unobserved := fun _ => rfl

/-- After every call what is recorded belongs to the observed context; all of it is there if the
call returned `ok`, and a rejected call changes neither. -/
theorem follows_along (parameters : Table String String) (tables : ℤ → Table String String)
    (run : List (SwitchCalls × AccountContext)) : Along next Follows (fresh parameters tables) run :=
  along_of_invariant (I := Inv) (C := fun _ _ => True) (fun _ e hs _ => inv_next hs e)
    (fun _ e hs _ => follows_next hs e) (inv_fresh parameters tables)
    (along_of_forall (P := fun _ => True) fun _ _ => trivial)

end ObservedContext
end UiAppearance
