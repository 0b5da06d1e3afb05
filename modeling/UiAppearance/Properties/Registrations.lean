import UiAppearance.Settings.Observers
import UiAppearance.Foundations.Transition

/-!
# Registrations and records

The manager records the observers it registered. Registering tells the database
first, and what fails there is not recorded. Unregistering drops the record in
any case; where no helper can be created the database is not told, and the
registration stays behind. These forgotten observers make up the whole
difference between the two lists.
-/

namespace UiAppearance
namespace Registrations

open SettingDataManager Transition

/-- The two calls that change registrations. -/
inductive Call (β : Type) where
  | registerObserver (key : String) (updateFunc : β) (userId : ℤ)
  | unregisterObserver (key : String) (userId : ℤ)

variable {β : Type} [DecidableEq β]

/-- A call together with the answers it gets. -/
def next (m : SettingDataManager β) (e : Env × Call β) : SettingDataManager β :=
  match e.2 with
  | .registerObserver key updateFunc userId => (m.registerObserver e.1 key updateFunc userId).1
  | .unregisterObserver key userId => (m.unregisterObserver e.1 key userId).1

/-- The observer whose record the call drops without telling the database. -/
def dropped (m : SettingDataManager β) (e : Env × Call β) : List (SettingDataObserver β) :=
  match e.2 with
  | .registerObserver .. => []
  | .unregisterObserver key userId =>
    if m.hasHelper e.1 userId then [] else (m.observers (generateObserverName key userId)).toList

def forgotten (m : SettingDataManager β) : List (Env × Call β) → List (SettingDataObserver β)
  | [] => []
  | e :: es => dropped m e ++ forgotten (next m e) es

/-- The observers a change of this setting is delivered to. -/
def notified (m : SettingDataManager β) (key : String) (userId : ℤ) :
    List (SettingDataObserver β) :=
  m.registered.filter fun observer => createUri observer.userId observer.key = createUri userId key

def recorded (m : SettingDataManager β) (key : String) (userId : ℤ) :
    List (SettingDataObserver β) :=
  (m.observers (generateObserverName key userId)).toList

/-- Records stand under their own names, and with those lost they are what is registered. -/
structure Inv (m : SettingDataManager β) (lost : List (SettingDataObserver β)) : Prop where
  named : ∀ name observer, m.observers name = some observer →
    name = generateObserverName observer.key observer.userId
  counted : ∀ observer, m.registered.count observer =
    (recorded m observer.key observer.userId).count observer + lost.count observer

variable {m m' : SettingDataManager β} {lost lost' : List (SettingDataObserver β)}

section Step

variable {key key' : String} {userId userId' : ℤ} {observer : SettingDataObserver β}
  {record : Option (SettingDataObserver β)}

omit [DecidableEq β] in
/-- A change under one name is a change for one key and user. -/
theorem recorded_of_update
    (h : m'.observers = Function.update m.observers (generateObserverName key userId) record) :
    recorded m' key' userId' =
      if key' = key ∧ userId' = userId then record.toList else recorded m key' userId' := by
  unfold recorded
  rw [h]
  split_ifs with hsame
  · rw [hsame.1, hsame.2]
    exact congrArg Option.toList (Function.update_self ..)
  · refine congrArg Option.toList (Function.update_of_ne ?_ ..)
    exact fun hname => hsame (generateObserverName_inj.mp hname)

theorem Inv.registered (hm : Inv m lost)
    (hnone : m.observers (generateObserverName observer.key observer.userId) = none)
    (hput : m'.observers =
      m.observers.put (generateObserverName observer.key observer.userId) observer)
    (hregistered : m'.registered = m.registered ++ [observer]) : Inv m' lost where
  named := by
    intro name other hother
    rw [hput] at hother
    by_cases hname : name = generateObserverName observer.key observer.userId
    · subst hname
      rw [Table.put_self] at hother
      rw [← Option.some.inj hother]
    · rw [Table.put_of_ne hname] at hother
      exact hm.named name other hother
  counted := by
    intro other
    have hcount := hm.counted other
    rw [hregistered, List.count_append, recorded_of_update hput]
    split_ifs with hsame
    · have hempty : recorded m other.key other.userId = [] := by
        rw [hsame.1, hsame.2]
        exact congrArg Option.toList hnone
      rw [hempty, List.count_nil] at hcount
      rw [Option.toList_some]
      omega
    · have hne : other ∉ [observer] := by
        rintro hmem
        obtain rfl := List.mem_singleton.mp hmem
        exact hsame ⟨rfl, rfl⟩
      rw [List.count_eq_zero_of_not_mem hne]
      omega

/-- A dropped record was registered or is among the lost. -/
theorem Inv.unregistered (hm : Inv m lost)
    (hsome : m.observers (generateObserverName key userId) = some observer)
    (hremove : m'.observers = m.observers.remove (generateObserverName key userId))
    (hcounts : ∀ other, m'.registered.count other + lost.count other + [observer].count other =
      m.registered.count other + lost'.count other) : Inv m' lost' where
  named := by
    intro name other hother
    rw [hremove] at hother
    by_cases hname : name = generateObserverName key userId
    · subst hname
      rw [Table.remove, Function.update_self] at hother
      cases hother
    · rw [Table.remove, Function.update_of_ne hname] at hother
      exact hm.named name other hother
  counted := by
    intro other
    have hcount := hm.counted other
    have hchange := hcounts other
    rw [recorded_of_update hremove]
    split_ifs with hsame
    · have hrecord : recorded m other.key other.userId = [observer] := by
        rw [hsame.1, hsame.2]
        exact congrArg Option.toList hsome
      rw [hrecord] at hcount
      rw [Option.toList_none, List.count_nil]
      omega
    · have hne : other ∉ [observer] := by
        rintro hmem
        obtain rfl := List.mem_singleton.mp hmem
        obtain ⟨hkey, huser⟩ := generateObserverName_inj.mp (hm.named _ _ hsome)
        exact hsame ⟨hkey.symm, huser.symm⟩
      rw [List.count_eq_zero_of_not_mem hne] at hchange
      omega

theorem mem_registered (hm : Inv m lost)
    (hsome : m.observers (generateObserverName key userId) = some observer) :
    observer ∈ m.registered := by
  obtain ⟨rfl, rfl⟩ := generateObserverName_inj.mp (hm.named _ _ hsome)
  have hrecord : recorded m observer.key observer.userId = [observer] :=
    congrArg Option.toList hsome
  have hcount := hm.counted observer
  rw [hrecord, List.count_singleton_self] at hcount
  exact List.count_pos_iff.mp (by omega)

theorem inv_next (hm : Inv m lost) (e : Env × Call β) :
    Inv (next m e) (lost ++ dropped m e) := by
  obtain ⟨env, call⟩ := e
  cases call with
  | registerObserver key updateFunc userId =>
    change Inv (m.registerObserver env key updateFunc userId).1 (lost ++ [])
    rw [List.append_nil]
    rcases @registerObserver_cases _ env m key updateFunc userId with
      ⟨hnone, -, hput, hregistered⟩ | ⟨hsame, -⟩
    · exact @Inv.registered _ _ m _ lost ⟨key, userId, updateFunc⟩ hm hnone hput hregistered
    · rw [hsame]
      exact hm
  | unregisterObserver key userId =>
    change Inv (m.unregisterObserver env key userId).1 _
    have hremove := @observers_unregisterObserver _ env m key userId _
    have hregistered := @registered_unregisterObserver _ env m key userId _
    unfold dropped
    dsimp only
    cases hrecord : m.observers (generateObserverName key userId) with
    | none =>
      have hsame : (m.unregisterObserver env key userId).1 = m := by
        unfold unregisterObserver
        rw [hrecord]
      rw [hsame, Option.toList_none, ite_self, List.append_nil]
      exact hm
    | some observer =>
      rw [hrecord] at hregistered
      refine Inv.unregistered hm hrecord hremove fun other => ?_
      rw [hregistered]
      dsimp only
      split_ifs with hhelper
      · have hperm := List.perm_cons_erase (mem_registered hm hrecord)
        rw [hperm.count_eq, List.append_nil, List.count_cons, List.count_cons, List.count_nil]
        omega
      · rw [List.count_append, Option.toList_some]
        omega

end Step

theorem inv_exec (hm : Inv m lost) (run : List (Env × Call β)) :
    Inv (exec next m run) (lost ++ forgotten m run) := by
  induction run generalizing m lost with
  | nil =>
    rw [forgotten, List.append_nil]
    exact hm
  | cons e run ih =>
    rw [forgotten, ← List.append_assoc]
    exact ih (inv_next hm e)

/-- What is registered on a uri belongs to the key and the user of the uri. -/
theorem Inv.notified_perm (hm : Inv m lost) (key : String) (userId : ℤ) :
    (notified m key userId).Perm (recorded m key userId ++
      lost.filter fun observer => observer.key = key ∧ observer.userId = userId) := by
  rw [List.perm_iff_count]
  intro observer
  have huri : createUri observer.userId observer.key = createUri userId key ↔
      observer.key = key ∧ observer.userId = userId := createUri_inj.trans And.comm
  rw [notified, List.count_append]
  by_cases howner : observer.key = key ∧ observer.userId = userId
  · have hcount := hm.counted observer
    rw [howner.1, howner.2] at hcount
    rw [List.count_filter, List.count_filter, hcount]
    · exact decide_eq_true howner
    · exact decide_eq_true (huri.mpr howner)
  · have hrecord : observer ∉ recorded m key userId := by
      intro hmem
      have hname := hm.named _ _ (Option.mem_toList.mp hmem)
      obtain ⟨hkey, huser⟩ := generateObserverName_inj.mp hname
      exact howner ⟨hkey.symm, huser.symm⟩
    rw [List.count_eq_zero_of_not_mem hrecord, List.count_eq_zero_of_not_mem,
      List.count_eq_zero_of_not_mem]
    · simp [howner]
    · simp [huri, howner]

/-- A manager that has registered nothing yet, over any tables. -/
def start (isInitialized : Bool) (tables : ℤ → Table String String) : SettingDataManager β :=
  { isInitialized := isInitialized, tables := tables }

theorem inv_start (isInitialized : Bool) (tables : ℤ → Table String String) :
    Inv (start isInitialized tables : SettingDataManager β) [] where
  named := nofun
  counted := fun _ => rfl

theorem forgotten_eq_nil (run : List (Env × Call β)) :
    forgotten m run = [] ↔ Along next (fun m e => dropped m e = []) m run := by
  induction run generalizing m with
  | nil => exact iff_of_true rfl trivial
  | cons e run ih =>
    rw [forgotten, List.append_eq_nil_iff]
    exact and_congr_right fun _ => ih

/-- A change of a setting reaches the observer recorded for its key and user and those forgotten
before. The recorded ones alone are registered in the runs that never drop a record without telling
the database. -/
theorem notified_exec (isInitialized : Bool) (tables : ℤ → Table String String)
    (run : List (Env × Call β)) :
    (∀ key userId, (notified (exec next (start isInitialized tables) run) key userId).Perm
      (recorded (exec next (start isInitialized tables) run) key userId ++
        (forgotten (start isInitialized tables) run).filter fun observer =>
          observer.key = key ∧ observer.userId = userId)) ∧
    ((∀ key userId, (notified (exec next (start isInitialized tables) run) key userId).Perm
        (recorded (exec next (start isInitialized tables) run) key userId)) ↔
      Along next (fun m e => dropped m e = []) (start isInitialized tables) run) := by
  have hperm := (inv_exec (inv_start isInitialized tables) run).notified_perm
  rw [List.nil_append] at hperm
  refine ⟨hperm, ?_⟩
  rw [← forgotten_eq_nil]
  constructor
  · intro hexact
    rw [List.eq_nil_iff_forall_not_mem]
    intro observer hmem
    have hlength := (hperm observer.key observer.userId).length_eq
    rw [(hexact observer.key observer.userId).length_eq, List.length_append] at hlength
    have hnone := List.eq_nil_of_length_eq_zero (Nat.left_eq_add.mp hlength)
    rw [List.filter_eq_nil_iff] at hnone
    exact hnone observer hmem (decide_eq_true ⟨rfl, rfl⟩)
  · intro hnone key userId
    have hkey := hperm key userId
    rw [hnone, List.filter_nil, List.append_nil] at hkey
    exact hkey

/-- Its helper failed once, and from then on two callbacks hear about the setting. -/
theorem reregistered_notified_twice :
    let healthy : Env := { clock := ⟨1000420, 43620, 956800, by decide⟩ }
    let m := exec next (start true fun _ => Table.empty)
      [(healthy, .registerObserver "key" 0 100),
        ({ healthy with createHelper := fun _ => false }, .unregisterObserver "key" 100),
        (healthy, .registerObserver "key" 1 100)]
    recorded m "key" 100 = [⟨"key", 100, 1⟩] ∧
      notified m "key" 100 = [⟨"key", 100, 0⟩, ⟨"key", 100, 1⟩] ∧
      ¬(notified m "key" 100).Perm (recorded m "key" 100) := by
  refine ⟨by decide +kernel, by decide +kernel, fun hperm => ?_⟩
  exact absurd hperm.length_eq (by decide +kernel)

end Registrations
end UiAppearance
