import UiAppearance.Ability.CallPaths

/-!
# Deadlock on the service's own locks

All nestings but one agree on an order. `SetColorModeTemporary` asks for the
schedule, and so takes the lock of the states, while it holds the lock of the
overrides; a load and every reaction to a setting take the two the other way
round. No deadlock is possible as long as no thread starts one of these blocks
while another thread is inside an opposite one.
-/

namespace UiAppearance
namespace Deadlock

open ScopedLocks CallPaths Transition

/-- Locks that threads both hold and wait under: only the two that nest in both orders. -/
theorem nested_twice {a b c : Mutex} (h : Nested [a] b) (h' : Nested [b] c) :
    (a = .darkModeStates ∧ b = .multiUserTempColorModeMap) ∨
      (a = .multiUserTempColorModeMap ∧ b = .darkModeStates) := by
  cases a <;> cases b <;> simp_all [Nested]

/-- No lock is taken twice by one thread. -/
theorem nested_not_mem : ∀ (held : List Mutex) (m : Mutex), Nested held m → m ∉ held
  | [], _, _ => List.not_mem_nil
  | [n], m, h => by
    rintro hm
    obtain rfl := List.mem_singleton.mp hm
    cases m <;> simp [Nested] at h
  | _ :: _ :: _, _, h => by simp [Nested] at h

/-- A thread that holds a lock and waits for another holds nothing else. -/
theorem held_of_wanted {t : Thread Mutex} {m l : Mutex} (ht : Wellscoped Nested t)
    (hheld : m ∈ t.held) (hw : t.wanted = some l) : t.held = [m] ∧ Nested [m] l := by
  have hnested := ht.2.nested_wanted hw
  match hstack : t.held with
  | [] =>
    rw [hstack] at hheld
    cases hheld
  | [n] =>
    rw [hstack] at hheld hnested
    obtain rfl := List.mem_singleton.mp hheld
    exact ⟨rfl, hnested⟩
  | n :: n' :: outer =>
    rw [hstack] at hnested
    simp [Nested] at hnested

/-- A cycle of waiting threads contains a crossing of the two locks. -/
theorem crossing_of_deadlocked {p : Pool (Mutex → Bool) (Thread Mutex)}
    (hp : ∀ (j : ℕ) (u : Thread Mutex), p.threads[j]? = some u → Wellscoped Nested u)
    (h : Deadlocked p) : Crossing .multiUserTempColorModeMap .darkModeStates p := by
  obtain ⟨i₀, hcycle₀⟩ := h
  obtain ⟨i₁, ⟨t₀, t₁, l₁, -, -, ht₁, hl₁⟩, hcycle₁⟩ := cycle_next hcycle₀
  obtain ⟨i₂, hwait₁, hcycle₂⟩ := cycle_next hcycle₁
  obtain ⟨i₃, hwait₂, hcycle₃⟩ := cycle_next hcycle₂
  obtain ⟨i₄, hwait₃, -⟩ := cycle_next hcycle₃
  obtain ⟨l₂, t₂, hw₁, ht₂, hl₂⟩ := hwait₁.wanted ht₁
  obtain ⟨l₃, t₃, hw₂, ht₃, hl₃⟩ := hwait₂.wanted ht₂
  obtain ⟨l₄, -, hw₃, -, -⟩ := hwait₃.wanted ht₃
  have hheld₁ := held_of_wanted (hp _ _ ht₁) hl₁ hw₁
  have hheld₂ := held_of_wanted (hp _ _ ht₂) hl₂ hw₂
  have hheld₃ := held_of_wanted (hp _ _ ht₃) hl₃ hw₃
  have hne : i₁ ≠ i₂ ∨ l₁ = l₂ := by
    by_cases hi : i₁ = i₂
    · subst hi
      rw [ht₁] at ht₂
      obtain rfl := Option.some.inj ht₂
      exact .inr (List.cons.inj (hheld₁.1.symm.trans hheld₂.1)).1
    · exact .inl hi
  -- the two threads after the first hold the two locks, one each
  rcases nested_twice hheld₁.2 hheld₂.2 with ⟨rfl, rfl⟩ | ⟨rfl, rfl⟩
  · have hl₃' : l₃ = .darkModeStates := hheld₂.2
    subst hl₃'
    exact ⟨i₂, i₁, t₂, t₁, (hne.resolve_right (by decide)).symm, ht₂, ht₁, .of_wanted hl₂ hw₂,
      .of_wanted hl₁ hw₁⟩
  · have hl₃' : l₃ = .multiUserTempColorModeMap := by
      rcases nested_twice hheld₂.2 hheld₃.2 with ⟨-, h⟩ | ⟨h, -⟩
      · exact h
      · cases h
    subst hl₃'
    exact ⟨i₁, i₂, t₁, t₂, hne.resolve_right (by decide), ht₁, ht₂, .of_wanted hl₁ hw₁,
      .of_wanted hl₂ hw₂⟩

/-- Threads that execute entries of the service, as many and as often as they like. -/
def Serves (traces : List (List (Action Mutex))) : Prop :=
  ∀ as ∈ traces, ∃ entries, Trace (thread entries) as

/-- In every schedule whose steps keep opposite blocks apart, no state is deadlocked. -/
theorem not_deadlocked {traces : List (List (Action Mutex))} (htraces : Serves traces)
    {es : List (ℕ × Unit)}
    (hok : Along (Pool.next act) (Avoids .multiUserTempColorModeMap .darkModeStates)
      (start traces) es) :
    ¬Deadlocked (exec (Pool.next act) (start traces) es) := by
  have hcode : ∀ as ∈ traces, ∃ code : Code, code.Nests Nested [] ∧ Trace code as := by
    intro as has
    obtain ⟨entries, htrace⟩ := htraces as has
    exact ⟨thread entries, thread_nests entries, htrace⟩
  have hstart : ¬Crossing .multiUserTempColorModeMap .darkModeStates (start traces) := by
    rintro ⟨i, j, t, u, -, ht, -, hwithin, -⟩
    have hheld := hwithin.1
    rw [(wellscoped_start hcode ht).2] at hheld
    cases hheld
  obtain ⟨hscoped, hnot⟩ := not_crossing_exec nested_not_mem
    (fun j u hu => (wellscoped_start hcode hu).1) hstart hok
  intro hdead
  exact hnot (crossing_of_deadlocked hscoped hdead)

/-- A block with nothing inside. -/
def block (m : Mutex) : List (Action Mutex) := [.acquire m, .release m]

/-- A manual choice against a custom schedule, for one user. -/
def choiceActions : List (Action Mutex) :=
  block .usersParam ++ block .darkModeStates ++ block .screenOffOperateInfo ++
    block .darkModeStates ++ [.acquire .multiUserTempColorModeMap, .acquire .darkModeStates,
      .release .darkModeStates, .release .multiUserTempColorModeMap] ++
    block .multiUserTempColorModeMap ++ block .usersParam ++ block .darkModeStates

/-- A load of a context without an override and without a mode. -/
def loadActions : List (Action Mutex) :=
  [.acquire .darkModeStates] ++ block .multiUserTempColorModeMap ++
    block .multiUserTempColorModeMap ++ block .screenOffOperateInfo ++ [.release .darkModeStates]

theorem choiceActions_trace : Trace (thread [.setDarkMode]) choiceActions := by
  have hblock (m : Mutex) : Trace (guarded m) (block m) := .withLock .skip
  have hswitch : Trace doSwitchTemporaryColorMode _ :=
    .seq (hblock .darkModeStates) (.seq (.left .skip) (.right
      (.seq (hblock .screenOffOperateInfo) (.seq (hblock .darkModeStates) (.right (.right
        (.seq (.withLock (hblock .darkModeStates)) (.right (hblock .multiUserTempColorModeMap)))))))))
  have hpersist : Trace configurePersistence _ :=
    .seq hswitch (.seq (hblock .usersParam) (.right (hblock .darkModeStates)))
  have hcall : Trace (thread [.setDarkMode]) _ :=
    .seq (.right (.seq (hblock .usersParam) (.right (.right (.again hpersist .done))))) .skip
  exact hcall

theorem loadActions_trace : Trace (thread [.loadUserSettingData]) loadActions := by
  have hblock (m : Mutex) : Trace (guarded m) (block m) := .withLock .skip
  have hload : Trace (thread [.loadUserSettingData]) _ :=
    .seq (.seq (.withLock (.seq (hblock .multiUserTempColorModeMap)
      (.seq (hblock .multiUserTempColorModeMap) (.seq (.left .skip)
        (.seq (hblock .screenOffOperateInfo) (.left .skip)))))) (.left .skip)) .skip
  exact hload

theorem serves_choice_load : Serves [choiceActions, loadActions] := by
  intro as has
  rcases List.mem_cons.mp has with rfl | has
  · exact ⟨_, choiceActions_trace⟩
  · obtain rfl := List.mem_singleton.mp has
    exact ⟨_, loadActions_trace⟩

/-- The choice has just taken the lock of the overrides when the load takes the one of the
states: each now waits for the other. -/
def crossedSchedule : List (ℕ × Unit) := List.replicate 9 (0, ()) ++ [(1, ())]

theorem choice_load_deadlocked :
    Serves [choiceActions, loadActions] ∧
      Deadlocked (exec (Pool.next act) (start [choiceActions, loadActions]) crossedSchedule) := by
  refine ⟨serves_choice_load, 0, ?_⟩
  refine .tail (.single ?_) ?_ (b := 1)
  · exact ⟨_, _, .darkModeStates, rfl, rfl, rfl, by decide⟩
  · exact ⟨_, _, .multiUserTempColorModeMap, rfl, rfl, rfl, by decide⟩

/-- One after the other, the same two threads come to an end without a deadlock. -/
theorem choice_then_load_not_deadlocked :
    ¬Deadlocked (exec (Pool.next act) (start [choiceActions, loadActions])
      (List.replicate 20 (0, ()) ++ List.replicate 8 (1, ()))) := by
  apply not_deadlocked serves_choice_load
  decide

end Deadlock
end UiAppearance
