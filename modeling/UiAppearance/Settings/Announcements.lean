import UiAppearance.Settings.Observers

/-!
# Writes that are announced

Whoever is registered on a row hears about every change of it that the manager
makes, except for the rows that a load copies for a sub-profile. Several such
writes one after the other are announced together.
-/

namespace UiAppearance
namespace SettingDataManager

variable {β : Type} {env : Env} {m m' m'' : SettingDataManager β} {key : String} {userId : ℤ}

/-- Nobody comes or goes, no notification is lost, and those who are registered on a changed row
have one in flight. -/
structure Announces (m m' : SettingDataManager β) : Prop where
  isInitialized : m'.isInitialized = m.isInitialized
  observers : m'.observers = m.observers
  registered : m'.registered = m.registered
  kept : m.inFlight ⊆ m'.inFlight
  known : ∀ observer ∈ m'.inFlight, observer ∈ m.inFlight ∨ observer ∈ m.registered
  told : ∀ observer ∈ m.registered,
    m'.tables observer.userId observer.key = m.tables observer.userId observer.key ∨
      observer ∈ m'.inFlight

theorem Announces.refl (m : SettingDataManager β) : Announces m m where
  isInitialized := rfl
  observers := rfl
  registered := rfl
  kept := List.Subset.refl _
  known := fun _ h => .inl h
  told := fun _ _ => .inl rfl

theorem Announces.trans (h : Announces m m') (h' : Announces m' m'') : Announces m m'' where
  isInitialized := h'.isInitialized.trans h.isInitialized
  observers := h'.observers.trans h.observers
  registered := h'.registered.trans h.registered
  kept := List.Subset.trans h.kept h'.kept
  known := by
    intro observer hflight
    rcases h'.known observer hflight with hbefore | hregistered
    · exact h.known observer hbefore
    · rw [h.registered] at hregistered
      exact .inr hregistered
  told := by
    intro observer hregistered
    have hregistered' := hregistered
    rw [← h.registered] at hregistered'
    rcases h'.told observer hregistered' with hrow | hflight
    · rcases h.told observer hregistered with hrow' | hflight'
      · exact .inl (hrow.trans hrow')
      · exact .inr (h'.kept hflight')
    · exact .inr hflight

/-- The rows of one key may change in any way if that key is notified afterwards. -/
theorem announces_notifyChange (hinit : m'.isInitialized = m.isInitialized)
    (hobservers : m'.observers = m.observers) (hregistered : m'.registered = m.registered)
    (hflight : m'.inFlight = m.inFlight) (hrows : ∀ userId' key', userId' ≠ userId ∨ key' ≠ key →
      m'.tables userId' key' = m.tables userId' key') :
    Announces m (m'.notifyChange userId key) where
  isInitialized := hinit
  observers := hobservers
  registered := hregistered
  kept := by
    rw [← hflight]
    exact List.subset_append_left ..
  known := by
    intro observer hobserver
    rcases List.mem_append.mp hobserver with hbefore | hnew
    · rw [hflight] at hbefore
      exact .inl hbefore
    · rw [hregistered] at hnew
      exact .inr ((List.mem_filter.mp hnew).1)
  told := by
    intro observer hobserver
    by_cases hsame : observer.userId = userId ∧ observer.key = key
    · right
      refine List.mem_append_right _ (List.mem_filter.mpr ⟨?_, ?_⟩)
      · rw [hregistered]
        exact hobserver
      · rw [decide_eq_true_eq, hsame.1, hsame.2]
    · rw [not_and_or] at hsame
      exact .inl (hrows _ _ hsame)

theorem announces_putRow (value : String) :
    Announces m ((m.putRow userId key value).notifyChange userId key) :=
  announces_notifyChange rfl rfl rfl rfl fun _ _ => putRow_tables_of_ne

theorem announces_setStringValue (value : String) :
    Announces m (m.setStringValue env key value userId true).1 := by
  rcases @setStringValue_cases _ env m key value userId true with hset | ⟨hset, -⟩
  · rw [hset]
    exact announces_putRow value
  · rw [hset]
    exact .refl m

theorem updateValue_of_insert {value : String} (h : env.insert userId key value = true) :
    m.updateValue env userId key value = some (m.putRow userId key value) := by
  unfold updateValue
  rw [h, if_pos rfl, ite_self]

/-- A pair is announced when both rows are there: no write may be refused. -/
theorem announces_setInt32ValuePair {key' : String} (v v' : ℤ)
    (hinsert : ∀ key value, env.insert userId key value = true) :
    Announces m (m.setInt32ValuePair env key v key' v' userId).1 := by
  unfold setInt32ValuePair
  simp only [updateValue_of_insert (hinsert _ _)]
  split_ifs
  · set first := m.putRow userId key (toString v)
    set second := first.putRow userId key' (toString v')
    have hfirst : Announces m (first.notifyChange userId key) := announces_putRow _
    have hsecond : Announces (first.notifyChange userId key)
        ((second.notifyChange userId key).notifyChange userId key') :=
      announces_notifyChange rfl rfl rfl rfl fun _ _ => putRow_tables_of_ne
    exact hfirst.trans hsecond
  · exact .refl m

/-- A write that nobody is told of changes one row and no more. -/
theorem setStringValue_silent (value : String) :
    ∃ tables, (m.setStringValue env key value userId false).1 = { m with tables := tables } ∧
      ∀ userId' key', userId' ≠ userId ∨ key' ≠ key →
        tables userId' key' = m.tables userId' key' := by
  rcases @setStringValue_cases _ env m key value userId false with hset | ⟨hset, -⟩
  · refine ⟨_, (congrArg Prod.fst hset).trans rfl, fun _ _ => putRow_tables_of_ne⟩
  · exact ⟨m.tables, hset, fun _ _ _ => rfl⟩

end SettingDataManager
end UiAppearance
