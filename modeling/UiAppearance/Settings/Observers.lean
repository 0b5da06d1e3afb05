import UiAppearance.Settings.SettingDataManager

/-!
# Observers of settings

An observer is recorded under the key and the user, and the database knows a
setting by its uri. Both are put together without escaping. What they belong
to can be read off all the same, whatever the key contains: the number of the
user ends a name, and in a uri it ends at the first question mark. Registering
adds to the records and to the database alike, or changes nothing; the record
of an observer is dropped even when the database cannot be told.
-/

namespace UiAppearance

section Names

variable {key key' : String} {userId userId' : ℤ}

theorem generateObserverName_inj :
    generateObserverName key userId = generateObserverName key' userId' ↔
      key = key' ∧ userId = userId' := by
  constructor
  · intro h
    have hlist (key : String) (userId : ℤ) : (generateObserverName key userId).toList =
        (key.toList ++ [':']) ++ ':' :: (toString userId).toList := by
      simp [generateObserverName]
    have hsame := congrArg String.toList h
    rw [hlist, hlist] at hsame
    obtain ⟨hkey, huser⟩ := DecimalText.append_printed_injective (by decide) (by decide) hsame
    exact ⟨String.toList_injective (List.append_cancel_right hkey), huser⟩
  · rintro ⟨rfl, rfl⟩
    rfl

theorem toList_assembleUserDbUri (userId : ℤ) (key : String) :
    (assembleUserDbUri userId key).toList = settingDataUserUriPrefix.toList ++
      ((toString userId).toList ++ '?' :: ("Proxy=true&key=".toList ++ key.toList)) := by
  have hsuffix : settingDataUserUriSuffix.toList = '?' :: "Proxy=true".toList := by decide
  have hjoined : "Proxy=true&key=".toList = "Proxy=true".toList ++ settingDataKeyUri.toList := by
    decide
  unfold assembleUserDbUri
  simp only [String.toList_append, hsuffix, hjoined, List.append_assoc, List.cons_append]

theorem assembleUserDbUri_inj :
    assembleUserDbUri userId key = assembleUserDbUri userId' key' ↔
      userId = userId' ∧ key = key' := by
  constructor
  · intro h
    have hsame := congrArg String.toList h
    rw [toList_assembleUserDbUri, toList_assembleUserDbUri] at hsame
    have hbehind := List.append_cancel_left hsame
    obtain ⟨huser, hkey⟩ := DecimalText.printed_append_injective (by decide) (by decide) hbehind
    exact ⟨huser, String.toList_injective (List.append_cancel_left hkey)⟩
  · rintro ⟨rfl, rfl⟩
    rfl

theorem assembleUri_inj : assembleUri key = assembleUri key' ↔ key = key' := by
  constructor
  · intro h
    have hsame := congrArg String.toList h
    unfold assembleUri at hsame
    simp only [String.toList_append] at hsame
    exact String.toList_injective (List.append_cancel_left (List.append_cancel_left hsame))
  · rintro rfl
    rfl

/-- The shared table and those of the users have uris that part before the question mark. -/
theorem assembleUri_ne_assembleUserDbUri : assembleUri key ≠ assembleUserDbUri userId' key' := by
  have hpart : settingDataUri.toList.take 56 ≠ settingDataUserUriPrefix.toList.take 56 := by decide
  intro h
  have htake := congrArg (fun uri => uri.toList.take 56) h
  unfold assembleUri at htake
  rw [toList_assembleUserDbUri, String.toList_append,
    List.take_append_of_le_length (by decide), List.take_append_of_le_length (by decide)] at htake
  exact hpart htake

theorem createUri_inj :
    createUri userId key = createUri userId' key' ↔ userId = userId' ∧ key = key' := by
  constructor
  · intro h
    unfold createUri at h
    split_ifs at h with huser huser' huser'
    · exact ⟨huser.trans huser'.symm, assembleUri_inj.mp h⟩
    · exact absurd h assembleUri_ne_assembleUserDbUri
    · exact absurd h.symm assembleUri_ne_assembleUserDbUri
    · exact assembleUserDbUri_inj.mp h
  · rintro ⟨rfl, rfl⟩
    rfl

end Names

namespace SettingDataManager

variable {β : Type} {env : Env} {m : SettingDataManager β} {key : String} {updateFunc : β}
  {userId : ℤ}

/-- A registration is made and recorded, or nothing has changed: it failed, or there is a record
of this name already. -/
theorem registerObserver_cases :
    (let r := m.registerObserver env key updateFunc userId
      let observer : SettingDataObserver β := ⟨key, userId, updateFunc⟩
      m.observers (generateObserverName key userId) = none ∧ r.2 = .ok ∧
        r.1.observers = m.observers.put (generateObserverName key userId) observer ∧
        r.1.registered = m.registered ++ [observer]) ∨
    ((m.registerObserver env key updateFunc userId).1 = m ∧
      ((m.registerObserver env key updateFunc userId).2 = .ok →
        (m.observers (generateObserverName key userId)).isSome = true)) := by
  unfold registerObserver
  split_ifs with hinit hrecorded hhelper
  · exact .inr ⟨rfl, fun hok => by cases hok⟩
  · exact .inr ⟨rfl, fun _ => hrecorded⟩
  · rw [Bool.not_eq_true, Option.isSome_eq_false_iff, Option.isNone_iff_eq_none] at hrecorded
    exact .inl ⟨hrecorded, rfl, rfl, rfl⟩
  · exact .inr ⟨rfl, fun hok => by cases hok⟩

variable [DecidableEq β]

theorem observers_unregisterObserver :
    (m.unregisterObserver env key userId).1.observers =
      m.observers.remove (generateObserverName key userId) := by
  unfold unregisterObserver
  split
  · next hnone => exact (Table.remove_of_none hnone).symm
  · dsimp only
    split_ifs <;> rfl

theorem registered_unregisterObserver :
    (m.unregisterObserver env key userId).1.registered =
      match m.observers (generateObserverName key userId) with
      | none => m.registered
      | some observer =>
        if m.hasHelper env userId then m.registered.erase observer else m.registered := by
  unfold unregisterObserver
  cases m.observers (generateObserverName key userId) with
  | none => rfl
  | some observer =>
    dsimp only
    split_ifs <;> rfl

end SettingDataManager
end UiAppearance
