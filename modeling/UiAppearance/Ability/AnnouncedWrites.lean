import UiAppearance.Ability.SettingWrites
import UiAppearance.Settings.Announcements

/-!
# What the service writes is announced

Apart from the copies that a load makes for a sub-profile, every row the service
writes is notified, as long as no write is refused: a choice by hand, a restart
of the timers and a recalculation all write the row and leave the memory to the
observer.
-/

namespace UiAppearance

instance {β : Type} : IsPreorder (SettingDataManager β) SettingDataManager.Announces where
  refl := .refl
  trans _ _ _ := .trans

namespace Service

/-- The memory and the registrations stay, and what is written is announced. -/
abbrev Announcing (s s' : Service) : Prop := Writing SettingDataManager.Announces s s'

variable {env : Env} {event : Event}

theorem sunWritten_announces (hinsert : ∀ userId key value, env.insert userId key value = true)
    (context : AccountContext) : SunWritten SettingDataManager.Announces env context :=
  fun _ _ _ => SettingDataManager.announces_setInt32ValuePair _ _ (hinsert _)

theorem announcing_step (s : Service)
    (hinsert : ∀ userId key value, env.insert userId key value = true)
    (h : event.announces = true) : Announcing s (s.step (env, event)) := by
  apply writing_step s h
  cases event with
  | timeChanged => exact fun _ => sunWritten_announces hinsert _
  | timerFired callback =>
    cases callback with
    | schedule startTime endTime context => trivial
    | recalculation context => exact fun _ => sunWritten_announces hinsert context
  | setDarkMode mode =>
    intro context _ m value
    exact SettingDataManager.announces_setStringValue value
  | setSettingData key value => exact fun m => SettingDataManager.announces_setStringValue value
  | _ => trivial

end Service
end UiAppearance
