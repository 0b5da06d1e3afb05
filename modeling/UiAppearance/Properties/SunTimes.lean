import UiAppearance.Ability.Events
import UiAppearance.DarkMode.Frames

/-!
# Sunset and sunrise arrive one at a time

The recalculation stores both times and sends two notifications. Each observer
checks its value against the other time in memory, which is still the old one
for whichever observer runs first. Both orders end with the stored pair exactly
when the new sunset precedes the old sunrise (or is the default anyway) and
the old sunset precedes the new sunrise.
-/

namespace UiAppearance
namespace SunTimes

open Transition AlarmTimerManager

/-- The settings of a context can be read during a step. -/
def Readable (env : Env) (context : AccountContext) : Prop :=
  env.createHelper context.userId = true ∧ ∀ key, env.query context.userId key = .rows

def sunTimesOf (s : Service) (context : AccountContext) : ℤ × ℤ :=
  ((s.stateOf context).settingSunsetTime, (s.stateOf context).settingSunriseTime)

/-- The state in which the pair has been written and neither observer has run. -/
def stored (env : Env) (s : Service) (context : AccountContext) (sunset sunrise : ℤ) :
    SettingDataManager DarkModeObserver × ErrCode :=
  s.settingDataManager.setInt32ValuePair env
    (AccountContext.buildSettingKey SettingItem.sunset.key context) sunset
    (AccountContext.buildSettingKey SettingItem.sunrise.key context) sunrise context.userId

def bothDelivered (first second : Env × SettingItem) (context : AccountContext) (s : Service) :
    Service :=
  exec Service.step s
    [(first.1, .settingChanged ⟨first.2, context⟩), (second.1, .settingChanged ⟨second.2, context⟩)]

section Observers

variable {env : Env} {s : Service} {context : AccountContext}

theorem settingValue_of_row {item : SettingItem} {v default : ℤ} (hr : Readable env context)
    (hi : s.settingDataManager.isInitialized = true) (hv : IsInt32 v)
    (ht : s.settingDataManager.tables context.userId
      (AccountContext.buildSettingKey item.key context) = some (toString v)) :
    s.settingValue env (AccountContext.buildSettingKey item.key context) context default = v := by
  have hh : s.settingDataManager.hasHelper env context.userId = true := by
    simp [SettingDataManager.hasHelper, hi, hr.1]
  unfold Service.settingValue
  rw [SettingDataManager.getInt32ValueStrictly_eq hh (hr.2 _) hv ht]

/-- The sunset observer checks its value against the sunrise in memory, and changes no row. -/
theorem sunsetObserver {sunset : ℤ} (hr : Readable env context)
    (hi : s.settingDataManager.isInitialized = true) (hv : IsInt32 sunset)
    (ht : s.settingDataManager.tables context.userId
      (AccountContext.buildSettingKey SettingItem.sunset.key context) = some (toString sunset)) :
    (s.step (env, .settingChanged ⟨.sunset, context⟩)).stateOf context =
        (s.stateOf context).withSunset sunset ∧
      (s.step (env, .settingChanged ⟨.sunset, context⟩)).settingDataManager =
        s.settingDataManager := by
  simp only [Service.step, Service.observerUpdateFunc, Service.observedKey,
    Service.settingDataDarkModeSunsetTimeUpdateFunc, settingValue_of_row hr hi hv ht]
  simp

theorem sunriseObserver {sunrise : ℤ} (hr : Readable env context)
    (hi : s.settingDataManager.isInitialized = true) (hv : IsInt32 sunrise)
    (ht : s.settingDataManager.tables context.userId
      (AccountContext.buildSettingKey SettingItem.sunrise.key context) = some (toString sunrise)) :
    (s.step (env, .settingChanged ⟨.sunrise, context⟩)).stateOf context =
        (s.stateOf context).withSunrise sunrise ∧
      (s.step (env, .settingChanged ⟨.sunrise, context⟩)).settingDataManager =
        s.settingDataManager := by
  simp only [Service.step, Service.observerUpdateFunc, Service.observedKey,
    Service.settingDataDarkModeSunriseTimeUpdateFunc, settingValue_of_row hr hi hv ht]
  simp

end Observers

section Confluence

variable {env₀ env₁ env₂ : Env} {s : Service} {context : AccountContext} {sunset sunrise : ℤ}

/-- The rows after a successful write, in any state that still has that database. -/
theorem stored_rows (hset : (stored env₀ s context sunset sunrise).2 = .ok) :
    (stored env₀ s context sunset sunrise).1.isInitialized = true ∧
    (stored env₀ s context sunset sunrise).1.tables context.userId
      (AccountContext.buildSettingKey SettingItem.sunset.key context) = some (toString sunset) ∧
    (stored env₀ s context sunset sunrise).1.tables context.userId
      (AccountContext.buildSettingKey SettingItem.sunrise.key context) =
        some (toString sunrise) := by
  obtain ⟨hi, heq⟩ := SettingDataManager.setInt32ValuePair_ok hset
  have hkey : AccountContext.buildSettingKey SettingItem.sunset.key context ≠
      AccountContext.buildSettingKey SettingItem.sunrise.key context := by
    rw [Ne, AccountContext.buildSettingKey_inj]
    decide
  unfold stored
  rw [heq]
  refine ⟨hi, ?_, ?_⟩
  · simp only [SettingDataManager.notifyChange_tables]
    rw [SettingDataManager.putRow_tables_of_ne (.inr hkey), SettingDataManager.putRow_tables_self]
  · simp only [SettingDataManager.notifyChange_tables]
    rw [SettingDataManager.putRow_tables_self]

theorem sunset_first (hset : (stored env₀ s context sunset sunrise).2 = .ok)
    (h₁ : Readable env₁ context) (h₂ : Readable env₂ context) (hs : IsInt32 sunset)
    (hr : IsInt32 sunrise) :
    (bothDelivered (env₁, .sunset) (env₂, .sunrise) context
      (s.withSettings (stored env₀ s context sunset sunrise))).stateOf context =
      ((s.stateOf context).withSunset sunset).withSunrise sunrise := by
  obtain ⟨hi, hset', hrise⟩ := stored_rows hset
  have hfirst := sunsetObserver (s := s.withSettings (stored env₀ s context sunset sunrise))
    h₁ hi hs hset'
  have hsecond := sunriseObserver (s := (s.withSettings (stored env₀ s context sunset
    sunrise)).step (env₁, .settingChanged ⟨.sunset, context⟩)) h₂
    (by rw [hfirst.2]; exact hi) hr (by rw [hfirst.2]; exact hrise)
  exact hsecond.1.trans (congrArg (·.withSunrise sunrise) hfirst.1)

theorem sunrise_first (hset : (stored env₀ s context sunset sunrise).2 = .ok)
    (h₁ : Readable env₁ context) (h₂ : Readable env₂ context) (hs : IsInt32 sunset)
    (hr : IsInt32 sunrise) :
    (bothDelivered (env₁, .sunrise) (env₂, .sunset) context
      (s.withSettings (stored env₀ s context sunset sunrise))).stateOf context =
      ((s.stateOf context).withSunrise sunrise).withSunset sunset := by
  obtain ⟨hi, hset', hrise⟩ := stored_rows hset
  have hfirst := sunriseObserver (s := s.withSettings (stored env₀ s context sunset sunrise))
    h₁ hi hr hrise
  have hsecond := sunsetObserver (s := (s.withSettings (stored env₀ s context sunset
    sunrise)).step (env₁, .settingChanged ⟨.sunrise, context⟩)) h₂
    (by rw [hfirst.2]; exact hi) hs (by rw [hfirst.2]; exact hset')
  exact hsecond.1.trans (congrArg (·.withSunset sunset) hfirst.1)

/-- Pure form of the two orders: what two checked updates make of a pair. -/
theorem withSunset_withSunrise {state : DarkModeState}
    (hnew : sunset < sunrise ∧ sunset < 1440) :
    (((state.withSunset sunset).withSunrise sunrise).settingSunsetTime = sunset ∧
        ((state.withSunset sunset).withSunrise sunrise).settingSunriseTime = sunrise) ↔
      (sunset < state.settingSunriseTime ∨ sunset = sunsetTimeDefault) := by
  simp only [DarkModeState.withSunset, DarkModeState.withSunrise, sunsetTimeDefault,
    sunriseTimeDefault]
  split_ifs <;> simp_all <;> omega

theorem withSunrise_withSunset {state : DarkModeState}
    (hold : state.settingSunsetTime < 1440) (hnew : sunset < sunrise ∧ sunset < 1440) :
    (((state.withSunrise sunrise).withSunset sunset).settingSunsetTime = sunset ∧
        ((state.withSunrise sunrise).withSunset sunset).settingSunriseTime = sunrise) ↔
      state.settingSunsetTime < sunrise := by
  simp only [DarkModeState.withSunset, DarkModeState.withSunrise, sunsetTimeDefault,
    sunriseTimeDefault]
  split_ifs <;> simp_all <;> omega

/-- Both orders end with the stored pair exactly when neither update conflicts with the
old time it is checked against. -/
theorem bothDelivered_iff (hold : AcceptedTimes (sunTimesOf s context))
    (hnew : AcceptedTimes (sunset, sunrise))
    (hset : (stored env₀ s context sunset sunrise).2 = .ok)
    (h₁ : Readable env₁ context) (h₂ : Readable env₂ context) :
    let s' := s.withSettings (stored env₀ s context sunset sunrise)
    (sunTimesOf (bothDelivered (env₁, .sunset) (env₂, .sunrise) context s') context =
        (sunset, sunrise) ∧
      sunTimesOf (bothDelivered (env₁, .sunrise) (env₂, .sunset) context s') context =
        (sunset, sunrise)) ↔
      (sunset < (sunTimesOf s context).2 ∨ sunset = sunsetTimeDefault) ∧
        (sunTimesOf s context).1 < sunrise := by
  have hs := hnew.1
  have hr := hnew.2.1
  have hpair := hnew.bounds
  have hpair₀ := hold.bounds
  simp only [sunTimesOf, sunset_first hset h₁ h₂ hs hr, sunrise_first hset h₁ h₂ hs hr,
    Prod.mk.injEq]
  rw [withSunset_withSunrise ⟨hpair.2.1, hpair.2.2.1⟩,
    withSunrise_withSunset hpair₀.2.2.1 ⟨hpair.2.1, hpair.2.2.1⟩]

end Confluence

/-- A day on which the sun is down from 0:30 to 3:00 only. -/
def whiteNight : ℤ × ℤ := (30, 180)

def calmEnv : Env := { clock := ⟨1000000, 36060, 963940, by decide⟩ }

/-- A service that has just connected to the settings; its sun times are the defaults. -/
def connected : Service := { settingDataManager := { isInitialized := true } }

def whiteNightStored : SettingDataManager DarkModeObserver × ErrCode :=
  stored calmEnv connected (.createBaseContext 100) whiteNight.1 whiteNight.2

theorem readable_calmEnv : Readable calmEnv (.createBaseContext 100) := ⟨rfl, fun _ => rfl⟩

/-- A summer day that conflicts with neither default arrives in both orders. -/
theorem summer_delivered :
    let summer := connected.withSettings
      (stored calmEnv connected (.createBaseContext 100) 1250 1780)
    sunTimesOf (bothDelivered (calmEnv, .sunset) (calmEnv, .sunrise) (.createBaseContext 100)
        summer) (.createBaseContext 100) = (1250, 1780) ∧
      sunTimesOf (bothDelivered (calmEnv, .sunrise) (calmEnv, .sunset) (.createBaseContext 100)
        summer) (.createBaseContext 100) = (1250, 1780) := by
  have hset : (stored calmEnv connected (.createBaseContext 100) 1250 1780).2 = .ok := by decide
  exact (bothDelivered_iff (by decide) (by decide) hset readable_calmEnv
    readable_calmEnv).mpr (by decide)

/-- With the sunrise notification first the sunrise falls back to the default for good. -/
theorem whiteNight_lost :
    AcceptedTimes (sunTimesOf connected (.createBaseContext 100)) ∧ AcceptedTimes whiteNight ∧
      whiteNightStored.2 = .ok ∧
      sunTimesOf (bothDelivered (calmEnv, .sunrise) (calmEnv, .sunset) (.createBaseContext 100)
        (connected.withSettings whiteNightStored)) (.createBaseContext 100) = (30, 1860) := by
  decide

end SunTimes
end UiAppearance
