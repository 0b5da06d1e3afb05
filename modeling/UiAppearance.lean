import UiAppearance.Foundations.DecimalText
import UiAppearance.Foundations.ScopedLocks
import UiAppearance.Foundations.Table
import UiAppearance.Ability.Events
import UiAppearance.Ability.Simulation
import UiAppearance.Ability.ChoiceSteps
import UiAppearance.Properties.ManualChoice
import UiAppearance.Properties.StoredSchedule
import UiAppearance.Properties.Deadlock
import UiAppearance.Properties.OverrideWindow
import UiAppearance.Properties.UnchangedNotification
import UiAppearance.Properties.SunTimes
import UiAppearance.Properties.AllDayChoice
import UiAppearance.Properties.HandOver
import UiAppearance.Properties.PendingSwitch
import UiAppearance.Properties.OverrideRespected
import UiAppearance.Foundations.Ledger
import UiAppearance.Properties.TimerBookkeeping
import UiAppearance.Schedule.Callbacks
import UiAppearance.Schedule.KeyTimers
import UiAppearance.DarkMode.TrackedTimers
import UiAppearance.Properties.TimerMirror
import UiAppearance.DarkMode.Timers
import UiAppearance.Ability.Frames
import UiAppearance.Ability.Callbacks
import UiAppearance.Ability.Appearance
import UiAppearance.Ability.ParameterNames
import UiAppearance.Ability.ColorCallback
import UiAppearance.Ability.ContextSwitch
import UiAppearance.Ability.Initialised
import UiAppearance.Ability.Migration
import UiAppearance.Ability.StoredAppearance
import UiAppearance.Properties.RestartEquivalence
import UiAppearance.Properties.ShownConfiguration
import UiAppearance.Properties.MigrationMark
import UiAppearance.Ability.AppliedColor
import UiAppearance.Properties.SubProfileIsolation
import UiAppearance.Ability.Setters
import UiAppearance.Properties.SetterAtomicity
import UiAppearance.Properties.SetThenGet
import UiAppearance.Properties.ObsoleteTimers
import UiAppearance.Properties.RejectedSchedule
import UiAppearance.Foundations.PeriodicInstants
import UiAppearance.Properties.OverrideEnd
import UiAppearance.Properties.EarlyTimers
import UiAppearance.Settings.PairWrite
import UiAppearance.Properties.SunFallback
import UiAppearance.Properties.TriggerTimes
import UiAppearance.Properties.PairRollback
import UiAppearance.Ability.ScheduleRuns
import UiAppearance.Schedule.RestartCalls
import UiAppearance.DarkMode.RestartResult
import UiAppearance.Properties.RestartedTimers
import UiAppearance.Foundations.ExactArithmetic
import UiAppearance.DarkMode.ExactSchedule
import UiAppearance.Properties.ScheduleArithmetic
import UiAppearance.Ability.AppearanceRuns
import UiAppearance.Platform.FloatText
import UiAppearance.Properties.UsableScales
import UiAppearance.Foundations.CMath
import UiAppearance.Foundations.Calendar
import UiAppearance.Sun.SolarPosition
import UiAppearance.Sun.SunriseSunset
import UiAppearance.Sun.LocalMinutes
import UiAppearance.Properties.SunSchedule
import UiAppearance.Properties.JulianDays
import UiAppearance.Properties.SunClassification
import UiAppearance.Foundations.GuardedWrites
import UiAppearance.Properties.MigrationRestart
import UiAppearance.DarkMode.StoredState
import UiAppearance.Properties.SettingIsolation
import UiAppearance.Ability.SwitchFrames
import UiAppearance.Properties.SwitchOutcome
import UiAppearance.Properties.CenterSwitch
import UiAppearance.Properties.InvalidSwitch
import UiAppearance.Foundations.CanonicalDecimal
import UiAppearance.Settings.Observers
import UiAppearance.Properties.ContextKeys
import UiAppearance.Properties.ObservedContext
import UiAppearance.Properties.Registrations
import UiAppearance.Properties.StrictIntegers
import UiAppearance.Properties.Reloading
import UiAppearance.Properties.RestoredOverrides
import UiAppearance.Platform.Json
import UiAppearance.Settings.BackGroundAppColorSwitchSettings
import UiAppearance.Properties.DocumentLoading
import UiAppearance.Properties.FollowedSchedule
import UiAppearance.Schedule.RingingTimers
import UiAppearance.Properties.AlarmClock
import UiAppearance.Client.AbilityClient
import UiAppearance.Properties.ClientConnection
import UiAppearance.Properties.ClientCalls
import UiAppearance.Foundations.BinaryFloat
import UiAppearance.Foundations.FixedDecimal
import UiAppearance.Platform.NumberText
import UiAppearance.Bindings.JsUiAppearance
import UiAppearance.Bindings.AniUiAppearance
import UiAppearance.Properties.ScaleRoundTrip
import UiAppearance.Client.ServiceStub
import UiAppearance.Properties.BindingsAgree
import UiAppearance.Foundations.Replica
import UiAppearance.Settings.Announcements
import UiAppearance.Ability.AnnouncedWrites
import UiAppearance.DarkMode.ObserverSteps
import UiAppearance.Properties.FollowedSettings
import UiAppearance.Properties.OvertakenCallbacks
import UiAppearance.Settings.SmartGestureManager
import UiAppearance.Properties.SmartGestureSwitch
import UiAppearance.Properties.SmartGestureBoot
import UiAppearance.Properties.KeptSettings
