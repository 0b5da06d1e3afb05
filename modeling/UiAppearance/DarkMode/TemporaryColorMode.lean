import UiAppearance.DarkMode.State

/-!
# Temporary colour mode

A manual choice against the schedule is kept as an override: a flag and a
window of seconds that ends one second before the schedule next switches away
from the chosen colour. The record is held in memory and saved in three
parameters of the context.
-/

namespace UiAppearance

/-- `atoll`: blanks, an optional sign and the leading digits; no digits give 0. -/
def atoll (text : String) : ℤ :=
  match text.toList.dropWhile Char.isWhitespace with
  | '+' :: cs => ((DecimalText.readNat cs).map fun n => (n : ℤ)).getD 0
  | cs => (DecimalText.readInt cs).getD 0

namespace TemporaryColorMode

def colorModeParamString : String := "persist.uiAppearance.dark_mode_temp_state_flag."
def startTimeParamString : String := "persist.uiAppearance.dark_mode_temp_state_start_time."
def endTimeParamString : String := "persist.uiAppearance.dark_mode_temp_state_end_time."
def temporaryString : String := "1"
def normalString : String := "0"

def temporaryColorModeAssignUser (context : AccountContext) : String :=
  AccountContext.buildUserParamKey colorModeParamString context

def temporaryStateStartTimeAssignUser (context : AccountContext) : String :=
  AccountContext.buildUserParamKey startTimeParamString context

def temporaryStateEndTimeAssignUser (context : AccountContext) : String :=
  AccountContext.buildUserParamKey endTimeParamString context

def isWithInPreInterval (clock : Clock) (startTime : ℤ) : Bool :=
  if clock.failed then false else decide ((clock.minuteOfDay : ℤ) ≤ startTime)

/-- The last second before `secondOffset` seconds after today's midnight. -/
def calcEndTimestamp (clock : Clock) (secondOffset oldEnd : ℤ) : ℤ :=
  if clock.failed then oldEnd else clock.midnight + secondOffset - 1

/-- Minutes after today's midnight at which the override ends: the next switch away from
the colour opposite to the one the schedule shows now. -/
def windowEndMinute (clock : Clock) (settingStartTime settingEndTime : ℤ) : ℤ :=
  let within := AlarmTimerManager.isWithinTimeInterval clock (toUInt64 settingStartTime)
    (toUInt64 settingEndTime)
  let before := isWithInPreInterval clock settingStartTime
  if 1440 < settingEndTime then
    if !within then settingEndTime
    else if before then settingStartTime
    else settingStartTime + 1440
  else
    if within then settingStartTime + 1440
    else if before then settingEndTime
    else settingEndTime + 1440

/-- Start and end of the window; a failing clock leaves the end as it was. -/
def getTempColorModeTimeInfo (clock : Clock) (settingStartTime settingEndTime oldEnd : ℤ) :
    ℤ × ℤ :=
  (clock.timestamp,
    calcEndTimestamp clock (windowEndMinute clock settingStartTime settingEndTime * 60) oldEnd)

end TemporaryColorMode

namespace Service

open TemporaryColorMode

variable (env : Env) (s : Service) (context : AccountContext)

/-- The record an inserting subscript on `multiUserTempColorModeMap_` yields. -/
def tempInfoOf : TempColorModeInfo := s.multiUserTempColorModeMap.valueAt context {}

def setTempInfo (info : TempColorModeInfo) : Service :=
  { s with multiUserTempColorModeMap := s.multiUserTempColorModeMap.put context info }

/-- The record that the saved parameters of a context spell. -/
def persistedInfo : TempColorModeInfo :=
  let temporaryColorModeValue :=
    (s.getParameterWrap (temporaryColorModeAssignUser context) normalString).getD normalString
  if temporaryColorModeValue = normalString then {}
  else
    { tempColorMode := .colorModeTemp
      keepTemporaryStateStartTime :=
        atoll ((s.getParameterWrap (temporaryStateStartTimeAssignUser context) "0").getD "0")
      keepTemporaryStateEndTime :=
        atoll ((s.getParameterWrap (temporaryStateEndTimeAssignUser context) "0").getD "0") }

def initData : Service := s.setTempInfo context (s.persistedInfo context)

/-- A context without a record is not temporary. -/
def isColorModeTemporary : Bool :=
  match s.multiUserTempColorModeMap context with
  | some info => info.tempColorMode = .colorModeTemp
  | none => false

def isColorModeNormal : Bool :=
  match s.multiUserTempColorModeMap context with
  | some info => info.tempColorMode = .colorModeNormal
  | none => true

def saveTempColorModeInfo : Service :=
  let info := s.tempInfoOf context
  let touched :=
    { s with multiUserTempColorModeMap := s.multiUserTempColorModeMap.touch context {} }
  let flagged := touched.setParameterWrap env (temporaryColorModeAssignUser context)
    (if info.tempColorMode = .colorModeNormal then normalString else temporaryString)
  if info.tempColorMode = .colorModeTemp then
    (flagged.setParameterWrap env (temporaryStateStartTimeAssignUser context)
      (toString info.keepTemporaryStateStartTime)).setParameterWrap env
      (temporaryStateEndTimeAssignUser context) (toString info.keepTemporaryStateEndTime)
  else flagged

/-- The bounds of the schedule; every mode but the custom one reads the sun times. -/
def getSettingTime : Option (ℤ × ℤ) :=
  (s.darkModeStates context).map fun state =>
    if state.settingMode = .customAuto then (state.settingStartTime, state.settingEndTime)
    else (state.settingSunsetTime, state.settingSunriseTime)

/-- Without a schedule the flag stays set in memory and nothing is saved. -/
def setColorModeTemporary : Service :=
  let info := s.tempInfoOf context
  match s.getSettingTime context with
  | none => s.setTempInfo context { info with tempColorMode := .colorModeTemp }
  | some setting =>
    let window := getTempColorModeTimeInfo env.clock setting.1 setting.2
      info.keepTemporaryStateEndTime
    (s.setTempInfo context ⟨.colorModeTemp, window.1, window.2⟩).saveTempColorModeInfo env context

def setColorModeNormal : Service :=
  (s.setTempInfo context {}).saveTempColorModeInfo env context

/-- Whether the clock is strictly inside the window of a recorded override. -/
def checkTemporaryStateEffective : Bool :=
  match s.multiUserTempColorModeMap context with
  | some info =>
    decide (info.tempColorMode = .colorModeTemp) && !env.clock.failed &&
      decide (info.keepTemporaryStateStartTime < env.clock.timestamp) &&
      decide (env.clock.timestamp < info.keepTemporaryStateEndTime)
  | none => false

/-- The test both callers of the schedule make before they follow it. -/
def followsSchedule : Bool :=
  s.isColorModeNormal context || !s.checkTemporaryStateEffective env context

end Service
end UiAppearance
