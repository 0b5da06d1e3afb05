import UiAppearance.Platform.Environment
import UiAppearance.Platform.Json

/-!
# Settings for applications in the background

The configuration file names the applications that change their colour in the
background, and how many of them at a time. The file is read into the settings
piece by piece, each before the next is looked at.
-/

namespace UiAppearance

def allowListName : String := "whiteList"
def bundleNameName : String := "bundleName"
def strategyName : String := "strategy"
def durationName : String := "duration"
def perTaskNumberName : String := "perTaskNumber"

structure BackGroundAppColorSwitchSettings where
  isAllowListEnable : Bool := false
  allowList : List String := []
  taskQuantity : ℤ := -1
  durationMillisecond : ℤ := -1
  deriving DecidableEq, Repr

/-- What the application manager is asked to do for applications in the background. -/
structure BackgroundUpdate where
  bundleNames : List String
  maxCountPerBatch : ℤ
  intervalTime : ℤ
  deriving DecidableEq, Repr

namespace Json

/-- The name in an entry of the list, where there is one. -/
def bundleName (item : Json) : Option String :=
  match item.member bundleNameName with
  | some (string bundleName) => some bundleName
  | _ => none

/-- The names in the list of a document, where there is a list. -/
def bundleNames (object : Json) : Option (List String) :=
  match object.member allowListName with
  | some (array items) => some (items.filterMap bundleName)
  | _ => none

def strategyMember (object : Json) (key : String) : Option Json :=
  (object.member strategyName).bind (member key)

end Json

namespace BackGroundAppColorSwitchSettings

variable (cast : FloatCast) (s : BackGroundAppColorSwitchSettings)

/-- Nothing is kept of the settings from before. -/
def reset : BackGroundAppColorSwitchSettings where
  allowList := []
  taskQuantity := -1
  durationMillisecond := -1
  isAllowListEnable := false

/-- One round of the loop over the list: an entry without a name is skipped. -/
def insertItem (allowList : List String) (item : Json) : List String :=
  match item.bundleName with
  | some bundleName => allowList ++ [bundleName]
  | none => allowList

/-- `Initialize` once the list is in place. -/
def initializeStrategy (object : Json) : BackGroundAppColorSwitchSettings × ErrCode :=
  match object.member strategyName with
  | none => (s, .nameNotFound)
  | some strategy =>
    match (strategy.member durationName).bind (Json.toInt32 cast) with
    | none => (s, .invalidValue)
    | some duration =>
      let s := { s with durationMillisecond := duration }
      match (strategy.member perTaskNumberName).bind (Json.toInt32 cast) with
      | none => (s, .invalidValue)
      | some perTaskNumber =>
        let s := { s with taskQuantity := perTaskNumber }
        if s.taskQuantity ≤ 0 ∨ s.durationMillisecond ≤ 0 then (s, .invalidValue)
        else ({ s with isAllowListEnable := true }, .ok)

/-- `Initialize`; there is no document when the file cannot be read or parsed. -/
def initializeSettings (document : Option Json) : BackGroundAppColorSwitchSettings × ErrCode :=
  match document with
  | none => (s, .nameNotFound)
  | some object =>
    match object.member allowListName with
    | some (.array items) =>
      initializeStrategy cast { s with allowList := items.foldl insertItem s.allowList } object
    | _ => (s, .invalidValue)

/-- The request of a colour change, unless there is none to make. -/
def backGroundAppColorSwitch : Option BackgroundUpdate :=
  if !s.isAllowListEnable then none
  else if s.allowList.isEmpty then none
  else some ⟨s.allowList, s.taskQuantity, s.durationMillisecond⟩

variable {cast s} {object : Json} {names : List String}

theorem foldl_insertItem (items : List Json) (allowList : List String) :
    items.foldl insertItem allowList = allowList ++ items.filterMap Json.bundleName := by
  induction items generalizing allowList with
  | nil => exact (List.append_nil allowList).symm
  | cons item items ih =>
    rw [List.foldl_cons, ih, insertItem]
    cases hname : item.bundleName with
    | some bundleName => rw [List.filterMap_cons_some hname, List.append_assoc, List.singleton_append]
    | none => rw [List.filterMap_cons_none hname]

end BackGroundAppColorSwitchSettings
end UiAppearance
