import UiAppearance.Settings.BackGroundAppColorSwitchSettings

/-!
# Loading the file of background applications

The list is appended to and the numbers are written before the rest of the file
has been looked at. A document that names an application is therefore never
loaded cleanly: it leaves the names behind when it is rejected, and repeats them
when it is loaded again. The documents without names are told apart by their
numbers.
-/

namespace UiAppearance
namespace DocumentLoading

open BackGroundAppColorSwitchSettings

variable (cast : FloatCast) (document : Option Json) (object : Json) (names : List String)
  (s : BackGroundAppColorSwitchSettings)

def duration : Option ℤ := (object.strategyMember durationName).bind (Json.toInt32 cast)

def perTaskNumber : Option ℤ := (object.strategyMember perTaskNumberName).bind (Json.toInt32 cast)

/-- The settings hold what the document says. -/
structure Holds (s : BackGroundAppColorSwitchSettings) : Prop where
  allowList : object.bundleNames = some s.allowList
  taskQuantity : 0 < s.taskQuantity ∧
    (object.strategyMember perTaskNumberName).bind Json.number = some (s.taskQuantity : ℚ)
  durationMillisecond : 0 < s.durationMillisecond ∧
    (object.strategyMember durationName).bind Json.number = some (s.durationMillisecond : ℚ)
  enabled : s.isAllowListEnable = true

/-- Loading takes over the whole document or nothing, and loading it again changes nothing. -/
structure LoadsCleanly : Prop where
  rejected : (s.initializeSettings cast document).2 ≠ .ok →
    (s.initializeSettings cast document).1 = s
  loaded : (s.initializeSettings cast document).2 = .ok →
    ∃ object, document = some object ∧ Holds object (s.initializeSettings cast document).1
  again : ((s.initializeSettings cast document).1.initializeSettings cast document).1 =
    (s.initializeSettings cast document).1

/-- The two numbers are there and positive once they are converted. -/
def accepted : Bool :=
  match duration cast object, perTaskNumber cast object with
  | some duration, some perTaskNumber => decide (0 < perTaskNumber) && decide (0 < duration)
  | _, _ => false

/-- The number is an integer of the range. -/
def IsInt32Number (key : String) : Prop :=
  ∃ v : ℤ, IsInt32 v ∧ (object.strategyMember key).bind Json.number = some (v : ℚ)

/-- No application is named, and the numbers are in place already or can be taken as they are. -/
structure Harmless : Prop where
  names : object.bundleNames = some []
  rejected : accepted cast object = false → ∀ d, duration cast object = some d →
    s.durationMillisecond = d ∧ ∀ q, perTaskNumber cast object = some q → s.taskQuantity = q
  accepted : accepted cast object = true → s.allowList = [] ∧
    IsInt32Number object durationName ∧ IsInt32Number object perTaskNumberName

variable {cast document object names s}

section Result

/-- What a document with a list makes of the settings. -/
def written (cast : FloatCast) (object : Json) (names : List String)
    (s : BackGroundAppColorSwitchSettings) : BackGroundAppColorSwitchSettings where
  allowList := s.allowList ++ names
  durationMillisecond := (duration cast object).getD s.durationMillisecond
  taskQuantity :=
    ((duration cast object).bind fun _ => perTaskNumber cast object).getD s.taskQuantity
  isAllowListEnable := s.isAllowListEnable || accepted cast object

theorem initializeStrategy_eq (s : BackGroundAppColorSwitchSettings) :
    (s.initializeStrategy cast object).1 = written cast object [] s ∧
      ((s.initializeStrategy cast object).2 = .ok ↔ accepted cast object = true) := by
  unfold initializeStrategy written accepted duration perTaskNumber Json.strategyMember
  rw [List.append_nil]
  cases object.member strategyName with
  | none => simp
  | some strategy =>
    dsimp only [Option.bind_some]
    cases (strategy.member durationName).bind (Json.toInt32 cast) with
    | none => simp
    | some d =>
      dsimp only [Option.bind_some]
      cases (strategy.member perTaskNumberName).bind (Json.toInt32 cast) with
      | none => simp
      | some q =>
        dsimp only
        split_ifs with hvalid
        · have hrejected : (decide (0 < q) && decide (0 < d)) = false := by
            rw [Bool.and_eq_false_iff, decide_eq_false_iff_not, decide_eq_false_iff_not]
            omega
          simp [hrejected]
        · have haccepted : (decide (0 < q) && decide (0 < d)) = true := by
            rw [Bool.and_eq_true, decide_eq_true_eq, decide_eq_true_eq]
            omega
          simp [haccepted]

theorem initializeSettings_of_names (h : object.bundleNames = some names) :
    (s.initializeSettings cast (some object)).1 = written cast object names s ∧
      ((s.initializeSettings cast (some object)).2 = .ok ↔ accepted cast object = true) := by
  unfold initializeSettings
  unfold Json.bundleNames at h
  dsimp only
  split at h
  · next items hitems =>
    obtain rfl := Option.some.inj h
    rw [foldl_insertItem]
    have hstrategy := @initializeStrategy_eq cast object
      { s with allowList := s.allowList ++ items.filterMap Json.bundleName }
    unfold written at hstrategy ⊢
    rw [List.append_nil] at hstrategy
    exact hstrategy
  · cases h

theorem initializeSettings_of_none (h : object.bundleNames = none) :
    s.initializeSettings cast (some object) = (s, .invalidValue) := by
  unfold initializeSettings
  unfold Json.bundleNames at h
  dsimp only
  split
  · next items hitems =>
    rw [hitems] at h
    cases h
  · rfl

end Result

section Exact

theorem number_iff {key : String} {v : ℤ}
    (h : (object.strategyMember key).bind (Json.toInt32 cast) = some v) :
    (object.strategyMember key).bind Json.number = some (v : ℚ) ↔ IsInt32Number object key := by
  unfold IsInt32Number
  obtain ⟨json, hjson, hv⟩ := Option.bind_eq_some_iff.mp h
  rw [hjson]
  exact Json.number_eq_toInt32 hv

theorem written_eq_self_iff (h : accepted cast object = false) :
    written cast object names s = s ↔ names = [] ∧ ∀ d, duration cast object = some d →
      s.durationMillisecond = d ∧ ∀ q, perTaskNumber cast object = some q → s.taskQuantity = q := by
  obtain ⟨isAllowListEnable, allowList, taskQuantity, durationMillisecond⟩ := s
  unfold written
  rw [h, BackGroundAppColorSwitchSettings.mk.injEq]
  cases duration cast object with
  | none => simp
  | some d =>
    cases perTaskNumber cast object with
    | none => simp [eq_comm]
    | some q =>
      simp only [Option.bind_some, Option.getD_some, Option.some.injEq, forall_eq',
        Bool.or_false, List.append_right_eq_self, true_and]
      rw [@eq_comm _ q, @eq_comm _ d, and_comm (a := taskQuantity = q)]

theorem written_of_accepted (h : accepted cast object = true) :
    ∃ d q, duration cast object = some d ∧ perTaskNumber cast object = some q ∧ 0 < d ∧ 0 < q ∧
      ∀ names s, written cast object names s = ⟨true, s.allowList ++ names, q, d⟩ := by
  unfold written
  unfold accepted at h ⊢
  cases hduration : duration cast object with
  | none =>
    rw [hduration] at h
    cases h
  | some d =>
    cases hnumber : perTaskNumber cast object with
    | none =>
      rw [hduration, hnumber] at h
      cases h
    | some q =>
      rw [hduration, hnumber] at h
      obtain ⟨hq, hd⟩ := Bool.and_eq_true_iff.mp h
      refine ⟨d, q, rfl, rfl, of_decide_eq_true hd, of_decide_eq_true hq, fun names s => ?_⟩
      dsimp only
      rw [hq, hd, Bool.and_true, Bool.or_true]
      rfl

theorem holds_written_iff (hnames : object.bundleNames = some names)
    (h : accepted cast object = true) :
    Holds object (written cast object names s) ↔ s.allowList = [] ∧
      IsInt32Number object durationName ∧ IsInt32Number object perTaskNumberName := by
  obtain ⟨d, q, hduration, hnumber, hd, hq, hwritten⟩ := written_of_accepted h
  rw [hwritten, ← number_iff hduration, ← number_iff hnumber]
  constructor
  · rintro ⟨hlist, ⟨-, hexact⟩, ⟨-, hexact'⟩, -⟩
    rw [hnames, Option.some.injEq, List.self_eq_append_left] at hlist
    exact ⟨hlist, hexact', hexact⟩
  · rintro ⟨hlist, hexact', hexact⟩
    refine ⟨?_, ⟨hq, hexact⟩, ⟨hd, hexact'⟩, rfl⟩
    rw [hlist, hnames]
    rfl

/-- Loaded into settings that were reset first, an accepted document is what is asked for. -/
theorem backGroundAppColorSwitch_of_reset (hnames : object.bundleNames = some names)
    (h : accepted cast object = true) :
    ∃ d q, duration cast object = some d ∧ perTaskNumber cast object = some q ∧
      (reset.initializeSettings cast (some object)).1.backGroundAppColorSwitch =
        if names.isEmpty then none else some ⟨names, q, d⟩ := by
  obtain ⟨d, q, hduration, hnumber, -, -, hwritten⟩ := written_of_accepted h
  refine ⟨d, q, hduration, hnumber, ?_⟩
  rw [(@initializeSettings_of_names cast object names reset hnames).1, hwritten]
  rfl

/-- With a list, loading cleanly is a matter of what is written. -/
theorem loadsCleanly_of_names (hnames : object.bundleNames = some names) :
    LoadsCleanly cast (some object) s ↔
      (accepted cast object = false → written cast object names s = s) ∧
      (accepted cast object = true → Holds object (written cast object names s)) ∧
      written cast object names (written cast object names s) = written cast object names s := by
  obtain ⟨hstate, hcode⟩ := @initializeSettings_of_names cast object names s hnames
  have hagain := (@initializeSettings_of_names cast object names (written cast object names s)
    hnames).1
  constructor
  · rintro ⟨hrejected, hloaded, hsame⟩
    rw [hstate] at hrejected hloaded hsame
    rw [hagain] at hsame
    refine ⟨fun h => hrejected ?_, fun h => ?_, hsame⟩
    · rw [Ne, hcode, h]
      exact Bool.false_ne_true
    · obtain ⟨object', hobject, hholds⟩ := hloaded (hcode.mpr h)
      obtain rfl := Option.some.inj hobject
      exact hholds
  · rintro ⟨hrejected, hloaded, hsame⟩
    refine ⟨fun h => ?_, fun h => ⟨object, rfl, ?_⟩, ?_⟩
    · rw [hstate]
      rw [Ne, hcode, Bool.not_eq_true] at h
      exact hrejected h
    · rw [hstate]
      exact hloaded (hcode.mp h)
    · rw [hstate, hagain]
      exact hsame

theorem written_written_iff (h : accepted cast object = true) :
    written cast object names (written cast object names s) = written cast object names s ↔
      names = [] := by
  obtain ⟨d, q, -, -, -, -, hwritten⟩ := written_of_accepted h
  rw [hwritten, hwritten, BackGroundAppColorSwitchSettings.mk.injEq]
  simp

theorem loadsCleanly_iff_harmless (hnames : object.bundleNames = some names) :
    LoadsCleanly cast (some object) s ↔ Harmless cast object s := by
  rw [loadsCleanly_of_names hnames]
  have hempty : object.bundleNames = some [] ↔ names = [] := by rw [hnames, Option.some.injEq]
  cases haccepted : accepted cast object with
  | false =>
    have hself := @written_eq_self_iff cast object names s haccepted
    constructor
    · rintro ⟨hrejected, -, -⟩
      obtain ⟨hnone, hnumbers⟩ := hself.mp (hrejected rfl)
      exact ⟨hempty.mpr hnone, fun _ => hnumbers, fun h => by cases haccepted.symm.trans h⟩
    · rintro ⟨hnone, hnumbers, -⟩
      have hsame := hself.mpr ⟨hempty.mp hnone, hnumbers haccepted⟩
      exact ⟨fun _ => hsame, nofun, by rw [hsame, hsame]⟩
  | true =>
    rw [holds_written_iff hnames haccepted, written_written_iff haccepted]
    constructor
    · rintro ⟨-, hholds, hnone⟩
      refine ⟨hempty.mpr hnone, fun h => ?_, fun _ => hholds rfl⟩
      cases haccepted.symm.trans h
    · rintro ⟨hnone, -, hholds⟩
      exact ⟨nofun, fun _ => hholds haccepted, hempty.mp hnone⟩

/-- A document with a list is loaded cleanly if it names nothing and leaves nothing else behind;
any other file is rejected at once. -/
theorem loadsCleanly_iff (cast : FloatCast) (document : Option Json)
    (s : BackGroundAppColorSwitchSettings) :
    LoadsCleanly cast document s ↔ ∀ object, document = some object →
      object.bundleNames.isSome = true → Harmless cast object s := by
  cases document with
  | none =>
    refine iff_of_true ⟨fun _ => rfl, nofun, rfl⟩ ?_
    rintro object ⟨⟩
  | some object =>
    cases hnames : object.bundleNames with
    | none =>
      have hrejected (s : BackGroundAppColorSwitchSettings) :
          s.initializeSettings cast (some object) = (s, .invalidValue) :=
        initializeSettings_of_none hnames
      refine iff_of_true ⟨fun _ => ?_, fun h => ?_, ?_⟩ ?_
      · rw [hrejected]
      · rw [hrejected] at h
        cases h
      · rw [hrejected, hrejected]
      · rintro object' ⟨⟩ hsome
        rw [hnames] at hsome
        cases hsome
    | some names =>
      rw [loadsCleanly_iff_harmless hnames]
      constructor
      · rintro hharmless object' ⟨⟩ -
        exact hharmless
      · intro h
        exact h object rfl (by rw [hnames]; rfl)

/-- A file with one name, loaded twice. -/
theorem oneName_repeated :
    let strategy : Json := .object ((Table.empty.put durationName (.numberUnsigned 100)).put
      perTaskNumberName (.numberUnsigned 5))
    let item : Json := .object (Table.empty.put bundleNameName (.string "notes"))
    let document : Json := .object ((Table.empty.put allowListName (.array [item])).put
      strategyName strategy)
    let first := BackGroundAppColorSwitchSettings.initializeSettings .saturating {} (some document)
    let second := first.1.initializeSettings .saturating (some document)
    first = (⟨true, ["notes"], 5, 100⟩, .ok) ∧ second = (⟨true, ["notes", "notes"], 5, 100⟩, .ok) ∧
      ¬LoadsCleanly .saturating (some document) {} := by
  intro strategy item document first second
  have hfirst : first = (⟨true, ["notes"], 5, 100⟩, .ok) := by decide +kernel
  have hsecond : second = (⟨true, ["notes", "notes"], 5, 100⟩, .ok) := by decide +kernel
  refine ⟨hfirst, hsecond, fun hclean => ?_⟩
  have hagain : second.1 = first.1 := hclean.again
  rw [hfirst, hsecond] at hagain
  exact absurd hagain (by decide)

end Exact

end DocumentLoading
end UiAppearance
