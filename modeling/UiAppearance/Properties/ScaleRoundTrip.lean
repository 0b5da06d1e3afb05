import UiAppearance.Bindings.AniUiAppearance
import UiAppearance.Properties.SetThenGet

/-!
# Scales there and back

A scale leaves as a text with six places and comes back as the number nearest to
that text. Scales of at most half a millionth leave as zero and come back as a
number that is refused. All others come back within the error of the text and
leave, from then on, as the same text.
-/

namespace UiAppearance
namespace ScaleRoundTrip

open BinaryFloat DecimalText JsUiAppearance

variable {strtod : Strtod} {x : ℚ} {n : ℕ}

/-- Half of the last place of a printed scale. -/
def halfPlace : ℚ := 1 / 2 / 10 ^ decimalPlaces

/-- A scale that the bindings accept. -/
def Accepted (x : ℚ) : Prop := minFontScale < x ∧ x ≤ maxFontScale

theorem outOfRange_eq_false_iff : (JsNumber.finite x).outOfRange = false ↔ Accepted x := by
  simp [JsNumber.outOfRange, Accepted]

/-- How many millionths are printed. -/
def millionths (x : ℚ) : ℕ := lastPlaces decimalPlaces x

/-- What the reader of a printed scale gets. -/
def readBack (x : ℚ) : ℚ := double.nearest (millionths x / 10 ^ 6)

theorem abs_sub_millionths_le (hx : 0 ≤ x) : |x - millionths x / 10 ^ 6| ≤ 1 / 2 / 10 ^ 6 :=
  abs_sub_lastPlaces_le hx

theorem millionths_eq (hx : 0 ≤ x) (h : |x - n / 10 ^ 6| < 1 / 2 / 10 ^ 6) : millionths x = n :=
  lastPlaces_eq hx h

theorem millionths_le (hx : Accepted x) : millionths x ≤ 5 * 10 ^ 6 := by
  have hround := abs_le.mp (abs_sub_millionths_le hx.1.le)
  have hbound : (millionths x : ℚ) / 10 ^ 6 ≤ 5 + 1 / 2 / 10 ^ 6 :=
    le_trans (by linarith [hround.1]) (add_le_add_left (show x ≤ 5 from hx.2) _)
  have hlt : (millionths x : ℚ) < (5 * 10 ^ 6 + 1 : ℕ) := by
    rw [div_le_iff₀ (by norm_num)] at hbound
    push_cast
    linarith
  exact Nat.lt_succ_iff.mp (Nat.cast_lt.mp hlt)

/-- A scale of half a millionth is printed as the even number of millionths, which is zero. -/
theorem millionths_eq_zero_iff (hx : 0 < x) : millionths x = 0 ↔ x ≤ halfPlace := by
  have hround := abs_sub_millionths_le hx.le
  constructor
  · intro hzero
    rw [hzero, Nat.cast_zero, zero_div, sub_zero, abs_of_pos hx] at hround
    exact hround
  · intro hsmall
    rcases hsmall.lt_or_eq with hlt | rfl
    · refine millionths_eq hx.le ?_
      rw [Nat.cast_zero, zero_div, sub_zero, abs_of_pos hx]
      exact hlt
    · decide +kernel

theorem holds_five : double.Holds 5 := ⟨5, 0, by decide, by decide, by norm_num⟩

section ReadBack

variable (hn : n ≤ 5 * 10 ^ 6)
include hn

theorem millionths_le_five : (n : ℚ) / 10 ^ 6 ≤ 5 := by
  have hcast : (n : ℚ) ≤ 5 * 10 ^ 6 := by exact_mod_cast hn
  rw [div_le_iff₀ (by norm_num)]
  exact hcast

/-- The error of the reading is far below that of the printing. -/
theorem abs_sub_nearest_millionths_le :
    |(n : ℚ) / 10 ^ 6 - double.nearest (n / 10 ^ 6)| ≤ 1 / 2 ^ 51 := by
  have hlt : |(n : ℚ) / 10 ^ 6| < 2 ^ (3 : ℤ) := by
    rw [abs_of_nonneg (by positivity)]
    exact (millionths_le_five hn).trans_lt (by norm_num)
  calc |(n : ℚ) / 10 ^ 6 - double.nearest (n / 10 ^ 6)| ≤ 2 ^ ((3 : ℤ) - (53 : ℕ)) / 2 :=
        BinaryFormat.abs_sub_nearest_le_half hlt (by decide)
    _ = 1 / 2 ^ 51 := by norm_num

theorem nearest_millionths_le_five : double.nearest ((n : ℚ) / 10 ^ 6) ≤ 5 :=
  BinaryFormat.nearest_le_of_le holds_five (millionths_le_five hn)

theorem nearest_millionths_pos (hpos : 0 < n) : 0 < double.nearest ((n : ℚ) / 10 ^ 6) := by
  have hcast : (1 : ℚ) ≤ n := Nat.one_le_cast.mpr hpos
  have hlarge : 1 / 10 ^ 6 ≤ (n : ℚ) / 10 ^ 6 := by
    rw [div_le_div_iff_of_pos_right (by norm_num)]
    exact hcast
  have hsmall : (1 : ℚ) / 2 ^ 51 < 1 / 10 ^ 6 := by norm_num
  have herror := (abs_le.mp (abs_sub_nearest_millionths_le hn)).2
  linarith

/-- What was read prints as what it was read from. -/
theorem millionths_nearest_millionths (hpos : 0 < n) :
    millionths (double.nearest ((n : ℚ) / 10 ^ 6)) = n := by
  refine millionths_eq (nearest_millionths_pos hn hpos).le ?_
  rw [abs_sub_comm]
  exact (abs_sub_nearest_millionths_le hn).trans_lt (by norm_num)

theorem inDoubleRange_millionths : InDoubleRange ((n : ℚ) / 10 ^ 6) := by
  rcases Nat.eq_zero_or_pos n with rfl | hpos
  · exact .inl (by simp)
  · have hcast : (1 : ℚ) ≤ n := Nat.one_le_cast.mpr hpos
    have hfive : (5 : ℚ) < 2 ^ (1023 : ℤ) := by
      calc (5 : ℚ) < 2 ^ (3 : ℤ) := by norm_num
        _ ≤ 2 ^ (1023 : ℤ) := zpow_le_zpow_right₀ one_le_two (by decide)
    refine .inr ⟨?_, (millionths_le_five hn).trans_lt hfive⟩
    calc (2 : ℚ) ^ (-1022 : ℤ) ≤ 2 ^ (-20 : ℤ) := zpow_le_zpow_right₀ one_le_two (by decide)
      _ ≤ 1 / 10 ^ 6 := by norm_num
      _ ≤ n / 10 ^ 6 := (div_le_div_iff_of_pos_right (by norm_num)).mpr hcast

end ReadBack

theorem stod_accepted (hreads : ReadsDecimals strtod) (hx : Accepted x) :
    stod strtod (JsNumber.finite x).toText = some (some (readBack x)) :=
  stod_toText hreads hx.1.le (inDoubleRange_millionths (millionths_le hx))

theorem abs_sub_readBack_le (hx : Accepted x) : |x - readBack x| ≤ halfPlace + 1 / 2 ^ 51 := by
  calc |x - readBack x| ≤ |x - millionths x / 10 ^ 6| + |millionths x / 10 ^ 6 - readBack x| :=
        abs_sub_le _ _ _
    _ ≤ halfPlace + 1 / 2 ^ 51 :=
        add_le_add (abs_sub_millionths_le hx.1.le)
          (abs_sub_nearest_millionths_le (millionths_le hx))

theorem readBack_of_small (hx : Accepted x) (hsmall : x ≤ halfPlace) : readBack x = 0 := by
  unfold readBack
  rw [(millionths_eq_zero_iff hx.1).mpr hsmall, Nat.cast_zero, zero_div,
    BinaryFormat.nearest_zero]

theorem accepted_readBack (hx : Accepted x) (hlarge : halfPlace < x) : Accepted (readBack x) := by
  have hpos : 0 < millionths x := Nat.pos_of_ne_zero fun hzero =>
    absurd ((millionths_eq_zero_iff hx.1).mp hzero) (not_le.mpr hlarge)
  exact ⟨nearest_millionths_pos (millionths_le hx) hpos,
    nearest_millionths_le_five (millionths_le hx)⟩

theorem toText_readBack (hx : Accepted x) (hlarge : halfPlace < x) :
    (JsNumber.finite (readBack x)).toText = (JsNumber.finite x).toText := by
  have hpos : 0 < millionths x := Nat.pos_of_ne_zero fun hzero =>
    absurd ((millionths_eq_zero_iff hx.1).mp hzero) (not_le.mpr hlarge)
  have hsame : millionths (readBack x) = millionths x :=
    millionths_nearest_millionths (millionths_le hx) hpos
  change String.ofList (printFixed decimalPlaces (readBack x)) =
    String.ofList (printFixed decimalPlaces x)
  rw [printFixed_of_nonneg (accepted_readBack hx hlarge).1.le, printFixed_of_nonneg hx.1.le]
  exact congrArg (fun n => String.ofList (fixedDigits decimalPlaces n)) hsame

/-! ## Through the bindings and the service -/

/-- Nothing of the engine fails, and the caller is a system application. -/
structure Working (napi : NapiEnv) (ani : AniUiAppearance.AniEnv) : Prop where
  getCbInfo : napi.getCbInfo = true
  allocate : napi.allocate = true
  openHandleScope : napi.openHandleScope = true
  callerIsSystemApp : napi.callerIsSystemApp = true
  hasEnv : ani.hasEnv = true
  allocateStatic : ani.allocate = true
  promiseNew : ani.promiseNew = true
  newErrorObject : ani.newErrorObject = true

/-- The two scales. -/
inductive Scale where
  | size
  | weight

def Scale.binding : Scale → FontBinding
  | .size => fontScaleBinding
  | .weight => fontWeightScaleBinding

def Scale.request (text : String) : Scale → Request
  | .size => .setFontScale text
  | .weight => .setFontWeightScale text

section Bindings

variable {napi : NapiEnv} {ani : AniUiAppearance.AniEnv} (h : Working napi ani)
  {client : ClientAnswers} {binding : FontBinding}

include h

/-- The promise of a scale in range is resolved exactly if the client reports a success. -/
theorem jsSetFont_resolved_iff (hx : Accepted x) :
    (jsSetFont napi client binding [.number (.finite x)]).settled = some (.promise, .resolved) ↔
      (client (binding.request (JsNumber.finite x).toText)).funcRes =
        FuncResult.succeeded.toInt := by
  have hrange : (JsNumber.finite x).outOfRange = false := outOfRange_eq_false_iff.mpr hx
  simp [jsSetFont, jsSet, checkFontScaleArgs, checkArgsWith, firstNumber, onSetFont, onComplete,
    h.getCbInfo, h.allocate, h.openHandleScope, h.callerIsSystemApp, hrange]

theorem requests_setFont (x : ℚ) :
    (jsSetFont napi client binding [.number (.finite x)]).requests =
      (if (JsNumber.finite x).outOfRange then []
        else [binding.request (JsNumber.finite x).toText]) ∧
    (AniUiAppearance.setFont ani client binding (.finite x)).requests =
      (if (JsNumber.finite x).outOfRange then []
        else [binding.request (JsNumber.finite x).toText]) := by
  cases hrange : (JsNumber.finite x).outOfRange <;>
    simp [jsSetFont, jsSet, checkFontScaleArgs, checkArgsWith, firstNumber, onSetFont, onComplete,
      AniUiAppearance.setFont, AniUiAppearance.onComplete, h.getCbInfo, h.allocate,
      h.openHandleScope, h.callerIsSystemApp, h.hasEnv, h.allocateStatic, h.promiseNew, hrange]

theorem getFont_of_reply {text : String}
    (hreply : client binding.getter = ⟨FuncResult.succeeded.toInt, some text⟩) {y : ℚ}
    (hread : stod strtod text = some (some y)) :
    jsGetFont client binding strtod [] = .returned (some y) ∧
      AniUiAppearance.getFont ani client binding strtod = ([], .returned (some y)) := by
  have hsys : FuncResult.succeeded.toInt ≠ FuncResult.sysErr.toInt := by decide
  have hpermission : FuncResult.succeeded.toInt ≠ FuncResult.permissionErr.toInt := by decide
  simp [jsGetFont, AniUiAppearance.getFont, AniUiAppearance.getterError, readScale, hreply, hread,
    hsys, hpermission, h.hasEnv]

end Bindings

section Stack

open Service

variable {env env' : Env} {s : Service} {kind : Scale} {text : String} {app : Bool}

theorem answer_request : s.answer env app (kind.binding.request text) =
    (((kind.request text).call env s).1,
      some ⟨((kind.request text).call env s).2.toInt, none⟩) := by
  cases kind <;> rfl

theorem succeeded_of_toInt {result : FuncResult} (h : result.toInt = FuncResult.succeeded.toInt) :
    result = .succeeded := by
  revert h
  cases result <;> decide

/-- A scale that was set is the one that the caller's getter answers with. -/
theorem getter_after (hresult : ((kind.request text).call env s).2 = .succeeded)
    (htarget : getCallingAccountContext env ∈ (kind.request text).targets env)
    (hcaller : getCallingAccountContext env' = getCallingAccountContext env) :
    (((kind.request text).call env s).1).clientAnswers env' app kind.binding.getter =
      ⟨FuncResult.succeeded.toInt, some text⟩ := by
  obtain ⟨hadmitted, hwrites⟩ := ((kind.request text).succeeded_iff env s).mp hresult
  have hassigned := (kind.request text).assigned_call env s
  unfold Request.reached at hassigned
  rw [if_pos hadmitted, reachedContexts_of_all hwrites] at hassigned
  have hentry := hassigned.entries _ htarget
  rw [← hcaller] at hentry
  cases kind with
  | size =>
    have hgot : getFontScale env' (((Scale.size.request text).call env s).1) = text :=
      SetThenGet.got_of_assigned (r := .setFontScale text) hentry
    exact congrArg (fun text => (⟨_, some text⟩ : ClientReply)) hgot
  | weight =>
    have hgot : getFontWeightScale env' (((Scale.weight.request text).call env s).1) = text :=
      SetThenGet.got_of_assigned (r := .setFontWeightScale text) hentry
    exact congrArg (fun text => (⟨_, some text⟩ : ClientReply)) hgot

/-- A scale that a script sets with success comes back, through either binding, as a number within
the error of six places; setting that number sends the same text again, through either binding,
unless the scale was at most half a millionth, where it is refused. -/
theorem scale_there_and_back (hreads : ReadsDecimals strtod) {napi : NapiEnv}
    {ani : AniUiAppearance.AniEnv} (hworking : Working napi ani) (hx : Accepted x)
    (htarget : getCallingAccountContext env ∈
      (kind.request (JsNumber.finite x).toText).targets env)
    (hcaller : getCallingAccountContext env' = getCallingAccountContext env)
    (hset : (jsSetFont napi (s.clientAnswers env app) kind.binding
      [.number (.finite x)]).settled = some (.promise, .resolved)) :
    let sent := kind.binding.request (JsNumber.finite x).toText
    let after := (s.answer env app sent).1.clientAnswers env' app
    ∃ y, jsGetFont after kind.binding strtod [] = .returned (some y) ∧
      AniUiAppearance.getFont ani after kind.binding strtod = ([], .returned (some y)) ∧
      |x - y| ≤ halfPlace + 1 / 2 ^ 51 ∧
      ∀ client,
        (jsSetFont napi client kind.binding [.number (.finite y)]).requests =
          (if halfPlace < x then [sent] else []) ∧
        (AniUiAppearance.setFont ani client kind.binding (.finite y)).requests =
          (if halfPlace < x then [sent] else []) := by
  intro sent after
  have hresult : ((kind.request (JsNumber.finite x).toText).call env s).2 = .succeeded := by
    have hreported := (jsSetFont_resolved_iff hworking hx).mp hset
    unfold clientAnswers at hreported
    rw [answer_request] at hreported
    exact succeeded_of_toInt hreported
  have hreply : after kind.binding.getter =
      ⟨FuncResult.succeeded.toInt, some (JsNumber.finite x).toText⟩ := by
    unfold after sent
    rw [answer_request]
    exact getter_after hresult htarget hcaller
  obtain ⟨hjs, hani⟩ := getFont_of_reply hworking hreply (stod_accepted hreads hx)
  refine ⟨readBack x, hjs, hani, abs_sub_readBack_le hx, fun client => ?_⟩
  by_cases hlarge : halfPlace < x
  · have hrange : (JsNumber.finite (readBack x)).outOfRange = false :=
      outOfRange_eq_false_iff.mpr (accepted_readBack hx hlarge)
    obtain ⟨hjsSent, haniSent⟩ := @requests_setFont _ _ hworking client kind.binding (readBack x)
    rw [hjsSent, haniSent, hrange, toText_readBack hx hlarge, if_pos hlarge,
      if_neg Bool.false_ne_true]
    exact ⟨rfl, rfl⟩
  · have hrange : (JsNumber.finite (readBack x)).outOfRange = true := by
      rw [readBack_of_small hx (not_lt.mp hlarge)]
      decide
    obtain ⟨hjsSent, haniSent⟩ := @requests_setFont _ _ hworking client kind.binding (readBack x)
    rw [hjsSent, haniSent, hrange, if_neg hlarge, if_pos rfl]
    exact ⟨rfl, rfl⟩

open Scenario

def workingNapi : NapiEnv where
  getCbInfo := true
  allocate := true
  createReference := true
  openHandleScope := true
  callerIsSystemApp := true
  getValueInt32 _ := 0

def workingAni : AniUiAppearance.AniEnv where
  hasEnv := true
  allocate := true
  promiseNew := true
  newErrorObject := true
  findEnum := true

theorem scale_there_and_back_quarters :
    let after := (({} : Service).answer noon true (.setFontScale "1.250000")).1.clientAnswers
      noon true
    ∃ y, jsGetFontScale after nearestStrtod [] = .returned (some y) ∧
      |5 / 4 - y| ≤ halfPlace + 1 / 2 ^ 51 ∧
      (AniUiAppearance.setFontScale workingAni after (.finite y)).requests =
        [.setFontScale "1.250000"] := by
  have hworking : Working workingNapi workingAni := ⟨rfl, rfl, rfl, rfl, rfl, rfl, rfl, rfl⟩
  have haccepted : Accepted (5 / 4) := ⟨by decide +kernel, by decide +kernel⟩
  have hset : (jsSetFont workingNapi (({} : Service).clientAnswers noon true) Scale.size.binding
      [.number (.finite (5 / 4))]).settled = some (.promise, .resolved) := by decide +kernel
  have hlarge : halfPlace < 5 / 4 := by decide +kernel
  have htext : (JsNumber.finite (5 / 4)).toText = "1.250000" := by decide +kernel
  obtain ⟨y, hjs, -, herror, hsent⟩ := scale_there_and_back nearestStrtod_readsDecimals
    hworking haccepted (List.mem_singleton.mpr rfl) rfl hset
  rw [htext] at hjs
  refine ⟨y, hjs, herror, (hsent _).2.trans ?_⟩
  rw [if_pos hlarge, htext]
  rfl

end Stack

end ScaleRoundTrip
end UiAppearance
