import UiAppearance.DarkMode.State
import UiAppearance.Foundations.Transition

/-!
# The client of the ability

One client serves all threads of an application. It keeps a proxy of the
service, made on demand and made anew when the service dies. Each call asks for
the proxy twice, first to check it and then to use it, and takes the lock each
time, so that other calls and notices of death run in between.

Instances of the service are numbered in the order in which they start. What the
platform answers is part of an event. A death recipient is registered only with
an instance that still runs, and only such an instance replies; both fail on a
dead one.
-/

namespace UiAppearance

/-- `UiAppearanceAbilityErrCode` as it crosses the process boundary. -/
def FuncResult.toInt : FuncResult → ℤ
  | .succeeded => 0
  | .permissionErr => 201
  | .notSystemApp => 202
  | .invalidArg => 401
  | .sysErr => 500001

/-- The methods of the client, with their arguments. -/
inductive ClientRequest where
  | setDarkMode (mode : ℤ)
  | getDarkMode
  | setFontScale (fontScale : String)
  | getFontScale
  | setFontWeightScale (fontWeightScale : String)
  | getFontWeightScale
  | setSettingData (key value : String)
  deriving DecidableEq

/-- `funcRes` and, of the methods that have one, the out parameter. -/
structure ClientReply where
  funcRes : ℤ
  data : Option String
  deriving DecidableEq

/-- What a call does next, or how it ended. -/
inductive ClientPhase where
  | checkProxy
  | useProxy
  | awaitReply (ability : ℕ)
  | returned (reply : ClientReply)
  | nullDereference
  deriving DecidableEq

/-- What the platform has for `CreateUiAppearanceServiceProxy`. -/
structure ProxyAnswer where
  systemAbilityManager : Bool
  systemAbility : Option ℕ
  ifaceCast : Bool
  deriving DecidableEq

/-- A request that was sent, and what came back when anything did. -/
structure Exchange where
  caller : ℕ
  ability : ℕ
  request : ClientRequest
  reply : Option ClientReply
  deriving DecidableEq

inductive ClientEvent where
  | getInstance (answer : ProxyAnswer)
  | abilityStarts
  | abilityDies
  | onRemoteDied (ability : ℕ) (answer : ProxyAnswer)
  | call (caller : ℕ) (request : ClientRequest)
  | proceed (caller : ℕ) (answer : ProxyAnswer) (reply : Option ClientReply)
  deriving DecidableEq

/-- The client with its calls, and the part of the platform it depends on: the recipients
registered with the running instance and the notices of death not yet handled. -/
structure ClientSystem where
  started : ℕ
  running : Option ℕ
  recipients : List ℕ
  notices : List ℕ
  constructed : Bool
  uiAppearanceServiceProxy : Option ℕ
  calls : Table ℕ (ClientRequest × ClientPhase)
  exchanges : List Exchange

namespace ClientSystem

/-- Before `GetInstance` was called, with this instance running. -/
def beforeConstruction (running : Option ℕ) : ClientSystem where
  started := running.elim 0 Nat.succ
  running := running
  recipients := []
  notices := []
  constructed := false
  uiAppearanceServiceProxy := none
  calls := Table.empty
  exchanges := []

variable (s : ClientSystem)

def addDeathRecipient (ability : ℕ) : ClientSystem :=
  if s.running = some ability then { s with recipients := s.recipients ++ [ability] } else s

/-- The result of `AddDeathRecipient` is not looked at. -/
def createUiAppearanceServiceProxy (answer : ProxyAnswer) : ClientSystem × Option ℕ :=
  if !answer.systemAbilityManager then (s, none)
  else
    match answer.systemAbility with
    | none => (s, none)
    | some ability =>
      (s.addDeathRecipient ability, if !answer.ifaceCast then none else some ability)

def setProxy (r : ClientSystem × Option ℕ) : ClientSystem :=
  { r.1 with uiAppearanceServiceProxy := r.2 }

def getUiAppearanceServiceProxy (answer : ProxyAnswer) : ClientSystem :=
  if s.uiAppearanceServiceProxy = none then setProxy (s.createUiAppearanceServiceProxy answer)
  else s

def onRemoteSaDied (answer : ProxyAnswer) : ClientSystem :=
  setProxy (s.createUiAppearanceServiceProxy answer)

def setPhase (caller : ℕ) (request : ClientRequest) (phase : ClientPhase) : ClientSystem :=
  { s with calls := s.calls.put caller (request, phase) }

/-- What a call makes of the reply: `res != ERR_OK` when there is none. -/
def resultOf : Option ClientReply → ClientReply
  | none => ⟨FuncResult.sysErr.toInt, none⟩
  | some reply => reply

/-- A request to an instance that is gone gets no reply. -/
def send (caller ability : ℕ) (request : ClientRequest) (reply : Option ClientReply) :
    ClientSystem :=
  let received := if s.running = some ability then reply else none
  { s.setPhase caller request (.returned (resultOf received)) with
    exchanges := s.exchanges ++ [⟨caller, ability, request, received⟩] }

def proceed (caller : ℕ) (answer : ProxyAnswer) (reply : Option ClientReply)
    (request : ClientRequest) : ClientPhase → ClientSystem
  | .checkProxy =>
    let s' := s.getUiAppearanceServiceProxy answer
    s'.setPhase caller request
      (if s'.uiAppearanceServiceProxy = none then .returned (resultOf none) else .useProxy)
  | .useProxy =>
    let s' := s.getUiAppearanceServiceProxy answer
    s'.setPhase caller request
      (match s'.uiAppearanceServiceProxy with
        | none => .nullDereference
        | some ability => .awaitReply ability)
  | .awaitReply ability => s.send caller ability request reply
  | .returned _ => s
  | .nullDereference => s

def next : ClientEvent → ClientSystem
  | .getInstance answer =>
    if s.constructed then s
    else { s.getUiAppearanceServiceProxy answer with constructed := true }
  | .abilityStarts =>
    if s.running = none then { s with running := some s.started, started := s.started + 1 } else s
  | .abilityDies =>
    { s with running := none, recipients := [], notices := s.notices ++ s.recipients }
  | .onRemoteDied ability answer =>
    if ability ∈ s.notices then
      { s with notices := s.notices.erase ability }.onRemoteSaDied answer
    else s
  | .call caller request =>
    if s.constructed ∧ s.calls caller = none then s.setPhase caller request .checkProxy else s
  | .proceed caller answer reply =>
    match s.calls caller with
    | none => s
    | some (request, phase) => s.proceed caller answer reply request phase

end ClientSystem

namespace ClientEvent

/-- The platform's answer, of the events that may ask for a proxy. -/
def answer : ClientEvent → Option ProxyAnswer
  | getInstance answer => some answer
  | onRemoteDied _ answer => some answer
  | proceed _ answer _ => some answer
  | abilityStarts => none
  | abilityDies => none
  | call _ _ => none

/-- The caller whose call an event carries on. -/
def caller : ClientEvent → Option ℕ
  | call caller _ => some caller
  | proceed caller _ _ => some caller
  | getInstance _ => none
  | abilityStarts => none
  | abilityDies => none
  | onRemoteDied _ _ => none

end ClientEvent

namespace ClientSystem

variable (s : ClientSystem) (caller : ℕ)

/-! ## The methods of the client -/

def setDarkMode (mode : ℤ) : ClientSystem := s.next (.call caller (.setDarkMode mode))

def getDarkMode : ClientSystem := s.next (.call caller .getDarkMode)

def setFontScale (fontScale : String) : ClientSystem :=
  s.next (.call caller (.setFontScale fontScale))

def getFontScale : ClientSystem := s.next (.call caller .getFontScale)

def setFontWeightScale (fontWeightScale : String) : ClientSystem :=
  s.next (.call caller (.setFontWeightScale fontWeightScale))

def getFontWeightScale : ClientSystem := s.next (.call caller .getFontWeightScale)

def setSettingData (key value : String) : ClientSystem :=
  s.next (.call caller (.setSettingData key value))

/-! ## What making a proxy does -/

/-- The instance a proxy is made for, whether or not the cast succeeds. -/
def answered (answer : ProxyAnswer) : Option ℕ :=
  if answer.systemAbilityManager then answer.systemAbility else none

/-- The proxy that is made, if one is. -/
def made (answer : ProxyAnswer) : Option ℕ :=
  if answer.ifaceCast then answered answer else none

/-- The recipients that making a proxy registers. -/
def registered (answer : ProxyAnswer) : List ℕ :=
  (answered answer).toList.filter fun ability => s.running = some ability

variable {s caller} {answer : ProxyAnswer} {reply : Option ClientReply} {request : ClientRequest}

theorem addDeathRecipient_eq (ability : ℕ) : s.addDeathRecipient ability =
    { s with recipients := s.recipients ++ [ability].filter fun a => s.running = some a } := by
  by_cases hrunning : s.running = some ability
  · simp [addDeathRecipient, hrunning]
  · simp [addDeathRecipient, hrunning]

/-- Making a proxy registers at most one recipient, whether or not a proxy comes of it. -/
theorem create_eq : s.createUiAppearanceServiceProxy answer =
    ({ s with recipients := s.recipients ++ s.registered answer }, made answer) := by
  have hkeep : ({ s with recipients := s.recipients ++ [] } : ClientSystem) = s := by
    rw [List.append_nil]
  obtain ⟨manager, ability, cast⟩ := answer
  cases manager with
  | false => exact Prod.ext hkeep.symm (by cases cast <;> rfl)
  | true =>
    cases ability with
    | none => exact Prod.ext hkeep.symm (by cases cast <;> rfl)
    | some ability =>
      unfold createUiAppearanceServiceProxy
      dsimp only
      rw [addDeathRecipient_eq]
      cases cast <;> rfl

/-- A new proxy in place of the one there was. -/
theorem onRemoteSaDied_eq : s.onRemoteSaDied answer =
    { s with
      recipients := s.recipients ++ s.registered answer
      uiAppearanceServiceProxy := made answer } := by
  unfold onRemoteSaDied
  rw [create_eq]
  rfl

theorem getUiAppearanceServiceProxy_of_some {ability : ℕ}
    (h : s.uiAppearanceServiceProxy = some ability) : s.getUiAppearanceServiceProxy answer = s := by
  unfold getUiAppearanceServiceProxy
  rw [h, if_neg (Option.some_ne_none ability)]

theorem getUiAppearanceServiceProxy_of_none (h : s.uiAppearanceServiceProxy = none) :
    s.getUiAppearanceServiceProxy answer = s.onRemoteSaDied answer := by
  unfold getUiAppearanceServiceProxy
  rw [if_pos h]
  rfl

/-- What holds of the proxy that was there and of the one made for want of it holds after. -/
theorem getUiAppearanceServiceProxy_induction {P : ClientSystem → Prop} (hold : P s)
    (hmade : s.uiAppearanceServiceProxy = none → P (s.onRemoteSaDied answer)) :
    P (s.getUiAppearanceServiceProxy answer) := by
  cases h : s.uiAppearanceServiceProxy with
  | none =>
    rw [getUiAppearanceServiceProxy_of_none h]
    exact hmade h
  | some ability =>
    rw [getUiAppearanceServiceProxy_of_some h]
    exact hold

theorem proceed_checkProxy_of_some {ability : ℕ}
    (h : (s.getUiAppearanceServiceProxy answer).uiAppearanceServiceProxy = some ability) :
    s.proceed caller answer reply request .checkProxy =
      (s.getUiAppearanceServiceProxy answer).setPhase caller request .useProxy := by
  unfold proceed
  dsimp only
  rw [h, if_neg (Option.some_ne_none ability)]

theorem proceed_useProxy_of_some {ability : ℕ}
    (h : (s.getUiAppearanceServiceProxy answer).uiAppearanceServiceProxy = some ability) :
    s.proceed caller answer reply request .useProxy =
      (s.getUiAppearanceServiceProxy answer).setPhase caller request (.awaitReply ability) := by
  unfold proceed
  dsimp only
  rw [h]

/-! ## What each step leaves alone -/

/-- The requests a caller has sent. -/
def sent (s : ClientSystem) (caller : ℕ) : List Exchange :=
  s.exchanges.filter fun exchange => exchange.caller = caller

@[simp] theorem calls_getUiAppearanceServiceProxy :
    (s.getUiAppearanceServiceProxy answer).calls = s.calls :=
  getUiAppearanceServiceProxy_induction (P := fun t => t.calls = s.calls) rfl fun _ => by
    rw [onRemoteSaDied_eq]

@[simp] theorem running_getUiAppearanceServiceProxy :
    (s.getUiAppearanceServiceProxy answer).running = s.running :=
  getUiAppearanceServiceProxy_induction (P := fun t => t.running = s.running) rfl fun _ => by
    rw [onRemoteSaDied_eq]

@[simp] theorem exchanges_getUiAppearanceServiceProxy :
    (s.getUiAppearanceServiceProxy answer).exchanges = s.exchanges :=
  getUiAppearanceServiceProxy_induction (P := fun t => t.exchanges = s.exchanges) rfl fun _ => by
    rw [onRemoteSaDied_eq]

theorem next_proceed {phase : ClientPhase} (h : s.calls caller = some (request, phase)) :
    s.next (.proceed caller answer reply) = s.proceed caller answer reply request phase := by
  unfold next
  dsimp only
  rw [h]

theorem calls_setPhase_of_ne {other : ℕ} {phase : ClientPhase} (h : caller ≠ other) :
    (s.setPhase other request phase).calls caller = s.calls caller := Table.put_of_ne h

/-- A call is changed by its own steps only, and so are the requests it has sent. -/
theorem call_next_of_ne {e : ClientEvent} (h : e.caller ≠ some caller) :
    (s.next e).calls caller = s.calls caller ∧ (s.next e).sent caller = s.sent caller := by
  cases e with
  | getInstance answer =>
    unfold next sent
    dsimp only
    split_ifs
    · exact ⟨rfl, rfl⟩
    · simp
  | abilityStarts =>
    unfold next
    dsimp only
    split_ifs
    · exact ⟨rfl, rfl⟩
    · exact ⟨rfl, rfl⟩
  | abilityDies => exact ⟨rfl, rfl⟩
  | onRemoteDied ability answer =>
    unfold next sent
    dsimp only
    split_ifs
    · rw [onRemoteSaDied_eq]
      exact ⟨rfl, rfl⟩
    · exact ⟨rfl, rfl⟩
  | call other request =>
    have hother : caller ≠ other := fun hsame => h (congrArg some hsame.symm)
    unfold next
    dsimp only
    split_ifs
    · exact ⟨calls_setPhase_of_ne hother, rfl⟩
    · exact ⟨rfl, rfl⟩
  | proceed other answer reply =>
    have hother : caller ≠ other := fun hsame => h (congrArg some hsame.symm)
    cases hcall : s.calls other with
    | none =>
      unfold next
      dsimp only
      rw [hcall]
      exact ⟨rfl, rfl⟩
    | some p =>
      obtain ⟨request, phase⟩ := p
      rw [next_proceed hcall]
      unfold proceed
      cases phase with
      | checkProxy =>
        refine ⟨(calls_setPhase_of_ne hother).trans ?_, ?_⟩
        · rw [calls_getUiAppearanceServiceProxy]
        · exact congrArg (List.filter _) exchanges_getUiAppearanceServiceProxy
      | useProxy =>
        refine ⟨(calls_setPhase_of_ne hother).trans ?_, ?_⟩
        · rw [calls_getUiAppearanceServiceProxy]
        · exact congrArg (List.filter _) exchanges_getUiAppearanceServiceProxy
      | awaitReply ability =>
        refine ⟨calls_setPhase_of_ne hother, ?_⟩
        unfold send sent
        rw [List.filter_append, List.filter_cons_of_neg (by simpa using Ne.symm hother)]
        simp
      | returned reply => exact ⟨rfl, rfl⟩
      | nullDereference => exact ⟨rfl, rfl⟩

end ClientSystem
end UiAppearance
