import UiAppearance.Ability.Events
import UiAppearance.DarkMode.Simulation
import UiAppearance.DarkMode.Interleaving
import UiAppearance.Foundations.ThreadPool

/-!
# Handing a switch over at screen-off

Timer callbacks leave a colour for the screen to go off, and callbacks of the
screen take it. Both sides look at the other's cell before they act. A switch
is lost when a timer sees the screen on, the screen goes off and finds nothing,
and only then the operation is set; or when it is set between a screen-off's
read and its reset.
-/

namespace UiAppearance
namespace HandOver

open Transition Scenario

/-- A call of `UpdateDarkModeSchedule`; `mark` counts the decisions made before it. -/
structure Call where
  isDarkMode : Bool
  context : AccountContext
  mark : ℕ
  deriving DecidableEq

inductive Thread where
  | screenOff (phase : ScreenOffPhase)
  | timer (isDarkMode : Bool) (context : AccountContext)
  | update (call : Call) (phase : UpdatePhase)
  | done
  deriving DecidableEq

/-- The service, and the call of `UpdateDarkModeSchedule` begun last. -/
structure Board where
  service : Service
  newest : Option Call

def Thread.ofScreenOff : Option ScreenOffPhase → Thread
  | none => .done
  | some phase => .screenOff phase

def Thread.ofUpdate (call : Call) : Option UpdatePhase → Thread
  | none => .done
  | some phase => .update call phase

/-- One atomic step of a thread. A timer begins its call with the reset of the operation. -/
def act (env : Env) (b : Board) : Thread → Option (Board × Thread)
  | .screenOff phase =>
    let r := b.service.screenOffStep env phase
    some ({ b with service := r.1 }, .ofScreenOff r.2)
  | .timer isDarkMode context =>
    let call : Call := ⟨isDarkMode, context, b.service.core.decisions.length⟩
    let r := b.service.updateStep env (.ofColor isDarkMode) context .resetScreenOffOperateInfo
    some (⟨r.1, some call⟩, .ofUpdate call r.2)
  | .update call phase =>
    let r := b.service.updateStep env (.ofColor call.isDarkMode) call.context phase
    some ({ b with service := r.1 }, .ofUpdate call r.2)
  | .done => none

abbrev State := Pool Board Thread

def start (s : Service) (threads : List Thread) : State := ⟨⟨s, none⟩, threads⟩

def Thread.initial : Thread → Bool
  | .screenOff .setScreenOff => true
  | .timer .. => true
  | _ => false

/-- A call of the update callback with the colour and the account of `c`. -/
def Call.passedBy (c : Call) : Effect → Bool
  | .updateCallback isDarkMode context =>
    isDarkMode = c.isDarkMode && context.userId = c.context.userId
  | _ => false

/-- The colour of the call has reached the update callback since the call began. -/
def Call.Passed (c : Call) (decisions : List Effect) : Prop :=
  ∃ effect ∈ decisions.take (decisions.length - c.mark), c.passedBy effect = true

instance (c : Call) (decisions : List Effect) : Decidable (c.Passed decisions) :=
  inferInstanceAs (Decidable (∃ effect ∈ _, _))

/-- The thread still carries the colour of the call: it executes the call, or it has read the
operation that the call left. -/
def Thread.carries (c : Call) : Thread → Bool
  | .update call _ => call = c
  | .screenOff (.onChangeDarkMode switchToDark userId) =>
    switchToDark = c.isDarkMode && userId = c.context.userId
  | _ => false

/-- A screen-off callback that has yet to read the operation. -/
def Thread.catches : Thread → Bool
  | .screenOff .setScreenOff => true
  | .screenOff .haveScreenOffOperate => true
  | .screenOff .getScreenOffOperateInfo => true
  | _ => false

/-- A screen-off callback that has read an operation and not yet reset it. -/
def Thread.hasRead : Thread → Bool
  | .screenOff (.onChangeDarkMode ..) => true
  | .screenOff .resetScreenOffOperateInfo => true
  | _ => false

/-- The call is not over, or its colour is on the way or has arrived. -/
def Carried (p : State) (c : Call) : Prop :=
  (∃ t ∈ p.threads, t.carries c = true) ∨ c.Passed p.shared.service.core.decisions

instance (p : State) (c : Call) : Decidable (Carried p c) :=
  inferInstanceAs (Decidable ((∃ t ∈ p.threads, _) ∨ _))

/-- An operation set now is read before it is reset, now or when the screen goes off. -/
def Caught (p : State) : Prop :=
  (∀ t ∈ p.threads, t.hasRead = false) ∧
    (p.shared.service.screenSwitchOperatorMgr.isScreenOff = false ∨
      ∃ t ∈ p.threads, t.catches = true)

instance (p : State) : Decidable (Caught p) := inferInstanceAs (Decidable (_ ∧ (_ ∨ _)))

/-- The call that a thread executes. -/
def Thread.call : Thread → Option Call
  | .update call _ => some call
  | _ => none

/-- The call whose operation a thread is about to set. -/
def Thread.sets : Thread → Option Call
  | .update call .setScreenOffOperateInfo => some call
  | _ => none

/-- No override is active when a call looks for one. -/
def NoOverride (p : State) (e : ℕ × Env) : Prop :=
  ∀ t ∈ p.threads[e.1]?, ∀ call ∈ t.call,
    p.shared.service.followsSchedule e.2 call.context = true

instance (p : State) (e : ℕ × Env) : Decidable (NoOverride p e) :=
  inferInstanceAs (Decidable (∀ t ∈ p.threads[e.1]?, ∀ call ∈ t.call, _ = true))

/-- The newest call sets its operation only when it will be read, and an older one sets no
other operation over one the newest has left. -/
def SetInTime (p : State) (e : ℕ × Env) : Prop :=
  ∀ t ∈ p.threads[e.1]?, ∀ call ∈ t.sets, ∀ c ∈ p.shared.newest,
    if c = call then Caught p
    else Carried p c ∨ (call.isDarkMode, call.context.userId) = (c.isDarkMode, c.context.userId)

instance (p : State) (e : ℕ × Env) : Decidable (SetInTime p e) :=
  inferInstanceAs (Decidable (∀ t ∈ p.threads[e.1]?, ∀ call ∈ t.sets, ∀ c ∈ p.shared.newest,
    if c = call then Caught p else Carried p c ∨ _ = _))

/-- The operation of the call is set and will be read. -/
def Waiting (p : State) (c : Call) : Prop :=
  p.shared.service.core.screen.screenOffOperator = .ofColor c.isDarkMode ∧
    p.shared.service.core.screen.userId = c.context.userId ∧ Caught p

/-- What holds between any two steps. -/
structure Safe (p : State) : Prop where
  callback : p.shared.service.core.hasUpdateCallback = true
  begun : ∀ call, Thread.update call .resetScreenOffOperateInfo ∉ p.threads
  mark : ∀ c ∈ p.shared.newest, c.mark ≤ p.shared.service.core.decisions.length
  newest : ∀ c ∈ p.shared.newest, Carried p c ∨ Waiting p c

section Passed

variable {c : Call} {decisions : List Effect}

theorem Call.Passed.append (h : c.Passed decisions) (new : List Effect) :
    c.Passed (new ++ decisions) := by
  obtain ⟨effect, hmem, hpassed⟩ := h
  refine ⟨effect, ?_, hpassed⟩
  have hcount : (new ++ decisions).length - c.mark - new.length = decisions.length - c.mark := by
    rw [List.length_append]
    omega
  rw [List.take_append, hcount]
  exact List.mem_append_right _ hmem

theorem Call.Passed.of_head {effect : Effect} (hmark : c.mark ≤ decisions.length)
    (h : c.passedBy effect = true) : c.Passed (effect :: decisions) := by
  refine ⟨effect, ?_, h⟩
  have hcount : (effect :: decisions).length - c.mark = decisions.length - c.mark + 1 := by
    rw [List.length_cons]
    omega
  rw [hcount, List.take_succ_cons]
  exact List.mem_cons_self

end Passed

section Moves

variable {p : State} {i : ℕ} {t t' : Thread} {s' : Service} {c : Call}

/-- The pool after one thread has moved; no call has begun. -/
def moved (p : State) (i : ℕ) (s' : Service) (t' : Thread) : State :=
  ⟨{ p.shared with service := s' }, p.threads.set i t'⟩

theorem carried_moved (ht : p.threads[i]? = some t) {l : List Effect}
    (hgrow : s'.core.decisions = l ++ p.shared.service.core.decisions)
    (hmove : t.carries c = true → t'.carries c = true ∨ c.Passed s'.core.decisions)
    (h : Carried p c) : Carried (moved p i s' t') c := by
  rcases h with h | h
  · by_cases hpassed : c.Passed s'.core.decisions
    · exact .inr hpassed
    · exact .inl (Pool.exists_mem_set ht (fun hc => (hmove hc).resolve_right hpassed) h)
  · right
    change c.Passed s'.core.decisions
    rw [hgrow]
    exact h.append l

theorem caught_moved (ht : p.threads[i]? = some t)
    (hoff : s'.core.screen.screenSwitch = p.shared.service.core.screen.screenSwitch)
    (hread : t'.hasRead = false) (hmove : t.catches = true → t'.catches = true)
    (h : Caught p) : Caught (moved p i s' t') := by
  constructor
  · intro u hu
    rcases List.mem_or_eq_of_mem_set hu with hold | rfl
    · exact h.1 u hold
    · exact hread
  · rcases h.2 with hon | hcatch
    · left
      change (decide (s'.core.screen.screenSwitch = .screenOff)) = false
      rw [hoff]
      exact hon
    · exact .inr (Pool.exists_mem_set ht hmove hcatch)

/-- A move is safe when it keeps the callback, calls nothing back to its beginning and loses
neither a carried nor a waiting colour. -/
theorem Safe.moved (hp : Safe p) {l : List Effect}
    (hcallback : s'.core.hasUpdateCallback = p.shared.service.core.hasUpdateCallback)
    (hbegun : ∀ call, t' ≠ .update call .resetScreenOffOperateInfo)
    (hgrow : s'.core.decisions = l ++ p.shared.service.core.decisions)
    (hnewest : ∀ c ∈ p.shared.newest, Carried p c ∨ Waiting p c →
      Carried (moved p i s' t') c ∨ Waiting (moved p i s' t') c) :
    Safe (moved p i s' t') := by
  refine ⟨hcallback.trans hp.callback, ?_, ?_, fun c hc => hnewest c hc (hp.newest c hc)⟩
  · intro call hcall
    rcases List.mem_or_eq_of_mem_set hcall with hold | hnew
    · exact hp.begun call hold
    · exact hbegun call hnew.symm
  · intro c hc
    change c.mark ≤ s'.core.decisions.length
    rw [hgrow, List.length_append]
    have hmark := hp.mark c hc
    omega

theorem Safe.not_waiting (ht : p.threads[i]? = some t) (hread : t.hasRead = true) :
    ¬Waiting p c := by
  rintro ⟨-, -, hnone, -⟩
  have hfalse := hnone t (List.mem_of_getElem? ht)
  rw [hread] at hfalse
  cases hfalse

theorem safe_setScreenOff (hp : Safe p) (ht : p.threads[i]? = some (.screenOff .setScreenOff)) :
    Safe (moved p i p.shared.service.setScreenOff (.screenOff .haveScreenOffOperate)) := by
  refine hp.moved (l := []) rfl (fun _ => nofun) rfl ?_
  rintro c - (hcarried | ⟨hoperator, huser, hcaught⟩)
  · left
    exact carried_moved ht (l := []) rfl nofun hcarried
  · refine .inr ⟨hoperator, huser, ?_, .inr ⟨_, Pool.mem_set_self ht, rfl⟩⟩
    intro u hu
    rcases List.mem_or_eq_of_mem_set hu with hold | rfl
    · exact hcaught.1 u hold
    · rfl

/-- A waiting operation is there to be found. -/
theorem safe_haveScreenOffOperate (env : Env) (hp : Safe p)
    (ht : p.threads[i]? = some (.screenOff .haveScreenOffOperate)) :
    Safe (moved p i p.shared.service (.ofScreenOff
      (p.shared.service.screenOffStep env .haveScreenOffOperate).2)) := by
  have hnext : (p.shared.service.screenOffStep env .haveScreenOffOperate).2 =
      if p.shared.service.core.screen.haveScreenOffOperate then some .getScreenOffOperateInfo
      else none := rfl
  rw [hnext]
  refine hp.moved (l := []) rfl ?_ rfl ?_
  · intro call
    split_ifs <;> rintro ⟨⟩
  · rintro c - (hcarried | ⟨hoperator, huser, hcaught⟩)
    · left
      exact carried_moved ht (l := []) rfl nofun hcarried
    · right
      have hhave : p.shared.service.core.screen.haveScreenOffOperate = true := by
        unfold ScreenSwitchOperatorManager.haveScreenOffOperate
        rw [hoperator]
        cases c.isDarkMode <;> rfl
      rw [if_pos hhave]
      exact ⟨hoperator, huser, caught_moved ht rfl rfl (fun _ => rfl) hcaught⟩

/-- Whoever reads a waiting operation carries it. -/
theorem safe_getScreenOffOperateInfo (hp : Safe p)
    (ht : p.threads[i]? = some (.screenOff .getScreenOffOperateInfo)) :
    Safe (moved p i p.shared.service (.screenOff (.onChangeDarkMode
      p.shared.service.core.screen.getScreenOffOperateInfo.1
      p.shared.service.core.screen.getScreenOffOperateInfo.2))) := by
  refine hp.moved (l := []) rfl (fun _ => nofun) rfl ?_
  rintro c - (hcarried | ⟨hoperator, huser, -⟩)
  · left
    exact carried_moved ht (l := []) rfl nofun hcarried
  · refine .inl (.inl ⟨_, Pool.mem_set_self ht, ?_⟩)
    unfold ScreenSwitchOperatorManager.getScreenOffOperateInfo
    rw [hoperator, huser]
    cases hdark : c.isDarkMode <;> simp [Thread.carries, ScreenOffOperateType.ofColor, hdark]

theorem safe_screenOffChange {switchToDark : Bool} {userId : ℤ} (hp : Safe p)
    (ht : p.threads[i]? = some (.screenOff (.onChangeDarkMode switchToDark userId)))
    (hcore : s'.core = p.shared.service.core.change switchToDark (.createBaseContext userId)) :
    Safe (moved p i s' (.screenOff .resetScreenOffOperateInfo)) := by
  have hgrow : s'.core.decisions =
      [.updateCallback switchToDark (.createBaseContext userId)] ++
        p.shared.service.core.decisions := by
    rw [hcore, Core.decisions_change _ _ _ hp.callback]
    rfl
  refine hp.moved ?_ (fun _ => nofun) hgrow ?_
  · rw [hcore, Core.hasUpdateCallback_change]
  · rintro c hc (hcarried | hwaiting)
    · left
      apply carried_moved ht hgrow _ hcarried
      intro hcarries
      right
      rw [hgrow]
      exact .of_head (hp.mark c hc) hcarries
    · exact absurd hwaiting (Safe.not_waiting ht rfl)

theorem safe_resetScreenOff (hp : Safe p)
    (ht : p.threads[i]? = some (.screenOff .resetScreenOffOperateInfo)) :
    Safe (moved p i p.shared.service.resetScreenOffOperateInfo .done) := by
  refine hp.moved (l := []) rfl (fun _ => nofun) rfl ?_
  rintro c - (hcarried | hwaiting)
  · left
    exact carried_moved ht (l := []) rfl nofun hcarried
  · exact absurd hwaiting (Safe.not_waiting ht rfl)

theorem safe_screenOff {env : Env} {phase : ScreenOffPhase} (hp : Safe p)
    (ht : p.threads[i]? = some (.screenOff phase)) :
    Safe (moved p i (p.shared.service.screenOffStep env phase).1
      (.ofScreenOff (p.shared.service.screenOffStep env phase).2)) := by
  cases phase with
  | setScreenOff => exact safe_setScreenOff hp ht
  | haveScreenOffOperate => exact safe_haveScreenOffOperate env hp ht
  | getScreenOffOperateInfo => exact safe_getScreenOffOperateInfo hp ht
  | onChangeDarkMode switchToDark userId =>
    exact safe_screenOffChange hp ht (Service.core_screenOffStep ..)
  | resetScreenOffOperateInfo => exact safe_resetScreenOff hp ht

end Moves

section Updates

variable {p : State} {i : ℕ} {s' : Service} {call : Call}

theorem safe_isScreenOff {phase : UpdatePhase} (hp : Safe p)
    (ht : p.threads[i]? = some (.update call .isScreenOff))
    (hphase : phase ≠ .resetScreenOffOperateInfo) :
    Safe (moved p i p.shared.service (.update call phase)) := by
  refine hp.moved (l := []) rfl ?_ rfl ?_
  · rintro call' ⟨⟩
    exact hphase rfl
  · rintro c - (hcarried | ⟨hoperator, huser, hcaught⟩)
    · exact .inl (carried_moved ht (l := []) rfl .inl hcarried)
    · exact .inr ⟨hoperator, huser, caught_moved ht rfl rfl nofun hcaught⟩

theorem safe_updateChange (hp : Safe p)
    (ht : p.threads[i]? = some (.update call .onChangeDarkMode))
    (hcore : s'.core = p.shared.service.core.change call.isDarkMode call.context) :
    Safe (moved p i s' .done) := by
  have hgrow : s'.core.decisions =
      [.updateCallback call.isDarkMode call.context] ++ p.shared.service.core.decisions := by
    rw [hcore, Core.decisions_change _ _ _ hp.callback]
    rfl
  have hscreen : s'.core.screen = p.shared.service.core.screen := by
    rw [hcore, Core.screen_change]
  refine hp.moved ?_ (fun _ => nofun) hgrow ?_
  · rw [hcore, Core.hasUpdateCallback_change]
  · rintro c hc (hcarried | ⟨hoperator, huser, hcaught⟩)
    · left
      apply carried_moved ht hgrow _ hcarried
      intro hcarries
      obtain rfl : call = c := by simpa [Thread.carries] using hcarries
      right
      rw [hgrow]
      exact .of_head (hp.mark _ hc) (by simp [Call.passedBy])
    · right
      refine ⟨?_, ?_, caught_moved ht (congrArg _ hscreen) rfl nofun hcaught⟩
      · exact (congrArg _ hscreen).trans hoperator
      · exact (congrArg _ hscreen).trans huser

/-- The newest call leaves its operation in time, an older one does no harm to it. -/
theorem safe_updateQueue (hp : Safe p)
    (ht : p.threads[i]? = some (.update call .setScreenOffOperateInfo))
    (hcore : s'.core = p.shared.service.core.queue call.isDarkMode call.context)
    (hset : ∀ c ∈ p.shared.newest,
      if c = call then Caught p
      else Carried p c ∨
        (call.isDarkMode, call.context.userId) = (c.isDarkMode, c.context.userId)) :
    Safe (moved p i s' .done) := by
  have hgrow : s'.core.decisions =
      [.setScreenOffOperateInfo call.isDarkMode call.context
        (p.shared.service.core.stateOf call.context)] ++ p.shared.service.core.decisions := by
    rw [hcore]
    rfl
  have hwaits {c : Call} (hdark : call.isDarkMode = c.isDarkMode)
      (huser : call.context.userId = c.context.userId) (hcaught : Caught p) :
      Waiting (moved p i s' .done) c := by
    refine ⟨?_, ?_, caught_moved ht ?_ rfl nofun hcaught⟩
    · change s'.core.screen.screenOffOperator = _
      rw [hcore, ← hdark]
      rfl
    · change s'.core.screen.userId = _
      rw [hcore, ← huser]
      rfl
    · rw [hcore]
      rfl
  refine hp.moved ?_ (fun _ => nofun) hgrow ?_
  · rw [hcore]
    rfl
  · intro c hc hnewest
    have hcond := hset c hc
    by_cases hsame : c = call
    · rw [if_pos hsame] at hcond
      exact .inr (hwaits (by rw [hsame]) (by rw [hsame]) hcond)
    · rw [if_neg hsame] at hcond
      have hcarries : (Thread.update call .setScreenOffOperateInfo).carries c ≠ true := by
        simpa [Thread.carries] using Ne.symm hsame
      rcases hnewest with hcarried | hwaiting
      · exact .inl (carried_moved ht hgrow (fun h => absurd h hcarries) hcarried)
      · rcases hcond with hcarried | hop
        · exact .inl (carried_moved ht hgrow (fun h => absurd h hcarries) hcarried)
        · obtain ⟨hdark, huser⟩ := Prod.mk.inj hop
          exact .inr (hwaits hdark huser hwaiting.2.2)

theorem safe_update {env : Env} {phase : UpdatePhase} (hp : Safe p)
    (ht : p.threads[i]? = some (.update call phase)) (hno : NoOverride p (i, env))
    (hset : SetInTime p (i, env)) :
    Safe (moved p i (p.shared.service.updateStep env (.ofColor call.isDarkMode) call.context
        phase).1
      (.ofUpdate call (p.shared.service.updateStep env (.ofColor call.isDarkMode) call.context
        phase).2)) := by
  have hcore := p.shared.service.core_updateStep env (.ofColor call.isDarkMode) call.context phase
  have hfollows : p.shared.service.core.follows env.clock call.context = true :=
    (Service.followsSchedule_eq ..).symm.trans (hno _ ht call rfl)
  rw [Service.ofColor_eq_alwaysDark] at hcore
  cases phase with
  | resetScreenOffOperateInfo => exact absurd (List.mem_of_getElem? ht) (hp.begun call)
  | isScreenOff =>
    apply safe_isScreenOff hp ht
    split_ifs <;> nofun
  | onChangeDarkMode =>
    apply safe_updateChange hp ht
    rw [hcore]
    exact if_pos hfollows
  | setScreenOffOperateInfo =>
    apply safe_updateQueue hp ht
    · rw [hcore]
      exact if_pos hfollows
    · exact hset _ ht call rfl

/-- A call that begins is the newest one, and its thread carries it. -/
theorem safe_timer {isDarkMode : Bool} {context : AccountContext} (hp : Safe p)
    (ht : p.threads[i]? = some (.timer isDarkMode context)) (hcall : call.mark =
      p.shared.service.core.decisions.length) :
    Safe ⟨⟨p.shared.service.resetScreenOffOperateInfo, some call⟩,
      p.threads.set i (.update call .isScreenOff)⟩ := by
  refine ⟨hp.callback, ?_, ?_, ?_⟩
  · intro call' hmem
    rcases List.mem_or_eq_of_mem_set hmem with hold | hnew
    · exact hp.begun call' hold
    · cases hnew
  · rintro c ⟨⟩
    exact hcall.le
  · rintro c ⟨⟩
    refine .inl (.inl ⟨_, Pool.mem_set_self ht, ?_⟩)
    simp [Thread.carries]

end Updates

theorem safe_next (p : State) (e : ℕ × Env) (hp : Safe p)
    (hok : NoOverride p e ∧ SetInTime p e) : Safe (p.next act e) := by
  rcases Pool.next_cases act p e with h | ⟨t, b', t', ht, hact, h⟩
  · rw [h]
    exact hp
  · rw [h]
    cases t with
    | screenOff phase =>
      obtain ⟨rfl, rfl⟩ := Prod.mk.inj (Option.some.inj hact)
      exact safe_screenOff hp ht
    | timer isDarkMode context =>
      obtain ⟨rfl, rfl⟩ := Prod.mk.inj (Option.some.inj hact)
      exact safe_timer hp ht rfl
    | update call phase =>
      obtain ⟨rfl, rfl⟩ := Prod.mk.inj (Option.some.inj hact)
      exact safe_update hp ht hok.1 hok.2
    | done => cases hact

/-- The colour of the last call has been passed to the update callback. -/
def HandedOver (b : Board) : Prop := ∀ c ∈ b.newest, c.Passed b.service.core.decisions

instance (b : Board) : Decidable (HandedOver b) := inferInstanceAs (Decidable (∀ c ∈ _, _))

theorem safe_start {s : Service} {threads : List Thread} (hcallback : s.hasUpdateCallback = true)
    (hinitial : ∀ t ∈ threads, t.initial = true) : Safe (start s threads) := by
  refine ⟨hcallback, ?_, nofun, nofun⟩
  intro call hmem
  cases hinitial _ hmem

/-- No switch is lost at screen-off in a run that sets operations in time. -/
theorem handedOver {s : Service} {threads : List Thread} {es : List (ℕ × Env)}
    (hcallback : s.hasUpdateCallback = true) (hinitial : ∀ t ∈ threads, t.initial = true)
    (hno : Along (Pool.next act) NoOverride (start s threads) es)
    (hset : Along (Pool.next act) SetInTime (start s threads) es)
    (hdone : ∀ t ∈ (exec (Pool.next act) (start s threads) es).threads, t = .done)
    (hoff : (exec (Pool.next act) (start s threads) es).shared.service.screenSwitchOperatorMgr.isScreenOff
      = true) :
    HandedOver (exec (Pool.next act) (start s threads) es).shared := by
  have hsafe : Safe (exec (Pool.next act) (start s threads) es) :=
    exec_invariant safe_next (safe_start hcallback hinitial) (along_and hno hset)
  intro c hc
  rcases hsafe.newest c hc with (⟨t, ht, hcarries⟩ | hpassed) | ⟨-, -, -, hon | ⟨t, ht, hcatches⟩⟩
  · rw [hdone t ht] at hcarries
    cases hcarries
  · exact hpassed
  · rw [hoff] at hon
    cases hon
  · rw [hdone t ht] at hcatches
    cases hcatches

/-- A service that has started, with the screen on. -/
def begun : Service :=
  exec Service.step (Service.start Table.empty fun _ => Table.empty)
    [(noon, .onAddSystemAbility), (noon, .bootCompleted), (noon, .screenOn)]

def run (threads : List Thread) (order : List ℕ) : State :=
  exec (Pool.next act) (start begun threads) (order.map fun i => (i, noon))

/-- A switch to dark and a screen-off. -/
def switchAndScreenOff : List Thread := [.timer true account, .screenOff .setScreenOff]

/-- The screen goes off between the test of the screen and the setting of the operation. -/
def leftPending : State := run switchAndScreenOff [0, 0, 1, 1, 0]

/-- A switch to light is set after the screen-off has read the switch to dark before it. -/
def discarded : State :=
  run (switchAndScreenOff ++ [.timer false account]) [0, 0, 2, 2, 0, 1, 1, 1, 1, 2, 1]

/-- In one order of steps the last switch stays pending with the screen off, in another the
final reset discards it. -/
theorem switch_lost :
    ((∀ t ∈ leftPending.threads, t = .done) ∧
      leftPending.shared.service.screenSwitchOperatorMgr = ⟨.screenOff, .switchToDark, 100⟩ ∧
      ¬HandedOver leftPending.shared) ∧
    (∀ t ∈ discarded.threads, t = .done) ∧
      discarded.shared.service.screenSwitchOperatorMgr = ⟨.screenOff, .none, 100⟩ ∧
      ¬HandedOver discarded.shared := by
  decide

/-- Steps may still mix: the operation is set before the screen goes off. -/
theorem switch_handedOver :
    HandedOver (run switchAndScreenOff [0, 0, 0, 1, 1, 1, 1, 1]).shared := by
  apply handedOver
  all_goals decide

end HandOver
end UiAppearance
