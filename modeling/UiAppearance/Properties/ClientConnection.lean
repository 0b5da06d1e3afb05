import UiAppearance.Client.AbilityClient

/-!
# The connection of a client

The client learns of a death from the recipient registered when it made its
proxy. As long as the platform names running instances only, the proxy in use
has either its recipient or an unhandled notice, and every notice leads to a new
proxy. A proxy made of an instance that was already dead has neither, and then
nothing ever replaces it.
-/

namespace UiAppearance
namespace ClientConnection

open ClientSystem Transition

variable {s : ClientSystem} {e : ClientEvent} {answer : ProxyAnswer} {caller ability : ℕ}
  {request : ClientRequest} {phase : ClientPhase} {reply : Option ClientReply}

/-- The platform names no instance but the one that runs. -/
def Live (s : ClientSystem) (e : ClientEvent) : Prop :=
  ∀ answer, e.answer = some answer → ∀ ability, answered answer = some ability →
    s.running = some ability

/-- The platform makes a proxy of whatever instance it names. -/
def Casts (_ : ClientSystem) (e : ClientEvent) : Prop :=
  ∀ answer, e.answer = some answer → answer.ifaceCast = true

theorem registered_of_live (hlive : ∀ a, answered answer = some a → s.running = some a) :
    s.registered answer = (answered answer).toList := by
  unfold registered
  refine List.filter_eq_self.mpr fun a ha => ?_
  exact decide_eq_true (hlive a (Option.mem_toList.mp ha))

theorem answered_of_made (h : made answer = some ability) : answered answer = some ability := by
  unfold made at h
  split_ifs at h
  exact h

/-! ## A proxy and its recipient -/

structure Watched (s : ClientSystem) : Prop where
  recipients : ∀ a ∈ s.recipients, s.running = some a
  proxy : ∀ a, s.uiAppearanceServiceProxy = some a → a ∈ s.recipients ∨ a ∈ s.notices

theorem watched_onRemoteSaDied (hrecipients : ∀ a ∈ s.recipients, s.running = some a)
    (hlive : ∀ a, answered answer = some a → s.running = some a) :
    Watched (s.onRemoteSaDied answer) := by
  rw [onRemoteSaDied_eq, registered_of_live hlive]
  constructor
  · intro a ha
    rcases List.mem_append.mp ha with hold | hnew
    · exact hrecipients a hold
    · exact hlive a (Option.mem_toList.mp hnew)
  · intro a ha
    exact .inl (List.mem_append_right _ (Option.mem_toList.mpr (answered_of_made ha)))

theorem Watched.getUiAppearanceServiceProxy (h : Watched s)
    (hlive : ∀ a, answered answer = some a → s.running = some a) :
    Watched (s.getUiAppearanceServiceProxy answer) :=
  getUiAppearanceServiceProxy_induction h fun _ => watched_onRemoteSaDied h.recipients hlive

theorem Watched.setPhase (h : Watched s) : Watched (s.setPhase caller request phase) :=
  ⟨h.recipients, h.proxy⟩

theorem Watched.proceed (h : Watched s)
    (hlive : ∀ a, answered answer = some a → s.running = some a) :
    Watched (s.proceed caller answer reply request phase) := by
  cases phase with
  | checkProxy => exact (h.getUiAppearanceServiceProxy hlive).setPhase
  | useProxy => exact (h.getUiAppearanceServiceProxy hlive).setPhase
  | awaitReply ability => exact ⟨h.recipients, h.proxy⟩
  | returned reply => exact h
  | nullDereference => exact h

theorem Watched.next (h : Watched s) (hlive : Live s e) : Watched (s.next e) := by
  cases e with
  | getInstance answer =>
    unfold ClientSystem.next
    dsimp only
    split_ifs
    · exact h
    · have hgot := h.getUiAppearanceServiceProxy (hlive answer rfl)
      exact ⟨hgot.recipients, hgot.proxy⟩
  | abilityStarts =>
    unfold ClientSystem.next
    dsimp only
    split_ifs with hnone
    · refine ⟨fun a ha => ?_, h.proxy⟩
      exact absurd (hnone.symm.trans (h.recipients a ha)) (by simp)
    · exact h
  | abilityDies =>
    refine ⟨fun a ha => absurd ha List.not_mem_nil, fun a ha => .inr ?_⟩
    exact List.mem_append.mpr (h.proxy a ha).symm
  | onRemoteDied ability answer =>
    unfold ClientSystem.next
    dsimp only
    split_ifs
    · exact watched_onRemoteSaDied h.recipients (hlive answer rfl)
    · exact h
  | call caller request =>
    unfold ClientSystem.next
    dsimp only
    split_ifs
    · exact h.setPhase
    · exact h
  | proceed caller answer reply =>
    unfold ClientSystem.next
    dsimp only
    split
    · exact h
    · exact h.proceed (hlive answer rfl)

theorem watched_beforeConstruction (running : Option ℕ) :
    Watched (beforeConstruction running) :=
  ⟨fun _ ha => absurd ha List.not_mem_nil, fun _ ha => by cases ha⟩

/-- One recipient or one notice for the proxy in use, and none besides. -/
def Sole (s : ClientSystem) : Prop :=
  s.recipients ++ s.notices = s.uiAppearanceServiceProxy.toList

theorem sole_onRemoteSaDied (hrecipients : s.recipients = []) (hnotices : s.notices = [])
    (hlive : ∀ a, answered answer = some a → s.running = some a)
    (hcast : answer.ifaceCast = true) : Sole (s.onRemoteSaDied answer) := by
  have hmade : made answer = answered answer := if_pos hcast
  rw [onRemoteSaDied_eq, registered_of_live hlive]
  unfold Sole
  dsimp only
  rw [hrecipients, hnotices, hmade, List.nil_append, List.append_nil]

theorem Sole.getUiAppearanceServiceProxy (h : Sole s)
    (hlive : ∀ a, answered answer = some a → s.running = some a)
    (hcast : answer.ifaceCast = true) : Sole (s.getUiAppearanceServiceProxy answer) := by
  refine getUiAppearanceServiceProxy_induction h fun hnone => ?_
  unfold Sole at h
  rw [hnone] at h
  obtain ⟨hrecipients, hnotices⟩ := List.append_eq_nil_iff.mp h
  exact sole_onRemoteSaDied hrecipients hnotices hlive hcast

theorem Sole.proceed (h : Sole s)
    (hlive : ∀ a, answered answer = some a → s.running = some a)
    (hcast : answer.ifaceCast = true) :
    Sole (s.proceed caller answer reply request phase) := by
  cases phase with
  | checkProxy => exact h.getUiAppearanceServiceProxy hlive hcast
  | useProxy => exact h.getUiAppearanceServiceProxy hlive hcast
  | awaitReply ability => exact h
  | returned reply => exact h
  | nullDereference => exact h

/-- A notice can only be the one of the proxy in use. -/
theorem Sole.of_mem_notices (h : Sole s) (ha : ability ∈ s.notices) :
    s.recipients = [] ∧ s.notices = [ability] := by
  unfold Sole at h
  cases hproxy : s.uiAppearanceServiceProxy with
  | none =>
    rw [hproxy] at h
    rw [(List.append_eq_nil_iff.mp h).2] at ha
    exact absurd ha List.not_mem_nil
  | some a =>
    rw [hproxy] at h
    rcases List.append_eq_singleton_iff.mp h with ⟨hrecipients, hnotices⟩ | ⟨-, hnotices⟩
    · rw [hnotices] at ha
      rw [List.mem_singleton.mp ha]
      exact ⟨hrecipients, hnotices⟩
    · rw [hnotices] at ha
      exact absurd ha List.not_mem_nil

theorem Sole.next (h : Sole s) (hlive : Live s e) (hcast : Casts s e) : Sole (s.next e) := by
  cases e with
  | getInstance answer =>
    unfold ClientSystem.next
    dsimp only
    split_ifs
    · exact h
    · exact h.getUiAppearanceServiceProxy (hlive answer rfl) (hcast answer rfl)
  | abilityStarts =>
    unfold ClientSystem.next
    dsimp only
    split_ifs
    · exact h
    · exact h
  | abilityDies =>
    have hperm : s.notices ++ s.recipients = s.recipients ++ s.notices := by
      cases hproxy : s.notices with
      | nil => simp
      | cons a as =>
        have hmem : a ∈ s.notices := hproxy ▸ List.mem_cons_self
        rw [(h.of_mem_notices hmem).1]
        simp
    exact (List.nil_append _).trans (hperm.trans h)
  | onRemoteDied ability answer =>
    unfold ClientSystem.next
    dsimp only
    split_ifs with hmem
    · obtain ⟨hrecipients, hnotices⟩ := h.of_mem_notices hmem
      refine sole_onRemoteSaDied hrecipients ?_ (hlive answer rfl) (hcast answer rfl)
      change s.notices.erase ability = []
      rw [hnotices, List.erase_cons_head]
    · exact h
  | call caller request =>
    unfold ClientSystem.next
    dsimp only
    split_ifs
    · exact h
    · exact h
  | proceed caller answer reply =>
    unfold ClientSystem.next
    dsimp only
    split
    · exact h
    · exact h.proceed (hlive answer rfl) (hcast answer rfl)

/-- No notice outstanding means that the proxy in use, if any, is one of the running instance. -/
theorem Watched.running (h : Watched s) (hquiet : s.notices = [])
    (hproxy : s.uiAppearanceServiceProxy = some ability) : s.running = some ability := by
  rcases h.proxy ability hproxy with hmem | hmem
  · exact h.recipients ability hmem
  · rw [hquiet] at hmem
    exact absurd hmem List.not_mem_nil

/-! ## A call after the service has come back -/

/-- The platform offers this instance. -/
def Offers (answer : ProxyAnswer) (ability : ℕ) : Prop := made answer = some ability

instance : Decidable (Offers answer ability) := inferInstanceAs (Decidable (_ = _))

/-- One call, from its start to its end, with no other step in between. -/
def wholeCall (caller : ℕ) (request : ClientRequest) (first second third : ProxyAnswer)
    (reply : Option ClientReply) : List ClientEvent :=
  [.call caller request, .proceed caller first none, .proceed caller second none,
    .proceed caller third reply]

theorem proxy_getUiAppearanceServiceProxy (hoffers : Offers answer ability)
    (hproxy : ∀ a, s.uiAppearanceServiceProxy = some a → a = ability) :
    (s.getUiAppearanceServiceProxy answer).uiAppearanceServiceProxy = some ability := by
  cases h : s.uiAppearanceServiceProxy with
  | none =>
    rw [getUiAppearanceServiceProxy_of_none h, onRemoteSaDied_eq]
    exact hoffers
  | some a => rw [getUiAppearanceServiceProxy_of_some h, h, hproxy a h]

theorem exec_wholeCall {first second third : ProxyAnswer} (hconstructed : s.constructed = true)
    (hcaller : s.calls caller = none) (hrunning : s.running = some ability)
    (hproxy : ∀ a, s.uiAppearanceServiceProxy = some a → a = ability)
    (hoffers : Offers first ability) :
    let t := exec ClientSystem.next s (wholeCall caller request first second third reply)
    t.calls caller = some (request, .returned (resultOf reply)) ∧
      t.exchanges = s.exchanges ++ [⟨caller, ability, request, reply⟩] := by
  let called := s.setPhase caller request .checkProxy
  let got := called.getUiAppearanceServiceProxy first
  let checked := got.setPhase caller request .useProxy
  let used := checked.setPhase caller request (.awaitReply ability)
  have hgot : got.uiAppearanceServiceProxy = some ability :=
    proxy_getUiAppearanceServiceProxy hoffers hproxy
  have hcall : s.next (.call caller request) = called := if_pos ⟨hconstructed, hcaller⟩
  have hcheck : called.next (.proceed caller first none) = checked := by
    have hphase : called.calls caller = some (request, .checkProxy) := Table.put_self
    rw [next_proceed hphase]
    exact proceed_checkProxy_of_some hgot
  have huse : checked.next (.proceed caller second none) = used := by
    have hsame : checked.getUiAppearanceServiceProxy second = checked :=
      getUiAppearanceServiceProxy_of_some hgot
    have hchecked : (checked.getUiAppearanceServiceProxy second).uiAppearanceServiceProxy =
        some ability := by
      rw [hsame]
      exact hgot
    have hphase : checked.calls caller = some (request, .useProxy) := Table.put_self
    rw [next_proceed hphase, proceed_useProxy_of_some hchecked, hsame]
  have hphase : used.calls caller = some (request, .awaitReply ability) := Table.put_self
  have hsend : used.next (.proceed caller third reply) = used.send caller ability request reply :=
    next_proceed hphase
  have hlive : used.running = some ability := by
    change got.running = some ability
    rw [running_getUiAppearanceServiceProxy]
    exact hrunning
  unfold wholeCall
  simp only [exec_cons]
  rw [hcall, hcheck, huse, hsend]
  change (used.send caller ability request reply).calls caller = _ ∧
    (used.send caller ability request reply).exchanges = _
  unfold send
  dsimp only
  rw [if_pos hlive]
  refine ⟨Table.put_self, ?_⟩
  change got.exchanges ++ _ = _
  rw [exchanges_getUiAppearanceServiceProxy]
  rfl

/-- In every run in which the platform names running instances only: once no notice is
outstanding the proxy in use is one of the running instance, and a call on a running instance
that is offered gets that instance's reply. Where every cast succeeds, the proxy in use has one
recipient or one notice, and there are no others. -/
theorem connection_recovers {running : Option ℕ} {es : List ClientEvent}
    (hlive : Along ClientSystem.next Live (beforeConstruction running) es) :
    let t := exec ClientSystem.next (beforeConstruction running) es
    (t.notices = [] →
      (∀ ability, t.uiAppearanceServiceProxy = some ability → t.running = some ability) ∧
      ∀ caller request ability first second third reply, t.constructed = true →
        t.calls caller = none → t.running = some ability → Offers first ability →
        let u := exec ClientSystem.next t (wholeCall caller request first second third reply)
        u.calls caller = some (request, .returned (resultOf reply)) ∧
          u.exchanges = t.exchanges ++ [⟨caller, ability, request, reply⟩]) ∧
    (Along ClientSystem.next Casts (beforeConstruction running) es →
      t.recipients ++ t.notices = t.uiAppearanceServiceProxy.toList) := by
  intro t
  have hwatched : Watched t := exec_invariant (fun s e h hC => h.next hC)
    (watched_beforeConstruction running) hlive
  refine ⟨fun hquiet => ⟨fun ability => hwatched.running hquiet, ?_⟩, fun hcasts => ?_⟩
  · intro caller request ability first second third reply hconstructed hcaller hrunning hoffers
    refine exec_wholeCall hconstructed hcaller hrunning (fun a ha => ?_) hoffers
    exact Option.some.inj ((hwatched.running hquiet ha).symm.trans hrunning)
  · exact exec_invariant (I := Sole) (C := fun s e => Live s e ∧ Casts s e)
      (fun s e h hC => h.next hC.1 hC.2) rfl (along_and hlive hcasts)

/-- The service dies, its death is noticed while none runs, and then another starts. -/
def deathNoticed : List ClientEvent :=
  [.getInstance ⟨true, some 0, true⟩, .abilityDies, .onRemoteDied 0 ⟨true, none, true⟩,
    .abilityStarts]

theorem live_deathNoticed :
    Along ClientSystem.next Live (beforeConstruction (some 0)) deathNoticed := by
  refine ⟨?_, ?_, ?_, ?_, trivial⟩
  · rintro answer ⟨⟩ ability ⟨⟩
    rfl
  · intro answer h
    cases h
  · rintro answer ⟨⟩ ability h
    cases h
  · intro answer h
    cases h

theorem connection_recovers_deathNoticed :
    let t := exec ClientSystem.next (beforeConstruction (some 0)) deathNoticed
    let u := exec ClientSystem.next t
      (wholeCall 7 .getDarkMode ⟨true, some 1, true⟩ ⟨true, none, true⟩ ⟨false, none, true⟩
        (some ⟨1, none⟩))
    u.calls 7 = some (.getDarkMode, .returned ⟨1, none⟩) ∧
      u.exchanges = [⟨7, 1, .getDarkMode, some ⟨1, none⟩⟩] :=
  ((connection_recovers live_deathNoticed).1 rfl).2 7 .getDarkMode 1 ⟨true, some 1, true⟩
    ⟨true, none, true⟩ ⟨false, none, true⟩ (some ⟨1, none⟩) rfl rfl rfl rfl

/-! ## A proxy of a dead instance -/

/-- The proxy is of an instance that is gone, and nothing will tell the client. -/
structure Stuck (s : ClientSystem) (ability : ℕ) : Prop where
  proxy : s.uiAppearanceServiceProxy = some ability
  running : s.running ≠ some ability
  started : ability < s.started
  recipients : s.recipients = []
  notices : s.notices = []

/-- A call that has not ended, or has failed. -/
def Failing (ability : ℕ) : Option (ClientRequest × ClientPhase) → Prop
  | none => True
  | some (_, .checkProxy) => True
  | some (_, .useProxy) => True
  | some (_, .awaitReply a) => a = ability
  | some (_, .returned reply) => reply = resultOf none
  | some (_, .nullDereference) => False

theorem Stuck.setPhase (h : Stuck s ability) : Stuck (s.setPhase caller request phase) ability :=
  ⟨h.proxy, h.running, h.started, h.recipients, h.notices⟩

/-- Once stuck, the client stays so. -/
theorem Stuck.next (h : Stuck s ability) : Stuck (s.next e) ability := by
  have hget : ∀ answer, s.getUiAppearanceServiceProxy answer = s := fun answer =>
    getUiAppearanceServiceProxy_of_some h.proxy
  cases e with
  | getInstance answer =>
    unfold ClientSystem.next
    dsimp only
    rw [hget]
    split_ifs
    · exact h
    · exact ⟨h.proxy, h.running, h.started, h.recipients, h.notices⟩
  | abilityStarts =>
    unfold ClientSystem.next
    dsimp only
    split_ifs
    · refine ⟨h.proxy, ?_, Nat.lt_succ_of_lt h.started, h.recipients, h.notices⟩
      intro hsame
      exact h.started.ne (Option.some.inj hsame).symm
    · exact h
  | abilityDies =>
    refine ⟨h.proxy, (Option.some_ne_none ability).symm, h.started, rfl, ?_⟩
    change s.notices ++ s.recipients = []
    rw [h.notices, h.recipients, List.append_nil]
  | onRemoteDied a answer =>
    have hnone : a ∉ s.notices := h.notices ▸ List.not_mem_nil
    rw [show s.next (.onRemoteDied a answer) = s from if_neg hnone]
    exact h
  | call caller request =>
    unfold ClientSystem.next
    dsimp only
    split_ifs
    · exact h.setPhase
    · exact h
  | proceed caller answer reply =>
    cases hcall : s.calls caller with
    | none =>
      unfold ClientSystem.next
      dsimp only
      rw [hcall]
      exact h
    | some p =>
      obtain ⟨request, phase⟩ := p
      rw [next_proceed hcall]
      unfold ClientSystem.proceed
      rw [hget]
      cases phase with
      | checkProxy => exact h.setPhase
      | useProxy => exact h.setPhase
      | awaitReply a => exact ⟨h.proxy, h.running, h.started, h.recipients, h.notices⟩
      | returned reply => exact h
      | nullDereference => exact h

/-- A call on a stuck client can only fail. -/
theorem Failing.next (hstuck : Stuck s ability) (h : Failing ability (s.calls caller)) :
    Failing ability ((s.next e).calls caller) := by
  by_cases hcaller : e.caller = some caller
  swap
  · rw [(call_next_of_ne hcaller).1]
    exact h
  have hput : ∀ {u : ClientSystem} {request phase}, Failing ability (some (request, phase)) →
      Failing ability ((u.setPhase caller request phase).calls caller) := fun hphase =>
    (congrArg (Failing ability) Table.put_self).mpr hphase
  cases e with
  | getInstance answer => cases hcaller
  | abilityStarts => cases hcaller
  | abilityDies => cases hcaller
  | onRemoteDied a answer => cases hcaller
  | call other request =>
    obtain rfl : other = caller := Option.some.inj hcaller
    unfold ClientSystem.next
    dsimp only
    split_ifs
    · exact hput trivial
    · exact h
  | proceed other answer reply =>
    obtain rfl : other = caller := Option.some.inj hcaller
    have hproxy : (s.getUiAppearanceServiceProxy answer).uiAppearanceServiceProxy =
        some ability := by
      rw [getUiAppearanceServiceProxy_of_some hstuck.proxy]
      exact hstuck.proxy
    cases hcall : s.calls other with
    | none =>
      unfold ClientSystem.next
      dsimp only
      rw [hcall, hcall]
      trivial
    | some p =>
      obtain ⟨request, phase⟩ := p
      rw [hcall] at h
      rw [next_proceed hcall]
      cases phase with
      | checkProxy =>
        rw [proceed_checkProxy_of_some hproxy]
        exact hput trivial
      | useProxy =>
        rw [proceed_useProxy_of_some hproxy]
        exact hput rfl
      | awaitReply a =>
        obtain rfl : a = ability := h
        unfold ClientSystem.proceed send
        dsimp only
        rw [if_neg hstuck.running]
        exact hput (u := s) rfl
      | returned reply =>
        refine (congrArg (Failing ability) hcall).mpr ?_
        exact h
      | nullDereference => exact h.elim

/-- No proxy is in use, and nothing of an earlier one is left. -/
structure Unconnected (s : ClientSystem) : Prop where
  proxy : s.uiAppearanceServiceProxy = none
  recipients : s.recipients = []
  notices : s.notices = []

theorem Unconnected.stuck_getUiAppearanceServiceProxy (h : Unconnected s)
    (hmade : (s.getUiAppearanceServiceProxy answer).uiAppearanceServiceProxy = some ability)
    (hrunning : s.running ≠ some ability) (hstarted : ability < s.started) :
    Stuck (s.getUiAppearanceServiceProxy answer) ability := by
  rw [getUiAppearanceServiceProxy_of_none h.proxy, onRemoteSaDied_eq] at hmade ⊢
  have hregistered : s.registered answer = [] := by
    unfold registered
    rw [answered_of_made hmade]
    exact List.filter_eq_nil_iff.mpr fun a ha => by
      rw [List.mem_singleton.mp ha]
      simpa using hrunning
  exact ⟨hmade, hrunning, hstarted, by rw [h.recipients, hregistered, List.append_nil], h.notices⟩

/-- Whichever step makes the proxy, one of a dead instance leaves the client stuck. -/
theorem Unconnected.stuck_next (h : Unconnected s)
    (hmade : (s.next e).uiAppearanceServiceProxy = some ability)
    (hrunning : s.running ≠ some ability) (hstarted : ability < s.started) :
    Stuck (s.next e) ability := by
  have hsame : s.uiAppearanceServiceProxy ≠ some ability := by
    rw [h.proxy]
    exact (Option.some_ne_none ability).symm
  cases e with
  | getInstance answer =>
    unfold ClientSystem.next at hmade ⊢
    dsimp only at hmade ⊢
    split_ifs at hmade ⊢
    · exact absurd hmade hsame
    · have hstuck := h.stuck_getUiAppearanceServiceProxy hmade hrunning hstarted
      exact ⟨hstuck.proxy, hstuck.running, hstuck.started, hstuck.recipients, hstuck.notices⟩
  | abilityStarts =>
    unfold ClientSystem.next at hmade
    dsimp only at hmade
    split_ifs at hmade
    · exact absurd hmade hsame
    · exact absurd hmade hsame
  | abilityDies => exact absurd hmade hsame
  | onRemoteDied a answer =>
    have hnone : a ∉ s.notices := h.notices ▸ List.not_mem_nil
    rw [show s.next (.onRemoteDied a answer) = s from if_neg hnone] at hmade
    exact absurd hmade hsame
  | call caller request =>
    unfold ClientSystem.next at hmade
    dsimp only at hmade
    split_ifs at hmade
    · exact absurd hmade hsame
    · exact absurd hmade hsame
  | proceed caller answer reply =>
    cases hcall : s.calls caller with
    | none =>
      unfold ClientSystem.next at hmade
      dsimp only at hmade
      rw [hcall] at hmade
      exact absurd hmade hsame
    | some p =>
      obtain ⟨request, phase⟩ := p
      rw [next_proceed hcall] at hmade ⊢
      cases phase with
      | checkProxy =>
        exact (h.stuck_getUiAppearanceServiceProxy hmade hrunning hstarted).setPhase
      | useProxy =>
        exact (h.stuck_getUiAppearanceServiceProxy hmade hrunning hstarted).setPhase
      | awaitReply a => exact absurd hmade hsame
      | returned reply => exact absurd hmade hsame
      | nullDereference => exact absurd hmade hsame

/-- A step that gives a client with no proxy, and with nothing left of an earlier one, a proxy of
an instance that is gone: whatever happens afterwards, also when the service starts again, the
proxy is not replaced, every call made since has failed or will, and none crashes. -/
theorem connection_lost (running : Option ℕ) (before : List ClientEvent) (e : ClientEvent)
    (after : List ClientEvent) (ability caller : ℕ) :
    let s := exec ClientSystem.next (beforeConstruction running) before
    Unconnected s → (s.next e).uiAppearanceServiceProxy = some ability →
      s.running ≠ some ability → ability < s.started → s.calls caller = none →
      let t := exec ClientSystem.next (s.next e) after
      t.uiAppearanceServiceProxy = some ability ∧ t.running ≠ some ability ∧
        t.notices = [] ∧ ∀ request phase, t.calls caller = some (request, phase) →
          phase = .checkProxy ∨ phase = .useProxy ∨ phase = .awaitReply ability ∨
            phase = .returned ⟨FuncResult.sysErr.toInt, none⟩ := by
  intro s hunconnected hmade hrunning hstarted hcaller t
  have hstuck : Stuck (s.next e) ability := hunconnected.stuck_next hmade hrunning hstarted
  have hfailing : Failing ability ((s.next e).calls caller) := by
    by_cases howner : e.caller = some caller
    · cases e with
      | call other request =>
        obtain rfl : other = caller := Option.some.inj howner
        unfold ClientSystem.next
        dsimp only
        split_ifs
        · exact (congrArg (Failing ability) Table.put_self).mpr trivial
        · exact (congrArg (Failing ability) hcaller).mpr trivial
      | proceed other answer reply =>
        obtain rfl : other = caller := Option.some.inj howner
        unfold ClientSystem.next
        dsimp only
        rw [hcaller, hcaller]
        trivial
      | getInstance answer => cases howner
      | abilityStarts => cases howner
      | abilityDies => cases howner
      | onRemoteDied a answer => cases howner
    · rw [(call_next_of_ne howner).1, hcaller]
      trivial
  obtain ⟨hstuck', hfailing'⟩ : Stuck t ability ∧ Failing ability (t.calls caller) :=
    exec_invariant (I := fun s => Stuck s ability ∧ Failing ability (s.calls caller))
      (C := fun _ _ => True) (fun s e h _ => ⟨h.1.next, h.2.next h.1⟩) ⟨hstuck, hfailing⟩
      (along_of_forall fun _ _ => trivial)
  refine ⟨hstuck'.proxy, hstuck'.running, hstuck'.notices, fun request phase hcall => ?_⟩
  rw [hcall] at hfailing'
  cases phase with
  | checkProxy => exact .inl rfl
  | useProxy => exact .inr (.inl rfl)
  | awaitReply a => exact .inr (.inr (.inl (congrArg _ hfailing')))
  | returned reply => exact .inr (.inr (.inr (congrArg _ hfailing')))
  | nullDereference => exact hfailing'.elim

/-- The service dies after the manager has named it and before the recipient is registered;
it starts again, and a call is made. -/
theorem connection_lost_atConstruction :
    let s := exec ClientSystem.next (beforeConstruction (some 0)) [.abilityDies]
    let t := exec ClientSystem.next (s.next (.getInstance ⟨true, some 0, true⟩))
      (.abilityStarts :: wholeCall 5 .getFontScale ⟨true, some 1, true⟩ ⟨true, some 1, true⟩
        ⟨true, some 1, true⟩ (some ⟨0, some "1.150000"⟩))
    t.running = some 1 ∧
      t.calls 5 = some (.getFontScale, .returned ⟨FuncResult.sysErr.toInt, none⟩) ∧
      t.uiAppearanceServiceProxy = some 0 :=
  ⟨rfl, rfl, (connection_lost (some 0) [.abilityDies] (.getInstance ⟨true, some 0, true⟩) _ 0 5
    ⟨rfl, rfl, rfl⟩ rfl (by decide) (by decide) rfl).1⟩

end ClientConnection
end UiAppearance
