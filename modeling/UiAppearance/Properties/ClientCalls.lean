import UiAppearance.Client.AbilityClient

/-!
# The calls of a client

Between the check of the proxy and its use a notice of death may be handled.
When it finds no service, the proxy that was checked is gone, and one made in
its place may fail to come about as well; the call then uses a null proxy. In
any other interleaving no call does. Whatever happens, a call sends its request
once at most and ends with what came back.
-/

namespace UiAppearance
namespace ClientCalls

open ClientSystem Transition

variable {s : ClientSystem} {e : ClientEvent} {answer : ProxyAnswer} {caller : ℕ}
  {request : ClientRequest} {phase : ClientPhase} {reply : Option ClientReply}

/-! ## Null proxies -/

/-- No notice of death takes the proxy away between this caller's check and its use. -/
def Undisturbed (caller : ℕ) (s : ClientSystem) (e : ClientEvent) : Prop :=
  ∀ ability answer request, e = .onRemoteDied ability answer → ability ∈ s.notices →
    s.calls caller = some (request, .useProxy) → made answer ≠ none

/-- A call that has checked the proxy has one, and it has not used a null one. -/
def Checked (s : ClientSystem) (caller : ℕ) : Prop :=
  ∀ request phase, s.calls caller = some (request, phase) →
    (phase = .useProxy → s.uiAppearanceServiceProxy ≠ none) ∧ phase ≠ .nullDereference

theorem proxy_getUiAppearanceServiceProxy_ne_none (h : s.uiAppearanceServiceProxy ≠ none) :
    (s.getUiAppearanceServiceProxy answer).uiAppearanceServiceProxy ≠ none := by
  obtain ⟨ability, hability⟩ := Option.ne_none_iff_exists'.mp h
  rw [getUiAppearanceServiceProxy_of_some hability]
  exact h

/-- Steps other than a notice of death leave a proxy where there was one. -/
theorem proxy_next_ne_none (hdied : ∀ ability answer, e ≠ .onRemoteDied ability answer)
    (h : s.uiAppearanceServiceProxy ≠ none) : (s.next e).uiAppearanceServiceProxy ≠ none := by
  cases e with
  | getInstance answer =>
    unfold ClientSystem.next
    dsimp only
    split_ifs
    · exact h
    · exact proxy_getUiAppearanceServiceProxy_ne_none h
  | abilityStarts =>
    unfold ClientSystem.next
    dsimp only
    split_ifs
    · exact h
    · exact h
  | abilityDies => exact h
  | onRemoteDied ability answer => exact absurd rfl (hdied ability answer)
  | call caller request =>
    unfold ClientSystem.next
    dsimp only
    split_ifs
    · exact h
    · exact h
  | proceed caller answer reply =>
    cases hcall : s.calls caller with
    | none =>
      unfold ClientSystem.next
      dsimp only
      rw [hcall]
      exact h
    | some p =>
      obtain ⟨request, phase⟩ := p
      rw [next_proceed hcall]
      cases phase with
      | checkProxy => exact proxy_getUiAppearanceServiceProxy_ne_none h
      | useProxy => exact proxy_getUiAppearanceServiceProxy_ne_none h
      | awaitReply ability => exact h
      | returned reply => exact h
      | nullDereference => exact h

theorem checked_setPhase (hproxy : phase = .useProxy → s.uiAppearanceServiceProxy ≠ none)
    (hphase : phase ≠ .nullDereference) : Checked (s.setPhase caller request phase) caller := by
  intro request' phase' hcall
  obtain ⟨-, rfl⟩ := Prod.ext_iff.mp (Option.some.inj (Table.put_self.symm.trans hcall))
  exact ⟨hproxy, hphase⟩

/-- The steps of the call itself. -/
theorem Checked.proceed (h : Checked s caller) (hcall : s.calls caller = some (request, phase)) :
    Checked (s.proceed caller answer reply request phase) caller := by
  obtain ⟨hproxy, hnull⟩ := h request phase hcall
  cases phase with
  | checkProxy =>
    unfold ClientSystem.proceed
    dsimp only
    split_ifs with hnone
    · exact checked_setPhase ClientPhase.noConfusion ClientPhase.noConfusion
    · exact checked_setPhase (fun _ => hnone) ClientPhase.noConfusion
  | useProxy =>
    obtain ⟨ability, hability⟩ := Option.ne_none_iff_exists'.mp
      (proxy_getUiAppearanceServiceProxy_ne_none (hproxy rfl))
    rw [proceed_useProxy_of_some hability]
    exact checked_setPhase ClientPhase.noConfusion ClientPhase.noConfusion
  | awaitReply ability =>
    exact checked_setPhase (s := s) ClientPhase.noConfusion ClientPhase.noConfusion
  | returned reply => exact h
  | nullDereference => exact absurd rfl hnull

theorem Checked.next (h : Checked s caller) (hundisturbed : Undisturbed caller s e) :
    Checked (s.next e) caller := by
  by_cases howner : e.caller = some caller
  · cases e with
    | call other request =>
      obtain rfl : other = caller := Option.some.inj howner
      unfold ClientSystem.next
      dsimp only
      split_ifs
      · exact checked_setPhase ClientPhase.noConfusion ClientPhase.noConfusion
      · exact h
    | proceed other answer reply =>
      obtain rfl : other = caller := Option.some.inj howner
      cases hcall : s.calls other with
      | none =>
        unfold ClientSystem.next
        dsimp only
        rw [hcall]
        exact h
      | some p =>
        obtain ⟨request, phase⟩ := p
        rw [next_proceed hcall]
        exact h.proceed hcall
    | getInstance answer => cases howner
    | abilityStarts => cases howner
    | abilityDies => cases howner
    | onRemoteDied a answer => cases howner
  · intro request phase hcall
    rw [(call_next_of_ne howner).1] at hcall
    obtain ⟨hproxy, hnull⟩ := h request phase hcall
    refine ⟨fun huse => ?_, hnull⟩
    by_cases hdied : ∃ ability answer, e = .onRemoteDied ability answer
    · obtain ⟨ability, answer, rfl⟩ := hdied
      unfold ClientSystem.next
      dsimp only
      split_ifs with hmem
      · rw [onRemoteSaDied_eq]
        exact hundisturbed ability answer request rfl hmem (huse ▸ hcall)
      · exact hproxy huse
    · refine proxy_next_ne_none (fun ability answer he => ?_) (hproxy huse)
      exact hdied ⟨ability, answer, he⟩

theorem checked_beforeConstruction (running : Option ℕ) :
    Checked (beforeConstruction running) caller := by
  intro request phase hcall
  cases hcall

/-- In every run, a call uses a null proxy only after a notice of death found no service between
its check and its use; and from every reachable state in which the call stands there and a notice
is outstanding, that is what comes of it when no service is found the second time either. -/
theorem nullProxy_after_disturbance (running : Option ℕ) (es : List ClientEvent) (caller : ℕ) :
    let s := exec ClientSystem.next (beforeConstruction running) es
    (Along ClientSystem.next (Undisturbed caller) (beforeConstruction running) es →
      ∀ request, s.calls caller ≠ some (request, .nullDereference)) ∧
    ∀ request ability first second reply, s.calls caller = some (request, .useProxy) →
      ability ∈ s.notices → made first = none → made second = none →
      (exec ClientSystem.next s
        [.onRemoteDied ability first, .proceed caller second reply]).calls caller =
        some (request, .nullDereference) := by
  intro s
  constructor
  · intro hundisturbed request hcall
    have hchecked : Checked s caller := exec_invariant (I := fun s => Checked s caller)
      (fun s e h hC => h.next hC) (checked_beforeConstruction running) hundisturbed
    exact (hchecked request .nullDereference hcall).2 rfl
  · intro request ability first second reply hcall hmem hfirst hsecond
    let died := ({ s with notices := s.notices.erase ability } : ClientSystem).onRemoteSaDied first
    have hdied : s.next (.onRemoteDied ability first) = died := if_pos hmem
    have hnone : died.uiAppearanceServiceProxy = none := by
      unfold died
      rw [onRemoteSaDied_eq]
      exact hfirst
    have hstill : died.calls caller = some (request, .useProxy) := by
      unfold died
      rw [onRemoteSaDied_eq]
      exact hcall
    have hproxy : (died.getUiAppearanceServiceProxy second).uiAppearanceServiceProxy = none := by
      rw [getUiAppearanceServiceProxy_of_none hnone, onRemoteSaDied_eq]
      exact hsecond
    simp only [exec_cons]
    rw [hdied, next_proceed hstill]
    change ((died.proceed caller second reply request .useProxy).calls caller) = _
    unfold ClientSystem.proceed
    dsimp only
    rw [hproxy]
    exact Table.put_self

/-- The service dies while a call has checked the proxy and not yet used it. -/
theorem nullProxy_used_atRestart :
    let es : List ClientEvent := [.getInstance ⟨true, some 0, true⟩, .call 3 (.setDarkMode 1),
      .proceed 3 ⟨true, some 0, true⟩ none, .abilityDies]
    (∀ request, (exec ClientSystem.next (beforeConstruction (some 0)) es).calls 3 ≠
      some (request, .nullDereference)) ∧
    (exec ClientSystem.next (exec ClientSystem.next (beforeConstruction (some 0)) es)
      [.onRemoteDied 0 ⟨true, none, true⟩, .proceed 3 ⟨false, none, true⟩ none]).calls 3 =
      some (.setDarkMode 1, .nullDereference) := by
  intro es
  obtain ⟨hsafe, hunsafe⟩ := nullProxy_after_disturbance (some 0) es 3
  have hundisturbed : Along ClientSystem.next (Undisturbed 3) (beforeConstruction (some 0)) es := by
    refine ⟨?_, ?_, ?_, ?_, trivial⟩ <;>
    · intro ability answer request h
      cases h
  exact ⟨hsafe hundisturbed, hunsafe _ 0 _ _ none rfl (by decide) rfl rfl⟩

/-! ## Requests -/

/-- What a call has sent, by where it stands: nothing before its end, and its result tells what
became of the one request it sent, or that it sent none. -/
def Accounted (sent : List Exchange) (caller : ℕ) : Option (ClientRequest × ClientPhase) → Prop
  | some (request, .returned reply) =>
    sent = [] ∧ reply = resultOf none ∨
      ∃ ability received, sent = [⟨caller, ability, request, received⟩] ∧
        reply = resultOf received
  | some (_, .checkProxy) => sent = []
  | some (_, .useProxy) => sent = []
  | some (_, .awaitReply _) => sent = []
  | some (_, .nullDereference) => sent = []
  | none => sent = []

/-- The steps of the call itself. -/
theorem accounted_proceed (h : Accounted (s.sent caller) caller (some (request, phase)))
    (hcall : s.calls caller = some (request, phase)) :
    Accounted ((s.proceed caller answer reply request phase).sent caller) caller
      ((s.proceed caller answer reply request phase).calls caller) := by
  have hput : ∀ (u : ClientSystem) phase',
      (u.setPhase caller request phase').calls caller = some (request, phase') :=
    fun u phase' => Table.put_self
  have hsent : ∀ phase', (((s.getUiAppearanceServiceProxy answer).setPhase caller request
      phase').sent caller) = s.sent caller := fun phase' =>
    congrArg (List.filter _) exchanges_getUiAppearanceServiceProxy
  cases phase with
  | checkProxy =>
    unfold ClientSystem.proceed
    dsimp only
    rw [hsent, hput]
    split_ifs
    · exact .inl ⟨h, rfl⟩
    · exact h
  | useProxy =>
    unfold ClientSystem.proceed
    dsimp only
    rw [hsent, hput]
    split
    · exact h
    · exact h
  | awaitReply ability =>
    let received := if s.running = some ability then reply else none
    have hnew : (s.send caller ability request reply).sent caller =
        [⟨caller, ability, request, received⟩] := by
      have hnone : s.exchanges.filter (fun exchange => exchange.caller = caller) = [] := h
      unfold send sent
      dsimp only
      rw [List.filter_append, hnone, List.nil_append]
      exact List.filter_cons_of_pos (decide_eq_true rfl)
    unfold ClientSystem.proceed
    dsimp only
    rw [hnew]
    refine (congrArg (Accounted _ caller) (hput s (.returned (resultOf received)))).mpr ?_
    exact .inr ⟨ability, received, rfl, rfl⟩
  | returned result =>
    refine (congrArg (Accounted (s.sent caller) caller) hcall).mpr ?_
    exact h
  | nullDereference =>
    refine (congrArg (Accounted (s.sent caller) caller) hcall).mpr ?_
    exact h

theorem accounted_next (h : Accounted (s.sent caller) caller (s.calls caller)) :
    Accounted ((s.next e).sent caller) caller ((s.next e).calls caller) := by
  by_cases howner : e.caller = some caller
  · cases e with
    | call other request =>
      obtain rfl : other = caller := Option.some.inj howner
      unfold ClientSystem.next
      dsimp only
      split_ifs with hnew
      · rw [hnew.2] at h
        exact (congrArg (Accounted (s.sent other) other) Table.put_self).mpr h
      · exact h
    | proceed other answer reply =>
      obtain rfl : other = caller := Option.some.inj howner
      cases hcall : s.calls other with
      | none =>
        unfold ClientSystem.next
        dsimp only
        rw [hcall]
        exact h
      | some p =>
        obtain ⟨request, phase⟩ := p
        rw [hcall] at h
        rw [next_proceed hcall]
        exact accounted_proceed h hcall
    | getInstance answer => cases howner
    | abilityStarts => cases howner
    | abilityDies => cases howner
    | onRemoteDied a answer => cases howner
  · obtain ⟨hcalls, hsent⟩ := call_next_of_ne howner
    rw [hcalls, hsent]
    exact h

/-- In every run and whatever the platform answers, a call has sent nothing until it ends, and then
its own request at most once: with none sent it returns `SYS_ERR`, and otherwise what came back,
`SYS_ERR` standing for no reply. A request that got no reply is not sent again. -/
theorem request_sent_once (running : Option ℕ) (es : List ClientEvent) (caller : ℕ) :
    let s := exec ClientSystem.next (beforeConstruction running) es
    Accounted (s.sent caller) caller (s.calls caller) :=
  exec_invariant (I := fun s : ClientSystem => Accounted (s.sent caller) caller (s.calls caller))
    (C := fun _ _ => True) (fun _ _ h _ => accounted_next h)
    (show Accounted ((beforeConstruction running).sent caller) caller none from rfl)
    (along_of_forall fun _ _ => trivial)

end ClientCalls
end UiAppearance
