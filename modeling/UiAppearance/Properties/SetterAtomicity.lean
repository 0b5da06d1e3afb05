import UiAppearance.Ability.Setters

/-!
# A setter that fails

The entry in memory is written before the parameter. A call that fails at a
parameter has changed the entry of every context up to there, unless they all
held the requested value before.
-/

namespace UiAppearance
namespace SetterAtomicity

open Service Scenario

/-- A call that reports a failure has left the appearance in memory alone. -/
def Atomic (env : Env) (s : Service) (r : Request) : Prop :=
  (r.call env s).2 ≠ .succeeded → (r.call env s).1.usersParam = s.usersParam

theorem atomic_iff (env : Env) (s : Service) (r : Request) :
    Atomic env s r ↔ (∀ context ∈ r.targets env, r.writes env context = true) ∨
      ∀ context ∈ r.reached env s, ∃ param, s.usersParam context = some param ∧
        r.assign param = param := by
  have hchanged := (r.assigned_call env s).eq_iff
  have hresult := r.succeeded_iff env s
  unfold Atomic
  cases hadmitted : r.admitted env s with
  | false =>
    have hnone : r.reached env s = [] := by
      unfold Request.reached
      rw [hadmitted]
      rfl
    have hsame := congrArg Service.usersParam (Request.call_of_refused hadmitted).1
    refine iff_of_true (fun _ => hsame) (.inr ?_)
    rw [hnone]
    nofun
  | true =>
    rw [hadmitted, and_iff_right rfl] at hresult
    constructor
    · intro hatomic
      by_cases hwrites : ∀ context ∈ r.targets env, r.writes env context = true
      · exact .inl hwrites
      · exact .inr (hchanged.mp (hatomic (mt hresult.mp hwrites)))
    · rintro (hwrites | hheld) hfailed
      · exact absurd (hresult.mpr hwrites) hfailed
      · exact hchanged.mpr hheld

/-- The colour parameter of the account cannot be written. -/
def readOnly : Env :=
  { noon with setParameter := fun key _ => key ≠ darkModeParamAssignUser account }

def lightUser : Service :=
  { usersParam := Table.empty.put account {} }

/-- The failed call has turned the entry dark, and the same request is refused from then on. -/
theorem failed_changed :
    (lightUser.setDarkMode readOnly 0).2 = .sysErr ∧ ¬Atomic readOnly lightUser (.setDarkMode 0) ∧
      (lightUser.setDarkMode readOnly 0).1.getDarkMode noon = .alwaysDark ∧
      ((lightUser.setDarkMode readOnly 0).1.setDarkMode noon 0).2 = .sysErr := by
  refine ⟨by decide, ?_, by decide, by decide⟩
  intro hatomic
  have hentry := congrFun (hatomic (by decide)) account
  exact absurd hentry (by decide)

end SetterAtomicity
end UiAppearance
