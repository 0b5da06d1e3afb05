import Mathlib.Data.List.Basic
import Mathlib.Tactic.Common

/-!
# Runs of labelled transition functions

A system is one total function `next`. Every choice left open (the event, the
schedule, the outcome of an external call) is part of the label, so a run is a
list of labels and the state after it is a fold. `Along P s es` says that `P`
holds at every step of the run, each time in the state before that step; it
is how a condition on steps enters an invariant argument.
-/

namespace UiAppearance
namespace Transition

variable {σ ε : Type*} (next : σ → ε → σ)

/-- State after a list of labels, oldest label first. -/
def exec (s : σ) (es : List ε) : σ := es.foldl next s

@[simp] theorem exec_cons (s : σ) (e : ε) (es : List ε) :
    exec next s (e :: es) = exec next (next s e) es := rfl

theorem exec_append (s : σ) (es fs : List ε) :
    exec next s (es ++ fs) = exec next (exec next s es) fs := by
  simp [exec, List.foldl_append]

/-- The step predicate `P` holds at every step of the run from `s`. -/
def Along (P : σ → ε → Prop) : σ → List ε → Prop
  | _, [] => True
  | s, e :: es => P s e ∧ Along P (next s e) es

instance decidableAlong (P : σ → ε → Prop) [∀ s e, Decidable (P s e)] :
    ∀ s es, Decidable (Along next P s es)
  | _, [] => isTrue trivial
  | s, e :: es =>
    have := decidableAlong P (next s e) es
    inferInstanceAs (Decidable (P s e ∧ Along next P (next s e) es))

variable {next}

/-- The invariant rule: one preserved step at a time, under a condition on the steps. -/
theorem exec_invariant {I : σ → Prop} {C : σ → ε → Prop}
    (hstep : ∀ s e, I s → C s e → I (next s e)) {s : σ} {es : List ε}
    (hs : I s) (hC : Along next C s es) : I (exec next s es) := by
  induction es generalizing s with
  | nil => exact hs
  | cons e es ih => exact ih (hstep s e hs hC.1) hC.2

/-- A conclusion about single steps, drawn from an invariant all along the run. -/
theorem along_of_invariant {I : σ → Prop} {C Q : σ → ε → Prop}
    (hstep : ∀ s e, I s → C s e → I (next s e)) (hQ : ∀ s e, I s → C s e → Q s e)
    {s : σ} {es : List ε} (hs : I s) (hC : Along next C s es) : Along next Q s es := by
  induction es generalizing s with
  | nil => trivial
  | cons e es ih => exact ⟨hQ s e hs hC.1, ih (hstep s e hs hC.1) hC.2⟩

/-- Where an invariant makes two step predicates equivalent, the same runs satisfy them. -/
theorem along_iff_of_invariant {I : σ → Prop} {C P Q : σ → ε → Prop}
    (hstep : ∀ s e, I s → C s e → P s e → I (next s e))
    (hiff : ∀ s e, I s → C s e → (P s e ↔ Q s e))
    {s : σ} {es : List ε} (hs : I s) (hC : Along next C s es) :
    Along next P s es ↔ Along next Q s es := by
  induction es generalizing s with
  | nil => exact Iff.rfl
  | cons e es ih =>
    have hhead := hiff s e hs hC.1
    constructor
    · rintro ⟨hP, hrest⟩
      exact ⟨hhead.mp hP, (ih (hstep s e hs hC.1 hP) hC.2).mp hrest⟩
    · rintro ⟨hQ, hrest⟩
      exact ⟨hhead.mpr hQ, (ih (hstep s e hs hC.1 (hhead.mpr hQ)) hC.2).mpr hrest⟩

theorem along_of_forall {P : ε → Prop} {s : σ} {es : List ε} (h : ∀ e ∈ es, P e) :
    Along next (fun _ e => P e) s es := by
  induction es generalizing s with
  | nil => trivial
  | cons e es ih =>
    exact ⟨h e List.mem_cons_self, ih fun f hf => h f (List.mem_cons_of_mem e hf)⟩

theorem along_mono {P Q : σ → ε → Prop} (h : ∀ s e, P s e → Q s e) {s : σ} {es : List ε}
    (hP : Along next P s es) : Along next Q s es :=
  along_of_invariant (I := fun _ => True) (fun _ _ _ _ => trivial) (fun s e _ => h s e) trivial hP

/-- Forward simulation: related steps, under a condition on the concrete ones, make related
runs. Every concrete label has one abstract label. -/
theorem exec_related {τ δ : Type*} {next' : τ → δ → τ} {label : ε → δ} {R : σ → τ → Prop}
    {C : σ → ε → Prop} (hstep : ∀ s t e, R s t → C s e → R (next s e) (next' t (label e)))
    {s : σ} {t : τ} {es : List ε} (hR : R s t) (hC : Along next C s es) :
    R (exec next s es) (exec next' t (es.map label)) := by
  induction es generalizing s t with
  | nil => exact hR
  | cons e es ih => exact ih (hstep s t e hR hC.1) hC.2

theorem along_and {P Q : σ → ε → Prop} {s : σ} {es : List ε} (hP : Along next P s es)
    (hQ : Along next Q s es) : Along next (fun s e => P s e ∧ Q s e) s es := by
  induction es generalizing s with
  | nil => trivial
  | cons e es ih => exact ⟨⟨hP.1, hQ.1⟩, ih hP.2 hQ.2⟩

end Transition
end UiAppearance
