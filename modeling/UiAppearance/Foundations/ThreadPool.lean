import UiAppearance.Foundations.Transition

/-!
# Interleaved threads over one shared state

A thread is its local state, an atomic step is a partial function on the
shared state and that local state, and a label names the thread that moves.
A label whose thread is absent or blocked leaves the pool as it is, so every
list of labels is a schedule.
-/

namespace UiAppearance

/-- A shared state and the local states of finitely many threads. -/
structure Pool (σ τ : Type*) where
  shared : σ
  threads : List τ

namespace Pool

variable {σ τ ℓ : Type*} (act : ℓ → σ → τ → Option (σ × τ))

/-- One atomic step of the thread with the given index. -/
def next (p : Pool σ τ) (e : ℕ × ℓ) : Pool σ τ :=
  match p.threads[e.1]? with
  | none => p
  | some t =>
    match act e.2 p.shared t with
    | none => p
    | some r => ⟨r.1, p.threads.set e.1 r.2⟩

/-- A step is idle, or it is one enabled action of one thread and changes nothing else. -/
theorem next_cases (p : Pool σ τ) (e : ℕ × ℓ) :
    p.next act e = p ∨ ∃ t s' t', p.threads[e.1]? = some t ∧
      act e.2 p.shared t = some (s', t') ∧ p.next act e = ⟨s', p.threads.set e.1 t'⟩ := by
  cases ht : p.threads[e.1]? with
  | none => exact .inl (by simp [next, ht])
  | some t =>
    cases ha : act e.2 p.shared t with
    | none => exact .inl (by simp [next, ht, ha])
    | some r => exact .inr ⟨t, r.1, r.2, rfl, ha, by simp [next, ht, ha]⟩

/-- Thread `i` after its own step, and every other thread where it was. -/
theorem threads_set_cases {ts : List τ} {i j : ℕ} {t u : τ} (h : (ts.set i t)[j]? = some u) :
    (j = i ∧ u = t) ∨ (j ≠ i ∧ ts[j]? = some u) := by
  rw [List.getElem?_set] at h
  by_cases hij : i = j
  · rw [if_pos hij] at h
    split_ifs at h with hlt
    exact .inl ⟨hij.symm, (Option.some.inj h).symm⟩
  · rw [if_neg hij] at h
    exact .inr ⟨fun e => hij e.symm, h⟩

theorem mem_set_self {ts : List τ} {i : ℕ} {t t' : τ} (ht : ts[i]? = some t) :
    t' ∈ ts.set i t' := by
  obtain ⟨hlt, -⟩ := List.getElem?_eq_some_iff.mp ht
  exact List.mem_set hlt t'

/-- A thread that has not moved is still there. -/
theorem mem_set_of_ne {ts : List τ} {i : ℕ} {t t' u : τ} (ht : ts[i]? = some t) (hu : u ∈ ts)
    (hne : u ≠ t) : u ∈ ts.set i t' := by
  obtain ⟨j, hj⟩ := List.mem_iff_getElem?.mp hu
  have hij : i ≠ j := by
    rintro rfl
    rw [ht] at hj
    exact hne (Option.some.inj hj).symm
  apply List.mem_iff_getElem?.mpr
  exact ⟨j, by rw [List.getElem?_set_ne hij, hj]⟩

/-- A thread that is not the one that ends is still there. -/
theorem mem_eraseIdx_of_ne {ts : List τ} {i : ℕ} {t u : τ} (ht : ts[i]? = some t) (hu : u ∈ ts)
    (hne : u ≠ t) : u ∈ ts.eraseIdx i := by
  obtain ⟨j, hj⟩ := List.mem_iff_getElem?.mp hu
  apply List.mem_eraseIdx_iff_getElem?.mpr
  refine ⟨j, ?_, hj⟩
  rintro rfl
  exact hne (Option.some.inj (hj.symm.trans ht))

/-- Some thread has a property unless the only one that had it moved and lost it. -/
theorem exists_mem_set {ts : List τ} {i : ℕ} {t t' : τ} {P : τ → Prop} (ht : ts[i]? = some t)
    (hmove : P t → P t') (h : ∃ u ∈ ts, P u) : ∃ u ∈ ts.set i t', P u := by
  obtain ⟨u, hu, hP⟩ := h
  by_cases hne : u = t
  · subst hne
    exact ⟨t', mem_set_self ht, hmove hP⟩
  · exact ⟨u, mem_set_of_ne ht hu hne, hP⟩

end Pool
end UiAppearance
