import UiAppearance.Foundations.ThreadPool
import Mathlib.Logic.Function.Basic
import Mathlib.Logic.Relation

/-!
# Scoped locks

Code is seen only through its scoped locks: a lock is taken at the start of a
block and given back at its end, blocks follow one another, branch and repeat.
A thread executes one of the action sequences such code can perform. Locks
are not recursive. A deadlock is a cycle of threads, each waiting for a lock
that the next one holds; a thread waiting for its own lock is a cycle of
length one.
-/

namespace UiAppearance
namespace ScopedLocks

variable {L : Type*}

inductive Action (L : Type*) where
  | acquire (l : L)
  | release (l : L)
  deriving DecidableEq

/-- Control flow around scoped locks; everything else is forgotten. -/
inductive Prog (L : Type*) where
  | skip
  | withLock (l : L) (body : Prog L)
  | seq (p q : Prog L)
  | choice (p q : Prog L)
  | loop (p : Prog L)

/-- The action sequences of a program, one for each resolution of its choices. -/
inductive Trace : Prog L → List (Action L) → Prop
  | skip : Trace .skip []
  | withLock {l body as} : Trace body as →
      Trace (.withLock l body) (.acquire l :: (as ++ [.release l]))
  | seq {p q as bs} : Trace p as → Trace q bs → Trace (.seq p q) (as ++ bs)
  | left {p q as} : Trace p as → Trace (.choice p q) as
  | right {p q bs} : Trace q bs → Trace (.choice p q) bs
  | done {p} : Trace (.loop p) []
  | again {p as bs} : Trace p as → Trace (.loop p) bs → Trace (.loop p) (as ++ bs)

/-- Every lock is taken under a stack of locks that `nested` allows for it. -/
def Prog.Nests (nested : List L → L → Prop) : List L → Prog L → Prop
  | _, .skip => True
  | held, .withLock l body => nested held l ∧ body.Nests nested (l :: held)
  | held, .seq p q => p.Nests nested held ∧ q.Nests nested held
  | held, .choice p q => p.Nests nested held ∧ q.Nests nested held
  | held, .loop p => p.Nests nested held

instance Prog.decidableNests (nested : List L → L → Prop) [∀ h l, Decidable (nested h l)] :
    ∀ held (p : Prog L), Decidable (p.Nests nested held)
  | _, .skip => isTrue trivial
  | held, .withLock l body =>
    have := Prog.decidableNests nested (l :: held) body
    inferInstanceAs (Decidable (nested held l ∧ body.Nests nested (l :: held)))
  | held, .seq p q =>
    have := Prog.decidableNests nested held p
    have := Prog.decidableNests nested held q
    inferInstanceAs (Decidable (p.Nests nested held ∧ q.Nests nested held))
  | held, .choice p q =>
    have := Prog.decidableNests nested held p
    have := Prog.decidableNests nested held q
    inferInstanceAs (Decidable (p.Nests nested held ∧ q.Nests nested held))
  | held, .loop p => Prog.decidableNests nested held p

/-- A thread: the locks it holds, innermost first, and the actions it has left. -/
structure Thread (L : Type*) where
  held : List L
  rest : List (Action L)

/-- The lock a thread takes next. -/
def Thread.wanted (t : Thread L) : Option L :=
  match t.rest with
  | .acquire l :: _ => some l
  | _ => none

/-- What is left is properly scoped above the held stack and nests as allowed. -/
def Disciplined (nested : List L → L → Prop) : List L → List (Action L) → Prop
  | held, [] => held = []
  | held, .acquire l :: rest => nested held l ∧ Disciplined nested (l :: held) rest
  | held, .release l :: rest => ∃ outer, held = l :: outer ∧ Disciplined nested outer rest

theorem Trace.disciplined {nested : List L → L → Prop} {p : Prog L} {as : List (Action L)}
    (h : Trace p as) : ∀ {held rest}, p.Nests nested held → Disciplined nested held rest →
      Disciplined nested held (as ++ rest) := by
  induction h with
  | skip =>
    intro held rest _ hrest
    exact hrest
  | @withLock l body as _ ih =>
    intro held rest hn hrest
    refine ⟨hn.1, ?_⟩
    change Disciplined nested (l :: held) (as ++ [.release l] ++ rest)
    rw [List.append_assoc]
    exact ih hn.2 ⟨held, rfl, hrest⟩
  | seq _ _ ihp ihq =>
    intro held rest hn hrest
    rw [List.append_assoc]
    exact ihp hn.1 (ihq hn.2 hrest)
  | left _ ih =>
    intro held rest hn hrest
    exact ih hn.1 hrest
  | right _ ih =>
    intro held rest hn hrest
    exact ih hn.2 hrest
  | done =>
    intro held rest _ hrest
    exact hrest
  | again _ _ ihp ihl =>
    intro held rest hn hrest
    rw [List.append_assoc]
    exact ihp hn (ihl hn hrest)

/-- Threads that have not started, one for each action sequence. -/
def start (traces : List (List (Action L))) : Pool (L → Bool) (Thread L) :=
  ⟨fun _ => false, traces.map fun as => ⟨[], as⟩⟩

theorem start_threads {traces : List (List (Action L))} {j : ℕ} {t : Thread L}
    (h : (start traces).threads[j]? = some t) : ∃ as ∈ traces, t = ⟨[], as⟩ := by
  have hm := List.mem_of_getElem? h
  obtain ⟨as, has, rfl⟩ := List.mem_map.mp hm
  exact ⟨as, has, rfl⟩

/-- Thread `i` waits for a lock that thread `j` holds. -/
def Waits (p : Pool (L → Bool) (Thread L)) (i j : ℕ) : Prop :=
  ∃ t u l, p.threads[i]? = some t ∧ t.wanted = some l ∧ p.threads[j]? = some u ∧ l ∈ u.held

def Deadlocked (p : Pool (L → Bool) (Thread L)) : Prop :=
  ∃ i, Relation.TransGen (Waits p) i i

/-- A cycle continues from each of its members to another one. -/
theorem cycle_next {p : Pool (L → Bool) (Thread L)} {i : ℕ}
    (h : Relation.TransGen (Waits p) i i) :
    ∃ j, Waits p i j ∧ Relation.TransGen (Waits p) j j := by
  rcases (Relation.TransGen.head'_iff).mp h with ⟨j, hij, hji⟩
  exact ⟨j, hij, (Relation.TransGen.tail' hji hij)⟩

theorem Waits.wanted {p : Pool (L → Bool) (Thread L)} {i j : ℕ} {t : Thread L}
    (h : Waits p i j) (ht : p.threads[i]? = some t) :
    ∃ l u, t.wanted = some l ∧ p.threads[j]? = some u ∧ l ∈ u.held := by
  obtain ⟨t', u, l, ht', hw, hu, hl⟩ := h
  rw [ht] at ht'
  obtain rfl := Option.some.inj ht'
  exact ⟨l, u, hw, hu, hl⟩

theorem Disciplined.nested_wanted {nested : List L → L → Prop} {t : Thread L} {l : L}
    (h : Disciplined nested t.held t.rest) (hw : t.wanted = some l) : nested t.held l := by
  unfold Thread.wanted at hw
  split at hw
  · next m rest hr =>
    obtain rfl := Option.some.inj hw
    rw [hr] at h
    exact h.1
  · cases hw

variable [DecidableEq L]

/-- Taking a lock needs it free; giving one back always succeeds. -/
def act (_ : Unit) (locked : L → Bool) (t : Thread L) : Option ((L → Bool) × Thread L) :=
  match t.rest with
  | [] => none
  | .acquire l :: rest =>
    if locked l then none else some (Function.update locked l true, ⟨l :: t.held, rest⟩)
  | .release l :: rest => some (Function.update locked l false, ⟨t.held.erase l, rest⟩)

/-- An enabled action either pushes the wanted lock or gives one back. -/
theorem act_cases {locked locked' : L → Bool} {t t' : Thread L}
    (h : act () locked t = some (locked', t')) :
    (∃ l rest, t.rest = .acquire l :: rest ∧ t' = ⟨l :: t.held, rest⟩) ∨
      (∃ l rest, t.rest = .release l :: rest ∧ t' = ⟨t.held.erase l, rest⟩) := by
  unfold act at h
  split at h
  · cases h
  · next l rest hr =>
    split_ifs at h
    obtain ⟨-, rfl⟩ := Prod.mk.inj (Option.some.inj h)
    exact .inl ⟨l, rest, hr, rfl⟩
  · next l rest hr =>
    obtain ⟨-, rfl⟩ := Prod.mk.inj (Option.some.inj h)
    exact .inr ⟨l, rest, hr, rfl⟩

theorem act_disciplined {nested : List L → L → Prop} {locked locked' : L → Bool}
    {t t' : Thread L} (ht : Disciplined nested t.held t.rest)
    (h : act () locked t = some (locked', t')) : Disciplined nested t'.held t'.rest := by
  rcases act_cases h with ⟨l, rest, hr, rfl⟩ | ⟨l, rest, hr, rfl⟩
  · rw [hr] at ht
    exact ht.2
  · rw [hr] at ht
    obtain ⟨outer, ho, hrest⟩ := ht
    simpa [ho] using hrest

/-- The held stack arose from permitted acquisitions. -/
def Stacked (nested : List L → L → Prop) : List L → Prop
  | [] => True
  | l :: outer => nested outer l ∧ Stacked nested outer

omit [DecidableEq L] in
theorem Stacked.nodup {nested : List L → L → Prop} (hre : ∀ held l, nested held l → l ∉ held) :
    ∀ {held : List L}, Stacked nested held → held.Nodup
  | [], _ => List.nodup_nil
  | l :: outer, h => List.nodup_cons.mpr ⟨hre outer l h.1, h.2.nodup hre⟩

/-- What every thread of the system satisfies between two actions. -/
def Wellscoped (nested : List L → L → Prop) (t : Thread L) : Prop :=
  Stacked nested t.held ∧ Disciplined nested t.held t.rest

theorem act_wellscoped {nested : List L → L → Prop} {locked locked' : L → Bool}
    {t t' : Thread L} (ht : Wellscoped nested t) (h : act () locked t = some (locked', t')) :
    Wellscoped nested t' := by
  refine ⟨?_, act_disciplined ht.2 h⟩
  rcases act_cases h with ⟨l, rest, hr, rfl⟩ | ⟨l, rest, hr, rfl⟩
  · have hd := ht.2
    rw [hr] at hd
    exact ⟨hd.1, ht.1⟩
  · have hd := ht.2
    rw [hr] at hd
    obtain ⟨outer, ho, -⟩ := hd
    have hs := ht.1
    rw [ho] at hs
    simpa [ho] using hs.2

section Crossing

variable (a b : L)

/-- The lock `b` is still to be taken before `a` is given back. -/
def TakesBefore (rest : List (Action L)) : Prop :=
  .acquire b ∈ rest.takeWhile (· ≠ .release a)

/-- Inside a block of `a`, with `b` still to be taken in it. -/
def Thread.Within (t : Thread L) : Prop := a ∈ t.held ∧ TakesBefore a b t.rest

/-- About to start a block of `a` in which `b` will be taken. -/
def Thread.Enters (t : Thread L) : Prop :=
  match t.rest with
  | .acquire l :: rest => l = a ∧ TakesBefore a b rest
  | _ => False

/-- Two threads nest the same two locks in opposite orders at the same time. -/
def Crossing (p : Pool (L → Bool) (Thread L)) : Prop :=
  ∃ (i j : ℕ) (t u : Thread L), i ≠ j ∧ p.threads[i]? = some t ∧ p.threads[j]? = some u ∧
    t.Within a b ∧ u.Within b a

/-- The step does not start such a block while another thread is in an opposite one. -/
def Avoids (p : Pool (L → Bool) (Thread L)) (e : ℕ × Unit) : Prop :=
  ∀ (j : ℕ) (t u : Thread L), j ≠ e.1 → p.threads[e.1]? = some t → p.threads[j]? = some u →
    ¬(t.Enters a b ∧ u.Within b a) ∧ ¬(t.Enters b a ∧ u.Within a b)

instance (rest : List (Action L)) : Decidable (TakesBefore a b rest) :=
  inferInstanceAs (Decidable (_ ∈ _))

instance (t : Thread L) : Decidable (t.Within a b) := inferInstanceAs (Decidable (_ ∧ _))

instance (t : Thread L) : Decidable (t.Enters a b) := by
  unfold Thread.Enters
  split <;> infer_instance

instance (p : Pool (L → Bool) (Thread L)) (e : ℕ × Unit) : Decidable (Avoids a b p e) :=
  decidable_of_iff (∀ j : Fin p.threads.length, j.1 ≠ e.1 → ∀ t ∈ p.threads[e.1]?,
    ¬(t.Enters a b ∧ p.threads[j].Within b a) ∧ ¬(t.Enters b a ∧ p.threads[j].Within a b)) <| by
  constructor
  · intro h j t u hj ht hu
    obtain ⟨hlt, rfl⟩ := List.getElem?_eq_some_iff.mp hu
    exact h ⟨j, hlt⟩ hj t ht
  · intro h j hj t ht
    exact h j t _ hj ht (List.getElem?_eq_getElem j.2)

variable {a b}

theorem Thread.Within.of_wanted {t : Thread L} (hheld : a ∈ t.held)
    (hw : t.wanted = some b) : t.Within a b := by
  refine ⟨hheld, ?_⟩
  unfold Thread.wanted at hw
  split at hw
  · next l rest hr =>
    obtain rfl := Option.some.inj hw
    simp [TakesBefore, hr]
  · cases hw

/-- A thread gets into such a block only by starting it. -/
theorem act_within {nested : List L → L → Prop} (hre : ∀ held l, nested held l → l ∉ held)
    {locked locked' : L → Bool} {t t' : Thread L} (ht : Wellscoped nested t)
    (h : act () locked t = some (locked', t')) (hw : t'.Within a b) :
    t.Within a b ∨ t.Enters a b := by
  obtain ⟨hheld, htakes⟩ := hw
  rcases act_cases h with ⟨l, rest, hr, rfl⟩ | ⟨l, rest, hr, rfl⟩
  · rcases List.mem_cons.mp hheld with rfl | hheld
    · refine .inr ?_
      unfold Thread.Enters
      rw [hr]
      exact ⟨rfl, htakes⟩
    · refine .inl ⟨hheld, ?_⟩
      unfold TakesBefore at htakes ⊢
      rw [hr, List.takeWhile_cons_of_pos (by simp)]
      exact List.mem_cons_of_mem _ htakes
  · have hd := ht.2
    rw [hr] at hd
    obtain ⟨outer, ho, -⟩ := hd
    have hnodup := ht.1.nodup hre
    rw [ho] at hnodup
    simp only [ho, List.erase_cons_head] at hheld
    have hne : l ≠ a := by
      rintro rfl
      exact (List.nodup_cons.mp hnodup).1 hheld
    refine .inl ⟨by rw [ho]; exact List.mem_cons_of_mem _ hheld, ?_⟩
    unfold TakesBefore at htakes ⊢
    rw [hr, List.takeWhile_cons_of_pos (by simpa using hne)]
    exact List.mem_cons_of_mem _ htakes

/-- Wellscoped threads stay so, whatever the step. -/
theorem wellscoped_next {nested : List L → L → Prop} {p : Pool (L → Bool) (Thread L)}
    (e : ℕ × Unit) (hp : ∀ (j : ℕ) (u : Thread L), p.threads[j]? = some u → Wellscoped nested u) :
    ∀ (j : ℕ) (u : Thread L), (p.next act e).threads[j]? = some u → Wellscoped nested u := by
  intro j u hu
  rcases Pool.next_cases act p e with heq | ⟨t, s', t', ht, ha, heq⟩
  · rw [heq] at hu
    exact hp j u hu
  · rw [heq] at hu
    rcases Pool.threads_set_cases hu with ⟨-, rfl⟩ | ⟨-, hold⟩
    · exact act_wellscoped (hp _ _ ht) ha
    · exact hp j u hold

/-- As long as the steps avoid it, no crossing arises. -/
theorem not_crossing_next {nested : List L → L → Prop}
    (hre : ∀ held l, nested held l → l ∉ held) {p : Pool (L → Bool) (Thread L)} {e : ℕ × Unit}
    (hp : ∀ (j : ℕ) (u : Thread L), p.threads[j]? = some u → Wellscoped nested u)
    (hnot : ¬Crossing a b p) (hok : Avoids a b p e) : ¬Crossing a b (p.next act e) := by
  rcases Pool.next_cases act p e with heq | ⟨t, s', t', ht, ha, heq⟩
  · rw [heq]
    exact hnot
  · rw [heq]
    rintro ⟨i, j, u, v, hij, hu, hv, huw, hvw⟩
    rcases Pool.threads_set_cases hu with ⟨rfl, rfl⟩ | ⟨hi, hu'⟩
    · rcases Pool.threads_set_cases hv with ⟨rfl, -⟩ | ⟨hj, hv'⟩
      · exact hij rfl
      · rcases act_within hre (hp _ _ ht) ha huw with hold | henter
        · exact hnot ⟨e.1, j, t, v, hij, ht, hv', hold, hvw⟩
        · exact (hok j t v hj ht hv').1 ⟨henter, hvw⟩
    · rcases Pool.threads_set_cases hv with ⟨rfl, rfl⟩ | ⟨hj, hv'⟩
      · rcases act_within hre (hp _ _ ht) ha hvw with hold | henter
        · exact hnot ⟨i, e.1, u, t, hij, hu', ht, huw, hold⟩
        · exact (hok i t u hi ht hu').2 ⟨henter, huw⟩
      · exact hnot ⟨i, j, u, v, hij, hu', hv', huw, hvw⟩

/-- Along a run whose steps avoid it, threads stay wellscoped and no crossing is met. -/
theorem not_crossing_exec {nested : List L → L → Prop}
    (hre : ∀ held l, nested held l → l ∉ held) {p : Pool (L → Bool) (Thread L)}
    {es : List (ℕ × Unit)}
    (hp : ∀ (j : ℕ) (u : Thread L), p.threads[j]? = some u → Wellscoped nested u)
    (hnot : ¬Crossing a b p) (hok : Transition.Along (Pool.next act) (Avoids a b) p es) :
    (∀ (j : ℕ) (u : Thread L), (Transition.exec (Pool.next act) p es).threads[j]? = some u →
        Wellscoped nested u) ∧
      ¬Crossing a b (Transition.exec (Pool.next act) p es) := by
  refine Transition.exec_invariant (I := fun p => (∀ (j : ℕ) (u : Thread L),
    p.threads[j]? = some u → Wellscoped nested u) ∧ ¬Crossing a b p) ?_ ⟨hp, hnot⟩ hok
  intro q e hq hstep
  exact ⟨wellscoped_next e hq.1, not_crossing_next hre hq.1 hq.2 hstep⟩

end Crossing

omit [DecidableEq L] in
/-- Threads that execute code with permitted nestings start wellscoped and hold nothing. -/
theorem wellscoped_start {nested : List L → L → Prop} {traces : List (List (Action L))}
    (htraces : ∀ as ∈ traces, ∃ code : Prog L, code.Nests nested [] ∧ Trace code as) {j : ℕ}
    {t : Thread L} (h : (start traces).threads[j]? = some t) :
    Wellscoped nested t ∧ t.held = [] := by
  obtain ⟨as, has, rfl⟩ := start_threads h
  obtain ⟨code, hnests, htrace⟩ := htraces as has
  have hd : Disciplined nested [] (as ++ []) := htrace.disciplined hnests rfl
  rw [List.append_nil] at hd
  exact ⟨⟨trivial, hd⟩, rfl⟩

end ScopedLocks
end UiAppearance
