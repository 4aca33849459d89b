import Mathlib.Algebra.GroupWithZero.Nat
import Mathlib.Data.List.Basic
import Mathlib.Data.List.Induction

/-!
# Runs of a transition system

A system is a partial step function: `step s a = some s'` when action `a` can be taken in
state `s`. `Run step allowed s₀ s` says that `s` is reached from `s₀` by steps each of which
met the condition `allowed` in the state it started from. Two rules are used on it: the
invariant rule (`Run.invariant`, with a form for calls on a clock), and `run_of_runAll`, which
turns the evaluation of a concrete list of actions into a run. `runAll_invariant` and
`forall_prefix_iff` are the rules for a property of the history itself.
-/

namespace Lib.TransitionSystem

variable {σ α : Type*} {step : σ → α → Option σ} {allowed : σ → α → Prop} {s₀ s s' : σ}

/-- States reached from `s₀` by steps that each met `allowed`. -/
inductive Run (step : σ → α → Option σ) (allowed : σ → α → Prop) (s₀ : σ) : σ → Prop
  | init : Run step allowed s₀ s₀
  | snoc {s s' : σ} {a : α} : Run step allowed s₀ s → allowed s a → step s a = some s' →
      Run step allowed s₀ s'

/-- What holds at the start and is kept by every allowed step holds along every run. -/
theorem Run.invariant {I : σ → Prop} (h : Run step allowed s₀ s) (hinit : I s₀)
    (hstep : ∀ s a s', I s → allowed s a → step s a = some s' → I s') : I s := by
  induction h with
  | init => exact hinit
  | snoc _ hallowed hs ih => exact hstep _ _ _ ih hallowed hs

/-- A run whose steps met `allowed` also met anything weaker. -/
theorem Run.mono {weaker : σ → α → Prop} (h : Run step allowed s₀ s)
    (hweaker : ∀ s a, allowed s a → weaker s a) : Run step weaker s₀ s := by
  induction h with
  | init => exact .init
  | snoc _ hallowed hs ih => exact .snoc ih (hweaker _ _ hallowed) hs

/-- Take the actions of a list in order, each where it is allowed. -/
def runAll (step : σ → α → Option σ) (allowed : σ → α → Prop) [∀ s a, Decidable (allowed s a)] :
    σ → List α → Option σ
  | s, [] => some s
  | s, a :: as =>
    if allowed s a then (step s a).bind fun s' => runAll step allowed s' as else none

/-- Evaluating a list of actions gives a run. -/
theorem run_of_runAll [∀ s a, Decidable (allowed s a)] {as : List α}
    (h : runAll step allowed s as = some s') (hs : Run step allowed s₀ s) :
    Run step allowed s₀ s' := by
  induction as generalizing s with
  | nil =>
    simp only [runAll, Option.some.injEq] at h
    exact h ▸ hs
  | cons a as ih =>
    rw [runAll] at h
    split at h
    · rename_i hallowed
      obtain ⟨t, ht, hrest⟩ := Option.bind_eq_some_iff.mp h
      exact ih hrest (.snoc hs hallowed ht)
    · simp at h

theorem runAll_append [∀ s a, Decidable (allowed s a)] (s : σ) (as bs : List α) :
    runAll step allowed s (as ++ bs) =
      (runAll step allowed s as).bind fun s' => runAll step allowed s' bs := by
  induction as generalizing s with
  | nil => rfl
  | cons a as ih =>
    rw [List.cons_append, runAll, runAll]
    split
    · cases step s a with
      | none => rfl
      | some s' => exact ih s'
    · rfl

/-- What is read off a history, once one more action was taken. -/
theorem filterMap_concat {β : Type*} (f : α → Option β) (as : List α) (a : α) :
    (as ++ [a]).filterMap f = as.filterMap f ++ (f a).toList := by
  rw [List.filterMap_append]
  cases h : f a with
  | none => rw [List.filterMap_cons_none h]; rfl
  | some b => rw [List.filterMap_cons_some h]; rfl

/-- The same from some point of the history on. -/
theorem filterMap_drop_concat {β : Type*} (f : α → Option β) (as : List α) (a : α) (since : ℕ) :
    (as.length < since ∧ ((as ++ [a]).drop since).filterMap f = []) ∨
      ((as ++ [a]).drop since).filterMap f = (as.drop since).filterMap f ++ (f a).toList := by
  by_cases hsince : since ≤ as.length
  · right
    rw [List.drop_append_of_le_length hsince, filterMap_concat]
  · left
    rw [List.drop_eq_nil_of_le (by simp; omega), List.filterMap_nil]
    exact ⟨Nat.lt_of_not_le hsince, rfl⟩

/-- The invariant rule for a history together with the state it ends in. -/
theorem runAll_invariant [∀ s a, Decidable (allowed s a)] {I : List α → σ → Prop} {as : List α}
    (h : runAll step allowed s₀ as = some s) (hinit : I [] s₀)
    (hstep : ∀ as s a s', runAll step allowed s₀ as = some s → I as s → allowed s a →
      step s a = some s' → I (as ++ [a]) s') : I as s := by
  induction as using List.reverseRecOn generalizing s with
  | nil =>
    rw [runAll, Option.some.injEq] at h
    exact h ▸ hinit
  | append_singleton as a ih =>
    rw [runAll_append] at h
    obtain ⟨t, ht, hlast⟩ := Option.bind_eq_some_iff.mp h
    rw [runAll] at hlast
    split at hlast
    · rename_i hallowed
      obtain ⟨s', hs', hend⟩ := Option.bind_eq_some_iff.mp hlast
      rw [runAll, Option.some.injEq] at hend
      exact hend ▸ hstep as t a s' ht (ih ht) hallowed hs'
    · simp at hlast

/-- Where each step of a history decides whether a property is kept, the property holds all along
exactly if every step is fine. -/
theorem forall_prefix_iff {P : List α → Prop} {fine : List α → α → Prop} (hnil : P [])
    (hstep : ∀ pre a, P pre → (P (pre ++ [a]) ↔ fine pre a)) (as : List α) :
    (∀ pre, pre <+: as → P pre) ↔ ∀ pre a, pre ++ [a] <+: as → fine pre a := by
  constructor
  · intro h pre a hpre
    have hbefore := h pre ((List.prefix_append pre [a]).trans hpre)
    exact (hstep pre a hbefore).mp (h _ hpre)
  · intro h pre hpre
    induction pre using List.reverseRecOn with
    | nil => exact hnil
    | append_singleton pre a ih =>
      have hbefore := ih ((List.prefix_append pre [a]).trans hpre)
      exact (hstep pre a hbefore).mpr (h pre a hpre)

/-! ## Calls on a clock -/

section Clock
variable {ρ : Type*} {call : σ → ℕ → ρ × σ} {admissible : ℕ × σ → ℕ → Prop}

/-- A call at a time that is not before the last one. The time of the last call is kept beside
the state. -/
def clocked (call : σ → ℕ → ρ × σ) (s : ℕ × σ) (now : ℕ) : Option (ℕ × σ) :=
  if s.1 ≤ now then some (now, (call s.2 now).2) else none

/-- What holds of a state and the time of its last call, along every run of calls. -/
theorem Run.clocked_invariant {I : ℕ → σ → Prop} {start last : ℕ}
    (h : Run (clocked call) admissible (start, s₀) (last, s)) (hinit : I start s₀)
    (hstep : ∀ before s now, I before s → before ≤ now → admissible (before, s) now →
      I now (call s now).2) : I last s := by
  refine h.invariant (I := fun s => I s.1 s.2) hinit ?_
  rintro ⟨before, s⟩ now s' hs hadmissible hcall
  unfold clocked at hcall
  by_cases hle : before ≤ now
  · rw [if_pos hle, Option.some.injEq] at hcall
    rw [← hcall]
    exact hstep before s now hs hle hadmissible
  · rw [if_neg hle] at hcall
    exact absurd hcall (by simp)

end Clock

/-! ## Tasks kept in a list

A system of many tasks keeps them in a list; a step of one of them replaces its entry. -/

section Tasks
variable {τ : Type*} {tasks : List τ} {i : ℕ} {old task : τ}

/-- Every task but the replaced one is still there. -/
theorem eq_or_mem_set (hold : tasks[i]? = some old) (new : τ) (htask : task ∈ tasks) :
    task = old ∨ task ∈ tasks.set i new := by
  obtain ⟨j, hj⟩ := List.mem_iff_getElem?.mp htask
  by_cases hij : i = j
  · subst hij
    rw [hold, Option.some.injEq] at hj
    exact Or.inl hj.symm
  · right
    rw [List.mem_iff_getElem?]
    exact ⟨j, by rw [List.getElem?_set_ne hij, hj]⟩

theorem mem_set_self (hold : tasks[i]? = some old) (new : τ) : new ∈ tasks.set i new :=
  List.mem_set (List.getElem?_eq_some_iff.mp hold).1 new

theorem getElem?_set_self (hold : tasks[i]? = some old) (new : τ) :
    (tasks.set i new)[i]? = some new :=
  List.getElem?_set_self (List.getElem?_eq_some_iff.mp hold).1

/-- The tasks once one more has come. -/
theorem getElem?_concat_cases {new : τ} (h : (tasks ++ [new])[i]? = some task) :
    tasks[i]? = some task ∨ (tasks[i]? = none ∧ task = new) := by
  by_cases hi : i < tasks.length
  · rw [List.getElem?_append_left hi] at h
    exact Or.inl h
  · rw [Nat.not_lt] at hi
    have hmem := List.mem_of_getElem? (List.getElem?_append_right hi ▸ h)
    exact Or.inr ⟨List.getElem?_eq_none hi, List.mem_singleton.mp hmem⟩

theorem getElem?_concat_of_some (h : tasks[i]? = some task) (new : τ) :
    (tasks ++ [new])[i]? = some task :=
  (List.getElem?_append_left (List.getElem?_eq_some_iff.mp h).1).trans h

/-- How a count over the tasks changes when one of them is replaced. -/
theorem countP_set (hold : tasks[i]? = some old) (new : τ) (p : τ → Bool) :
    (tasks.set i new).countP p + (p old).toNat = tasks.countP p + (p new).toNat := by
  induction tasks generalizing i with
  | nil => simp at hold
  | cons head tail ih =>
    cases i with
    | zero =>
      have hhead : head = old := by simpa using hold
      rw [hhead, List.set_cons_zero, List.countP_cons, List.countP_cons]
      cases p old <;> cases p new <;> simp
    | succ i =>
      have htail := ih (i := i) (by simpa using hold)
      rw [List.set_cons_succ, List.countP_cons, List.countP_cons]
      omega

/-- How a sum over the tasks changes when one of them is replaced. -/
theorem sum_map_set (hold : tasks[i]? = some old) (new : τ) (f : τ → ℕ) :
    ((tasks.set i new).map f).sum + f old = (tasks.map f).sum + f new := by
  induction tasks generalizing i with
  | nil => simp at hold
  | cons head tail ih =>
    cases i with
    | zero =>
      have hhead : head = old := by simpa using hold
      rw [hhead, List.set_cons_zero, List.map_cons, List.map_cons, List.sum_cons, List.sum_cons]
      omega
    | succ i =>
      have htail := ih (i := i) (by simpa using hold)
      rw [List.set_cons_succ, List.map_cons, List.map_cons, List.sum_cons, List.sum_cons]
      omega

end Tasks

end Lib.TransitionSystem
