import Mathlib.Data.List.Basic

/-!
# A notification primitive

Waiters queue up at a `Notify`. `notifyOne` wakes the oldest of them or, if there is none,
stores one permit, which the next waiter takes at once; `notifyWaiters` wakes all that are
queued and stores nothing. A woken waiter learns of it when it is polled. A waiter that is
dropped after `notifyOne` woke it, and before it was polled, hands its notification on.

A waiter comes back with a single notification or because `notifyWaiters` released it
(`mem_released_of_poll`), and only `notifyWaiters` releases anybody.
-/

namespace Lib

/-- The state of a notification primitive: the stored permit, the queue, oldest first, and
those woken by `notifyOne` or by `notifyWaiters` that were not polled since. -/
structure Notify (ω : Type*) where
  permit : Bool := false
  waiters : List ω := []
  signalled : List ω := []
  released : List ω := []
deriving DecidableEq

namespace Notify
variable {ω : Type*}

/-- The oldest waiter gets the notification; without one a permit is stored, and never two. -/
def notifyOne (n : Notify ω) : Notify ω :=
  match n.waiters with
  | [] => { n with permit := true }
  | w :: ws => { n with waiters := ws, signalled := w :: n.signalled }

/-- All that wait are released; no permit is stored. -/
def notifyWaiters (n : Notify ω) : Notify ω :=
  { n with waiters := [], released := n.waiters ++ n.released }

/-- The waiter is queued, or released and not polled since. -/
def Knows (n : Notify ω) (w : ω) : Prop := w ∈ n.waiters ∨ w ∈ n.released

section Wake
variable {n : Notify ω} {w : ω}

/-- Only `notifyWaiters` releases waiters. -/
@[simp]
theorem released_notifyOne : n.notifyOne.released = n.released := by
  unfold notifyOne
  split <;> rfl

theorem knows_of_notifyOne (h : n.notifyOne.Knows w) : n.Knows w := by
  unfold notifyOne at h
  split at h
  · exact h
  · rename_i v ws hwaiters
    rcases h with h | h
    · exact Or.inl (hwaiters ▸ List.mem_cons_of_mem v h)
    · exact Or.inr h

theorem knows_of_notifyWaiters (h : n.notifyWaiters.Knows w) : n.Knows w := by
  rcases h with h | h
  · exact absurd h List.not_mem_nil
  · exact List.mem_append.mp h

end Wake

variable [DecidableEq ω]

/-- Take a waiter out, wherever it is. -/
def remove (n : Notify ω) (w : ω) : Notify ω :=
  { n with
    waiters := n.waiters.filter (· ≠ w)
    signalled := n.signalled.filter (· ≠ w)
    released := n.released.filter (· ≠ w) }

/-- Poll a waiter: whether it is done, and if not, it is in the queue. -/
def poll (n : Notify ω) (w : ω) : Bool × Notify ω :=
  if w ∈ n.signalled ∨ w ∈ n.released then (true, n.remove w)
  else if w ∈ n.waiters then (false, n)
  else if n.permit then (true, { n with permit := false })
  else (false, { n with waiters := n.waiters ++ [w] })

/-- Polling the waiter takes a single notification, the stored permit or one it was woken with. -/
def TakesOne (n : Notify ω) (w : ω) : Prop :=
  w ∉ n.released ∧ (w ∈ n.signalled ∨ w ∉ n.waiters ∧ n.permit = true)

instance (n : Notify ω) (w : ω) : Decidable (n.TakesOne w) :=
  inferInstanceAs (Decidable (w ∉ n.released ∧ (w ∈ n.signalled ∨ w ∉ n.waiters ∧ n.permit = true)))

/-- Drop a waiter. -/
def drop (n : Notify ω) (w : ω) : Notify ω :=
  if w ∈ n.signalled then (n.remove w).notifyOne else n.remove w

section Poll
variable {n : Notify ω} {w w' : ω}

/-- A waiter that comes back with no single notification was released. -/
theorem mem_released_of_poll (hready : (n.poll w).1 = true) (hone : ¬ n.TakesOne w) :
    w ∈ n.released := by
  by_contra hreleased
  apply hone
  refine ⟨hreleased, ?_⟩
  unfold poll at hready
  split at hready
  · rename_i hwoken
    exact Or.inl (hwoken.resolve_right hreleased)
  · split at hready
    · simp at hready
    · rename_i hwaiting
      right
      refine ⟨hwaiting, ?_⟩
      by_contra hpermit
      simp [hpermit] at hready

theorem mem_of_mem_released_remove (h : w ∈ (n.remove w').released) : w ∈ n.released :=
  (List.mem_filter.mp h).1

/-- A poll releases nobody. -/
theorem mem_of_mem_released_poll (h : w ∈ (n.poll w').2.released) : w ∈ n.released := by
  unfold poll at h
  split at h
  · exact mem_of_mem_released_remove h
  · split at h
    · exact h
    · split at h <;> exact h

theorem mem_of_mem_released_drop (h : w ∈ (n.drop w').released) : w ∈ n.released := by
  unfold drop at h
  split at h
  · rw [released_notifyOne] at h
    exact mem_of_mem_released_remove h
  · exact mem_of_mem_released_remove h

theorem knows_of_remove (h : (n.remove w').Knows w) : n.Knows w ∧ w ≠ w' := by
  rcases h with h | h
  · obtain ⟨hmem, hne⟩ := List.mem_filter.mp h
    exact ⟨Or.inl hmem, of_decide_eq_true hne⟩
  · obtain ⟨hmem, hne⟩ := List.mem_filter.mp h
    exact ⟨Or.inr hmem, of_decide_eq_true hne⟩

/-- A waiter that is dropped is forgotten, and no other becomes known. -/
theorem knows_of_drop (h : (n.drop w').Knows w) : n.Knows w ∧ w ≠ w' := by
  unfold drop at h
  split at h
  · exact knows_of_remove (knows_of_notifyOne h)
  · exact knows_of_remove h

/-- Polling makes nobody known but the polled waiter, and that only if it is not done. -/
theorem knows_of_poll (h : (n.poll w').2.Knows w) :
    (n.Knows w ∧ w ≠ w') ∨ (w = w' ∧ (n.poll w').1 = false) := by
  unfold poll at h ⊢
  split at h
  · exact Or.inl (knows_of_remove h)
  · rename_i hwoken
    rw [if_neg hwoken]
    by_cases hw : w = w'
    · right
      refine ⟨hw, ?_⟩
      subst hw
      split at h
      · rename_i hqueued
        rw [if_pos hqueued]
      · rename_i hqueued
        rw [if_neg hqueued]
        split at h
        · -- it took the permit, so it is in no list
          exact absurd h (not_or.mpr ⟨hqueued, (not_or.mp hwoken).2⟩)
        · rename_i hpermit
          rw [if_neg hpermit]
    · left
      refine ⟨?_, hw⟩
      split at h
      · exact h
      · split at h
        · exact h
        · rcases h with h | h
          · rcases List.mem_append.mp h with h | h
            · exact Or.inl h
            · exact absurd (List.mem_singleton.mp h) hw
          · exact Or.inr h

end Poll

end Notify

end Lib
