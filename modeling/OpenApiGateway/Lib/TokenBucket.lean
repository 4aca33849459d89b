import Mathlib.Algebra.Order.Field.Basic
import Mathlib.Tactic.Linarith
import Mathlib.Tactic.Ring

/-!
# Token buckets

A bucket with a capacity gains tokens at a constant rate and loses one at each admitted call.
Two things are said of it here, over any ordered field. Its level can be brought up to date
as often as one likes: refilling in two parts is refilling once (`level_level`). And the calls
it admits are paid for by what it held at first and what it gained since: `Funded` is the
balance that every admission and every refill keeps, and `Funded.length_le` reads the bound
on the number of admissions off it.
-/

namespace Lib.TokenBucket

variable {K : Type*} [Field K] [LinearOrder K]

/-- What a bucket holds after refilling for some time. -/
def level (capacity rate tokens elapsed : K) : K := min (tokens + rate * elapsed) capacity

section Level
variable {capacity rate tokens elapsed later : K}

theorem level_le_capacity : level capacity rate tokens elapsed ≤ capacity := min_le_right _ _

theorem level_le_add : level capacity rate tokens elapsed ≤ tokens + rate * elapsed :=
  min_le_left _ _

/-- A bucket that had time enough is full. -/
theorem level_eq_capacity (h : capacity ≤ tokens + rate * elapsed) :
    level capacity rate tokens elapsed = capacity :=
  min_eq_right h

theorem level_zero (h : tokens ≤ capacity) : level capacity rate tokens 0 = tokens := by
  rw [level, mul_zero, add_zero]
  exact min_eq_left h

variable [IsStrictOrderedRing K]

/-- Refilling in two parts is refilling once. -/
theorem level_level (hrate : 0 ≤ rate) (hlater : 0 ≤ later) :
    level capacity rate (level capacity rate tokens elapsed) later =
      level capacity rate tokens (elapsed + later) := by
  have hgain : 0 ≤ rate * later := mul_nonneg hrate hlater
  have hsum : tokens + rate * (elapsed + later) = tokens + rate * elapsed + rate * later := by
    ring
  unfold level
  rw [hsum]
  rcases le_total (tokens + rate * elapsed) capacity with h | h
  · rw [min_eq_left h]
  · -- the bucket was full in between and stays full
    rw [min_eq_right h, min_eq_right (by linarith), min_eq_right (by linarith)]

/-- There is a token once its part that is missing has been gained. -/
theorem one_le_level_iff (hcapacity : 1 ≤ capacity) (hrate : 0 < rate) :
    1 ≤ level capacity rate tokens elapsed ↔ (1 - tokens) / rate ≤ elapsed := by
  rw [level, le_min_iff, and_iff_left hcapacity, div_le_iff₀' hrate, sub_le_iff_le_add']

end Level

/-! ## Paying for admissions -/

/-- The balance of a bucket with `tokens` at time `now` that admitted calls at the times
`admitted`, in order: what was admitted and what is left come from the capacity and from the
gain since the first admission. -/
def Funded (capacity rate tokens now : K) (admitted : List K) : Prop :=
  ∀ first, admitted.head? = some first → tokens + admitted.length ≤ capacity + rate * (now - first)

section Funded
variable {capacity rate tokens tokens' now now' : K} {admitted : List K}

theorem Funded.nil : Funded capacity rate tokens now [] := by
  intro first hfirst
  simp at hfirst

variable [IsStrictOrderedRing K]

/-- A refill keeps the balance. -/
theorem Funded.refill (h : Funded capacity rate tokens now admitted)
    (hle : tokens' ≤ tokens + rate * (now' - now)) :
    Funded capacity rate tokens' now' admitted := by
  intro first hfirst
  have hbefore := h first hfirst
  have hsplit : rate * (now' - first) = rate * (now' - now) + rate * (now - first) := by ring
  linarith

/-- An admission keeps the balance. The first one is paid from the capacity, a later one also
from the gain since the last refill. -/
theorem Funded.after_admission (h : Funded capacity rate tokens now admitted)
    (hcapacity : tokens' + 1 ≤ capacity)
    (hle : admitted ≠ [] → tokens' + 1 ≤ tokens + rate * (now' - now)) :
    Funded capacity rate tokens' now' (admitted ++ [now']) := by
  intro first hfirst
  cases admitted with
  | nil =>
    simp only [List.nil_append, List.head?_cons, Option.some.injEq] at hfirst
    subst hfirst
    simpa using hcapacity
  | cons time times =>
    simp only [List.cons_append, List.head?_cons, Option.some.injEq] at hfirst
    subst hfirst
    have hbefore := h time rfl
    have hgain := hle (by simp)
    have hsplit : rate * (now' - time) = rate * (now' - now) + rate * (now - time) := by ring
    rw [List.length_append, List.length_singleton]
    push_cast
    linarith

/-- A bucket that is not overdrawn admitted no more than its capacity and its gain. -/
theorem Funded.length_le (h : Funded capacity rate tokens now admitted) (htokens : 0 ≤ tokens)
    {first : K} (hfirst : admitted.head? = some first) :
    (admitted.length : K) ≤ capacity + rate * (now - first) := by
  have hbalance := h first hfirst
  linarith

end Funded

end Lib.TokenBucket
