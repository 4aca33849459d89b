import Mathlib.Algebra.Group.Nat.Defs
import Mathlib.Data.List.AList

/-!
# Labelled counters

A family of counters, one for each tuple of labels. A counter exists from its first increment
on, and holds a 64-bit float: adding one is exact below `2 ^ 53` and changes nothing from there
on. `total v p` is what a query over the counters with certain labels sums up; `total_inc` says
how it changes with one increment.
-/

namespace Lib.Counters

variable {κ : Type*} [DecidableEq κ]

/-- `n + 1.0` as a 64-bit float. -/
def addOne (n : ℕ) : ℕ := if n < 2 ^ 53 then n + 1 else n

abbrev CounterVec (κ : Type*) := AList fun _ : κ => ℕ

namespace CounterVec

def value (v : CounterVec κ) (labels : κ) : ℕ := (v.lookup labels).getD 0

def inc (v : CounterVec κ) (labels : κ) : CounterVec κ :=
  v.insert labels (addOne (v.value labels))

/-- The counters of a list of entries whose labels satisfy `p`, summed up. -/
def sumOf (p : κ → Bool) : List (Σ _ : κ, ℕ) → ℕ
  | [] => 0
  | entry :: entries => (if p entry.1 then entry.2 else 0) + sumOf p entries

/-- The sum of the counters whose labels satisfy `p`. -/
def total (v : CounterVec κ) (p : κ → Bool) : ℕ := sumOf p v.entries

/-- Taking a counter out of the entries takes its value out of the sum. -/
theorem sumOf_kerase (p : κ → Bool) (labels : κ) (entries : List (Σ _ : κ, ℕ)) :
    sumOf p (entries.kerase labels) + (if p labels then (entries.dlookup labels).getD 0 else 0) =
      sumOf p entries := by
  induction entries with
  | nil => simp [sumOf]
  | cons entry entries ih =>
    obtain ⟨key, n⟩ := entry
    by_cases hkey : labels = key
    · subst hkey
      have herase : List.kerase labels (⟨labels, n⟩ :: entries : List (Σ _ : κ, ℕ)) = entries :=
        List.kerase_cons_eq rfl
      rw [herase, List.dlookup_cons_eq]
      show sumOf p entries + (if p labels then n else 0) =
        (if p labels then n else 0) + sumOf p entries
      omega
    · rw [List.kerase_cons_ne hkey, List.dlookup_cons_ne _ _ hkey]
      show (if p key then n else 0) + sumOf p (entries.kerase labels) + _ =
        (if p key then n else 0) + sumOf p entries
      omega

/-- Every counter a query asks for is within its sum. -/
theorem value_le_total (v : CounterVec κ) {p : κ → Bool} {labels : κ} (hp : p labels = true) :
    v.value labels ≤ v.total p := by
  have hsum := sumOf_kerase p labels v.entries
  rw [if_pos hp] at hsum
  show (v.entries.dlookup labels).getD 0 ≤ sumOf p v.entries
  omega

theorem total_inc (v : CounterVec κ) {labels : κ} (hexact : v.value labels < 2 ^ 53)
    (p : κ → Bool) : (v.inc labels).total p = v.total p + if p labels then 1 else 0 := by
  have hsum := sumOf_kerase p labels v.entries
  show (if p labels then addOne (v.value labels) else 0) + sumOf p (v.entries.kerase labels) =
    sumOf p v.entries + _
  have hone : addOne (v.value labels) = v.value labels + 1 := if_pos hexact
  have hvalue : (v.entries.dlookup labels).getD 0 = v.value labels := rfl
  cases hp : p labels with
  | false => simp [hp] at hsum ⊢; omega
  | true => simp only [hp, if_true] at hsum ⊢; omega

end CounterVec

end Lib.Counters
