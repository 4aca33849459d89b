import Mathlib.Data.List.Sort
import Mathlib.Data.Prod.Lex

/-!
# Stable sorting

Insertion sort keeps the order of elements it cannot tell apart. Sorting two batches, one behind
the other, is therefore sorting by the key and then by the batch: with keys that are distinct
within each batch the result does not depend on the order of either.
-/

namespace Lib.StableSort

variable {α ρ : Type*} [LinearOrder ρ]

section Congr
variable {r s : α → α → Prop} [DecidableRel r] [DecidableRel s]

theorem orderedInsert_congr {a : α} {l : List α} (h : ∀ b ∈ l, (r a b ↔ s a b)) :
    l.orderedInsert r a = l.orderedInsert s a := by
  induction l with
  | nil => rfl
  | cons b l ih =>
    obtain ⟨hhead, htail⟩ := List.forall_mem_cons.mp h
    rw [List.orderedInsert_cons, List.orderedInsert_cons, ih htail]
    exact if_congr hhead rfl rfl

/-- Insertion sort compares an element only with those behind it. -/
theorem insertionSort_congr {l : List α} (h : l.Pairwise fun a b => (r a b ↔ s a b)) :
    l.insertionSort r = l.insertionSort s := by
  induction l with
  | nil => rfl
  | cons a l ih =>
    obtain ⟨hhead, htail⟩ := List.pairwise_cons.mp h
    rw [List.insertionSort_cons, List.insertionSort_cons, ih htail]
    apply orderedInsert_congr
    intro b hb
    exact hhead b ((List.mem_insertionSort s).mp hb)

end Congr

/-- Sort by a key. -/
def sortBy (key : α → ρ) (l : List α) : List α := l.insertionSort fun a b => key a ≤ key b

section Keys
variable {key : α → ρ} {l l' : List α}

theorem perm_sortBy : (sortBy key l).Perm l := List.perm_insertionSort _ l

theorem pairwise_sortBy : (sortBy key l).Pairwise fun a b => key a ≤ key b := by
  have htotal : Std.Total fun a b : α => key a ≤ key b := ⟨fun a b => le_total (key a) (key b)⟩
  have htrans : IsTrans α fun a b => key a ≤ key b := ⟨fun _ _ _ => le_trans⟩
  exact List.pairwise_insertionSort _ l

/-- A list with distinct keys is sorted in one way only. -/
theorem sortBy_eq_of_perm (hperm : l.Perm l')
    (hkey : ∀ a ∈ l, ∀ b ∈ l, key a = key b → a = b) : sortBy key l = sortBy key l' := by
  have hsorted : (sortBy key l).Perm (sortBy key l') :=
    perm_sortBy.trans (hperm.trans perm_sortBy.symm)
  -- two sorted lists of the same elements are equal where no two elements are tied
  refine hsorted.eq_of_pairwise ?_ pairwise_sortBy pairwise_sortBy
  intro a b ha hb hab hba
  have hal : a ∈ l := perm_sortBy.mem_iff.mp ha
  have hbl : b ∈ l := hperm.mem_iff.mpr (perm_sortBy.mem_iff.mp hb)
  exact hkey a hal b hbl (le_antisymm hab hba)

end Keys

/-! ## Two batches -/

/-- Each element with its batch: `false` for the first, `true` for the second. -/
def batches (first second : List α) : List (Bool × α) :=
  first.map (Prod.mk false) ++ second.map (Prod.mk true)

/-- The key, and then the batch. -/
def batchKey (key : α → ρ) (a : Bool × α) : ρ ×ₗ Bool := toLex (key a.2, a.1)

theorem map_snd_batches (first second : List α) :
    (batches first second).map Prod.snd = first ++ second := by
  rw [batches, List.map_append, List.map_map, List.map_map]
  exact congrArg₂ _ (List.map_id first) (List.map_id second)

theorem perm_batches {first first' second second' : List α} (h₁ : first.Perm first')
    (h₂ : second.Perm second') : (batches first second).Perm (batches first' second') :=
  (h₁.map _).append (h₂.map _)

/-- No element stands behind one of a later batch. -/
theorem pairwise_batches (first second : List α) :
    (batches first second).Pairwise fun a b => a.1 ≤ b.1 := by
  rw [batches, List.pairwise_append, List.pairwise_map, List.pairwise_map]
  refine ⟨List.pairwise_of_forall fun _ _ => le_refl _,
    List.pairwise_of_forall fun _ _ => le_refl _, ?_⟩
  intro a _ b hb
  obtain ⟨c, -, rfl⟩ := List.mem_map.mp hb
  exact Bool.le_true a.1

theorem sortBy_append (key : α → ρ) (first second : List α) :
    sortBy key (first ++ second) =
      (sortBy (batchKey key) (batches first second)).map Prod.snd := by
  -- in this order of the batches, ties in the key are decided the same way with and without them
  have hties : (batches first second).Pairwise fun a b =>
      (batchKey key a ≤ batchKey key b ↔ key a.2 ≤ key b.2) := by
    refine (pairwise_batches first second).imp fun {a b} hbatch => ?_
    rw [batchKey, batchKey, Prod.Lex.toLex_le_toLex]
    constructor
    · intro h
      exact h.elim le_of_lt fun h => le_of_eq h.1
    · intro h
      exact h.lt_or_eq.imp_right fun h => ⟨h, hbatch⟩
  rw [sortBy, sortBy, insertionSort_congr hties,
    List.map_insertionSort _ (fun a b => key a ≤ key b), map_snd_batches]
  exact fun a _ b _ => Iff.rfl

end Lib.StableSort
