import Mathlib.Data.List.Basic

/-!
# Operations on one key at a time

Operations each have a key, and the state has a view for every key. An operation is local if it
reads and writes only the view of its own key. Then the answers to the operations on a key do
not depend on the operations on other keys, however the two are interleaved
(`Local.answersFor_eq`), and operations on different keys commute (`Local.commute`).
-/

namespace Lib.KeyedState

variable {σ α κ β ρ : Type*}

/-- An operation is answered by the view of its key, and changes no other view. -/
structure Local (exec : σ → α → ρ × σ) (key : α → κ) (view : κ → σ → β) : Prop where
  frame : ∀ s a k, k ≠ key a → view k (exec s a).2 = view k s
  own : ∀ s s' a, view (key a) s = view (key a) s' →
    (exec s a).1 = (exec s' a).1 ∧ view (key a) (exec s a).2 = view (key a) (exec s' a).2

/-- The answers to a sequence of operations. -/
def answers (exec : σ → α → ρ × σ) : σ → List α → List ρ
  | _, [] => []
  | s, a :: ops => (exec s a).1 :: answers exec (exec s a).2 ops

/-- The answers to the operations on a key, in a sequence that has others too. -/
def answersFor [DecidableEq κ] (exec : σ → α → ρ × σ) (key : α → κ) (k : κ) : σ → List α → List ρ
  | _, [] => []
  | s, a :: ops =>
    if key a = k then (exec s a).1 :: answersFor exec key k (exec s a).2 ops
    else answersFor exec key k (exec s a).2 ops

variable {exec : σ → α → ρ × σ} {key : α → κ} {view : κ → σ → β}

/-- From states with the same view of a key, the operations on it are answered alike, whether
those on other keys are executed or left out. -/
theorem Local.answersFor_eq [DecidableEq κ] (h : Local exec key view) {k : κ} {s s' : σ}
    (hview : view k s = view k s') (ops : List α) :
    answersFor exec key k s ops = answers exec s' (ops.filter fun a => decide (key a = k)) := by
  induction ops generalizing s s' with
  | nil => rfl
  | cons a ops ih =>
    by_cases hkey : key a = k
    · subst hkey
      obtain ⟨hanswer, hafter⟩ := h.own s s' a hview
      rw [answersFor, if_pos rfl, List.filter_cons_of_pos (by simp), answers, hanswer, ih hafter]
    · have hframe : view k (exec s a).2 = view k s := h.frame s a k (Ne.symm hkey)
      rw [answersFor, if_neg hkey, List.filter_cons_of_neg (by simpa using hkey)]
      exact ih (hframe.trans hview)

/-- An operation does not see one on another key. -/
theorem Local.answer_after (h : Local exec key view) {a b : α} (hkey : key a ≠ key b) (s : σ) :
    (exec (exec s a).2 b).1 = (exec s b).1 ∧
      view (key b) (exec (exec s a).2 b).2 = view (key b) (exec s b).2 :=
  h.own _ _ b (h.frame s a (key b) hkey.symm)

/-- Operations on different keys commute, in their answers and in every view. -/
theorem Local.commute (h : Local exec key view) {a b : α} (hkey : key a ≠ key b) (s : σ) :
    (exec (exec s a).2 b).1 = (exec s b).1 ∧ (exec (exec s b).2 a).1 = (exec s a).1 ∧
      ∀ k, view k (exec (exec s a).2 b).2 = view k (exec (exec s b).2 a).2 := by
  obtain ⟨hb, hviewB⟩ := h.answer_after hkey s
  obtain ⟨ha, hviewA⟩ := h.answer_after hkey.symm s
  refine ⟨hb, ha, ?_⟩
  intro k
  by_cases hka : k = key a
  · subst hka
    rw [h.frame _ b _ hkey, hviewA]
  · by_cases hkb : k = key b
    · subst hkb
      rw [h.frame _ a _ hkey.symm, hviewB]
    · rw [h.frame _ b k hkb, h.frame _ a k hka, h.frame _ a k hka, h.frame _ b k hkb]

end Lib.KeyedState
