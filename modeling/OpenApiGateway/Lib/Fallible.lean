import Mathlib.Data.List.Perm.Basic

/-!
# Loops that can fail

`mapM` in `Option` and in `Except`. A loop in `Except` succeeds with the results of its elements,
one by one (`mapM_eq_ok_iff`); what it does to a part of the elements, or in another order, follows
from what `Forall₂` does.
-/

namespace Lib.Fallible

variable {ι α β : Type}

/-! ## Option -/

/-- A loop that succeeds on every element maps them. -/
theorem mapM_eq_some_map {f : α → Option β} {g : α → β} {l : List α}
    (h : ∀ x ∈ l, f x = some (g x)) : l.mapM f = some (l.map g) := by
  induction l with
  | nil => rfl
  | cons x xs ih =>
    rw [List.mapM_cons, h x (by simp), ih fun y hy => h y (by simp [hy])]
    rfl

/-! ## Except -/

theorem map_eq_ok_iff {x : Except ι α} {f : α → β} {b : β} :
    x.map f = .ok b ↔ ∃ a, x = .ok a ∧ b = f a := by
  cases x with
  | error e => simp [Except.map]
  | ok a => simp [Except.map, eq_comm]

theorem map_eq_ok {x : Except ι α} {f : α → β} {b : β} (h : x.map f = .ok b) :
    ∃ a, x = .ok a ∧ b = f a :=
  map_eq_ok_iff.mp h

/-- A result is mapped exactly if there is one. -/
theorem map_isOk_iff {x : Except ι α} {f : α → β} :
    (∃ b, x.map f = .ok b) ↔ ∃ a, x = .ok a := by
  cases x with
  | error e => simp [Except.map]
  | ok a => simp [Except.map]

theorem bind_eq_ok_iff {x : Except ι α} {f : α → Except ι β} {b : β} :
    (x >>= f) = .ok b ↔ ∃ a, x = .ok a ∧ f a = .ok b := by
  cases x with
  | error e => simp [bind, Except.bind]
  | ok a => simp [bind, Except.bind]

/-- A computation that succeeded, taken apart. -/
theorem eq_ok_of_bind {x : Except ι α} {f : α → Except ι β} {b : β} (h : (x >>= f) = .ok b) :
    ∃ a, x = .ok a ∧ f a = .ok b :=
  bind_eq_ok_iff.mp h

/-- Two steps that cannot fail make a computation that cannot fail. -/
theorem bind_ok {x : Except ι α} {f : α → Except ι β} (hx : ∃ a, x = .ok a)
    (hf : ∀ a, ∃ b, f a = .ok b) : ∃ b, (x >>= f) = .ok b := by
  rcases hx with ⟨a, rfl⟩
  exact hf a

/-- A loop that fails on no element succeeds. -/
theorem mapM_ok {f : α → Except ι β} {l : List α} (h : ∀ x ∈ l, ∃ y, f x = .ok y) :
    ∃ ys, l.mapM f = .ok ys := by
  induction l with
  | nil => exact ⟨[], rfl⟩
  | cons x xs ih =>
    rw [List.mapM_cons]
    refine bind_ok (h x (by simp)) fun y => bind_ok ?_ fun ys => ⟨y :: ys, rfl⟩
    exact ih fun z hz => h z (by simp [hz])

/-- A loop succeeds with the results of its elements. -/
theorem mapM_eq_ok_iff {f : α → Except ι β} {l : List α} {ys : List β} :
    l.mapM f = .ok ys ↔ List.Forall₂ (fun x y => f x = .ok y) l ys := by
  induction l generalizing ys with
  | nil =>
    rw [List.mapM_nil, List.forall₂_nil_left_iff]
    exact Except.ok.injEq [] ys ▸ eq_comm
  | cons x xs ih =>
    rw [List.mapM_cons, bind_eq_ok_iff, List.forall₂_cons_left_iff]
    refine exists_congr fun y => ?_
    rw [bind_eq_ok_iff]
    constructor
    · intro h
      obtain ⟨hy, rest, hrest, hys⟩ := h
      exact ⟨rest, hy, ih.mp hrest, (Except.ok.inj hys).symm⟩
    · intro h
      obtain ⟨rest, hy, hrest, rfl⟩ := h
      exact ⟨hy, rest, ih.mpr hrest, rfl⟩

section Succeeds
variable {f : α → Except ι β} {l l' : List α} {ys : List β}

/-- A loop that succeeds fails on no element. -/
theorem ok_of_mapM_ok (h : l.mapM f = .ok ys) : ∀ x ∈ l, ∃ y, f x = .ok y := by
  have heach : List.Forall₂ (fun x _ => (∃ y, f x = .ok y) ∧ True) l ys :=
    (mapM_eq_ok_iff.mp h).imp fun x y hy => ⟨⟨y, hy⟩, trivial⟩
  exact ((List.forall₂_and_left l ys).mp heach).1

/-- Every element has its result. -/
theorem exists_right_of_forall₂ {R : α → β → Prop} (h : List.Forall₂ R l ys) :
    ∀ x ∈ l, ∃ y ∈ ys, R x y := by
  induction h with
  | nil => simp
  | cons hxy _ ih =>
    refine List.forall_mem_cons.mpr ⟨⟨_, List.mem_cons_self, hxy⟩, fun x hx => ?_⟩
    obtain ⟨y, hy, hR⟩ := ih x hx
    exact ⟨y, List.mem_cons_of_mem _ hy, hR⟩

/-- Every result is that of an element. -/
theorem exists_left_of_forall₂ {R : α → β → Prop} (h : List.Forall₂ R l ys) :
    ∀ y ∈ ys, ∃ x ∈ l, R x y :=
  exists_right_of_forall₂ h.flip

/-- What holds of every result of an element holds of all results. -/
theorem forall_mem_of_forall₂ {R : α → β → Prop} {p : β → Prop} (hp : ∀ x y, R x y → p y)
    (h : List.Forall₂ R l ys) : ∀ y ∈ ys, p y := by
  intro y hy
  obtain ⟨x, -, hxy⟩ := exists_left_of_forall₂ h y hy
  exact hp x y hxy

/-- Where every result is of one form, so are the results of the loop. -/
theorem map_of_mapM_ok_form {γ : Type} {g : γ → β} {R : α → γ → Prop}
    (hf : ∀ x ∈ l, ∀ y, f x = .ok y → ∃ z, y = g z ∧ R x z) (h : l.mapM f = .ok ys) :
    ∃ zs, ys = zs.map g ∧ List.Forall₂ R l zs := by
  rw [mapM_eq_ok_iff] at h
  induction h with
  | nil => exact ⟨[], rfl, .nil⟩
  | cons hx _ ih =>
    obtain ⟨z, rfl, hz⟩ := hf _ List.mem_cons_self _ hx
    obtain ⟨zs, rfl, hzs⟩ := ih fun x hx => hf x (List.mem_cons_of_mem _ hx)
    exact ⟨z :: zs, rfl, .cons hz hzs⟩

/-- Leaving out elements leaves out their results. -/
theorem mapM_filter_ok {p : α → Bool} {q : β → Bool} (hf : ∀ x y, f x = .ok y → q y = p x)
    (h : l.mapM f = .ok ys) : (l.filter p).mapM f = .ok (ys.filter q) := by
  rw [mapM_eq_ok_iff] at h ⊢
  refine List.rel_filter (fun x y hy => ?_) h
  show p x = true ↔ q y = true
  rw [hf x y hy]

/-- What a loop's results have from the elements they were made of. -/
theorem map_of_mapM_ok {γ : Type} {g : β → γ} {g' : α → γ}
    (hf : ∀ x y, f x = .ok y → g y = g' x) (h : l.mapM f = .ok ys) : ys.map g = l.map g' := by
  rw [← List.forall₂_eq_eq_eq, List.forall₂_map_left_iff, List.forall₂_map_right_iff]
  apply List.Forall₂.flip
  exact (mapM_eq_ok_iff.mp h).imp hf

/-- The elements of a loop that succeeds may be taken in another order. -/
theorem perm_mapM_ok (hperm : l.Perm l') (h : l.mapM f = .ok ys) :
    ∃ ys', l'.mapM f = .ok ys' ∧ ys.Perm ys' := by
  obtain ⟨ys', heach, hsame⟩ := List.perm_comp_forall₂ hperm.symm (mapM_eq_ok_iff.mp h)
  exact ⟨ys', mapM_eq_ok_iff.mpr heach, hsame.symm⟩

end Succeeds

end Lib.Fallible
