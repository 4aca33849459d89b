import Mathlib.Data.List.Basic

/-!
# Two fields before a delimiter

A record `head ++ d :: (field ++ [d])` is a free head and a field without the delimiter `d`, each
followed by `d`. Such a record can be read back from its end. When one record is a prefix of
another, it is the same record, or it lies within the head of the other.
-/

namespace Lib.Delimited

variable {α : Type*} {d : α} {head₁ head₂ field₁ field₂ : List α}

/-- The last delimiter is where the field starts. -/
theorem append_cons_inj (h₁ : d ∉ field₁) (h₂ : d ∉ field₂)
    (h : head₁ ++ d :: field₁ = head₂ ++ d :: field₂) : head₁ = head₂ ∧ field₁ = field₂ := by
  rcases List.append_eq_append_iff.mp h with ⟨rest, hhead, hfield⟩ | ⟨rest, hhead, hfield⟩
  · cases rest with
    | nil =>
      rw [List.append_nil] at hhead
      exact ⟨hhead.symm, (List.cons.inj hfield).2⟩
    | cons x rest =>
      exact absurd ((List.cons.inj hfield).2 ▸ by simp) h₁
  · cases rest with
    | nil =>
      rw [List.append_nil] at hhead
      exact ⟨hhead, (List.cons.inj hfield).2.symm⟩
    | cons x rest =>
      exact absurd ((List.cons.inj hfield).2 ▸ by simp) h₂

/-- A prefix of a field and its delimiter that ends in the delimiter is all of it. -/
theorem eq_of_prefix_of_delimited {start : List α} (h₂ : d ∉ field₂)
    (h : start ++ [d] <+: field₂ ++ [d]) : start = field₂ := by
  rcases List.prefix_concat_iff.mp h with heq | hshort
  · exact List.append_cancel_right heq
  · exact absurd (hshort.subset (by simp)) h₂

theorem prefix_record_iff (h₁ : d ∉ field₁) (h₂ : d ∉ field₂) :
    head₁ ++ d :: (field₁ ++ [d]) <+: head₂ ++ d :: (field₂ ++ [d]) ↔
      (head₁ = head₂ ∧ field₁ = field₂) ∨ head₁ ++ d :: (field₁ ++ [d]) <+: head₂ ++ [d] := by
  have hsplit : head₂ ++ d :: (field₂ ++ [d]) = (head₂ ++ [d]) ++ (field₂ ++ [d]) := by simp
  constructor
  · intro h
    rw [hsplit] at h
    rcases List.prefix_or_prefix_of_prefix h (List.prefix_append _ _) with hwithin | ⟨rest, hrest⟩
    · exact Or.inr hwithin
    · rw [← hrest, List.prefix_append_right_inj] at h
      rcases List.eq_nil_or_concat rest with rfl | ⟨start, x, rfl⟩
      · rw [List.append_nil] at hrest
        exact Or.inr (hrest ▸ List.prefix_refl _)
      · -- what goes beyond the second head ends in the delimiter, so it is the second field
        have hends : (head₂ ++ d :: start) ++ [x] = (head₁ ++ d :: field₁) ++ [d] := by
          simpa using hrest
        obtain ⟨hinit, hlast⟩ := List.append_inj' hends rfl
        rw [(List.cons.inj hlast).1, List.concat_eq_append] at h
        rw [eq_of_prefix_of_delimited h₂ h] at hinit
        obtain ⟨hhead, hfield⟩ := append_cons_inj h₂ h₁ hinit
        exact Or.inl ⟨hhead.symm, hfield.symm⟩
  · rintro (⟨rfl, rfl⟩ | h)
    · exact List.prefix_refl _
    · rw [hsplit]
      exact h.trans (List.prefix_append _ _)

end Lib.Delimited
