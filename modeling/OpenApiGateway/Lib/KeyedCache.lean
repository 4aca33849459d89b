import Mathlib.Data.List.AList

/-!
# A cache looked up by key and emptied with each new generation

A cache keeps instances that were made for sites. It is looked up by a site's key, so two
sites with one key get one instance; it is emptied when a generation is entered that is not
the one it holds instances of. Only the number of an instance is kept: `made` says for which
site each was made, and `uses` records which instance each use got.

`Sound.use` is the rule for sites whose keys tell them apart: each is only ever given an
instance made for it. `held_use` is the rule for all others: as long as the generation stays,
sites with one key get one instance.
-/

namespace Lib.KeyedCache

/-- Instances are numbered in the order they were made; `made` and `uses` say for which site each
was made and used. -/
structure Cache (σ κ : Type*) where
  generation : ℕ
  slots : AList fun _ : κ => ℕ
  made : List σ
  uses : List (σ × ℕ)

namespace Cache

section
variable {σ κ : Type*}

/-- Work in a generation from now on. -/
def enter (cache : Cache σ κ) (generation : ℕ) : Cache σ κ :=
  if cache.generation ≠ generation then { cache with generation := generation, slots := ∅ }
  else cache

@[simp] theorem generation_enter (cache : Cache σ κ) (generation : ℕ) :
    (cache.enter generation).generation = generation := by
  unfold enter
  split
  · rfl
  · rename_i h
    exact not_not.mp h

@[simp] theorem uses_enter (cache : Cache σ κ) (generation : ℕ) :
    (cache.enter generation).uses = cache.uses := by
  unfold enter
  split
  · rfl
  · rfl

/-- Entering the generation the cache is in flushes nothing. -/
theorem enter_self (cache : Cache σ κ) : cache.enter cache.generation = cache := by
  rw [enter, if_neg (not_not.mpr rfl)]

variable [DecidableEq κ]

/-- Use the instance for a site; one that is not there yet is made, if that succeeds. -/
def use (key : σ → κ) (cache : Cache σ κ) (site : σ) (succeeds : Bool) : Cache σ κ :=
  match cache.slots.lookup (key site) with
  | some n => { cache with uses := cache.uses ++ [(site, n)] }
  | none =>
    if succeeds then
      { cache with
        slots := cache.slots.insert (key site) cache.made.length
        made := cache.made ++ [site]
        uses := cache.uses ++ [(site, cache.made.length)] }
    else cache

variable {key : σ → κ} {cache : Cache σ κ} {site : σ} {succeeds : Bool} {n : ℕ}

/-- An instance that is there is used, for whatever site it was made. -/
theorem use_of_hit (h : cache.slots.lookup (key site) = some n) :
    cache.use key site succeeds = { cache with uses := cache.uses ++ [(site, n)] } := by
  rw [use, h]

/-- Otherwise one is made, unless making it fails. -/
theorem use_of_miss (h : cache.slots.lookup (key site) = none) :
    cache.use key site succeeds =
      if succeeds then
        { cache with
          slots := cache.slots.insert (key site) cache.made.length
          made := cache.made ++ [site]
          uses := cache.uses ++ [(site, cache.made.length)] }
      else cache := by
  rw [use, h]

@[simp] theorem generation_use :
    (cache.use key site succeeds).generation = cache.generation := by
  unfold use
  split
  · rfl
  · split
    · rfl
    · rfl

/-- A use that succeeds leaves an instance under the site's key, any other leaves the keys as
they are. -/
theorem mem_slots_use {k : κ} :
    k ∈ (cache.use key site succeeds).slots ↔
      k ∈ cache.slots ∨ (succeeds = true ∧ k = key site) := by
  cases h : cache.slots.lookup (key site) with
  | some n =>
    have hmem : key site ∈ cache.slots := AList.lookup_isSome.mp (by simp [h])
    rw [use_of_hit h]
    constructor
    · exact Or.inl
    · rintro (hk | ⟨-, rfl⟩)
      · exact hk
      · exact hmem
  | none =>
    rw [use_of_miss h]
    cases succeeds with
    | false => simp
    | true => simp [AList.mem_insert, or_comm]

/-! ## What the instances were made for -/

/-- Every instance in the cache was made for a site that `R` relates to its key. -/
def Filled (R : κ → σ → Prop) (cache : Cache σ κ) : Prop :=
  ∀ k n, cache.slots.lookup k = some n → ∃ site, cache.made[n]? = some site ∧ R k site

theorem getElem?_made_use {m : ℕ} {s : σ} (h : cache.made[m]? = some s) :
    (cache.use key site succeeds).made[m]? = some s := by
  unfold use
  split
  · exact h
  · split
    · rw [List.getElem?_append_left (List.getElem?_eq_some_iff.mp h).1, h]
    · exact h

/-- Making an instance for a site changes what its key is related to, and no other key. -/
theorem Filled.make {R R' : κ → σ → Prop} (h : cache.Filled R)
    (hmiss : cache.slots.lookup (key site) = none)
    (hkeep : ∀ k s, k ≠ key site → R k s → R' k s) (hnew : R' (key site) site) :
    (cache.use key site true).Filled R' := by
  intro k m hm
  by_cases hk : k = key site
  · rw [use_of_miss hmiss, if_pos rfl, hk, AList.lookup_insert, Option.some.injEq] at hm
    refine ⟨site, ?_, hk ▸ hnew⟩
    rw [use_of_miss hmiss, if_pos rfl, ← hm]
    exact List.getElem?_concat_length
  · rw [use_of_miss hmiss, if_pos rfl, AList.lookup_insert_ne hk] at hm
    obtain ⟨s, hmade, hs⟩ := h k m hm
    exact ⟨s, getElem?_made_use hmade, hkeep k s hk hs⟩

/-! ## Sites that their keys tell apart -/

/-- Every instance in the cache was made in its generation for a known site with that key, and
every use got an instance that was made for the site itself. -/
structure Sound (key : σ → κ) (generationOf : σ → ℕ) (known : σ → Prop) (cache : Cache σ κ) :
    Prop where
  slots : ∀ k n, cache.slots.lookup k = some n → ∃ site, cache.made[n]? = some site ∧
    key site = k ∧ generationOf site = cache.generation ∧ known site
  uses : ∀ site n, (site, n) ∈ cache.uses → cache.made[n]? = some site

variable {generationOf : σ → ℕ} {known : σ → Prop}

theorem Sound.mono {more : σ → Prop} (h : cache.Sound key generationOf known)
    (hmore : ∀ site, known site → more site) : cache.Sound key generationOf more where
  slots := by
    intro k n hk
    obtain ⟨site, hmade, hkey, hgeneration, hknown⟩ := h.slots k n hk
    exact ⟨site, hmade, hkey, hgeneration, hmore site hknown⟩
  uses := h.uses

/-- A flush keeps what was made and used. -/
theorem Sound.enter (h : cache.Sound key generationOf known) (generation : ℕ) :
    (cache.enter generation).Sound key generationOf known := by
  unfold Cache.enter
  split
  · exact ⟨fun k n hk => by simp at hk, h.uses⟩
  · exact h

/-- Using a known site of the current generation keeps the cache sound, if no other known site
of the generation has its key. -/
theorem Sound.use (h : cache.Sound key generationOf known)
    (hgeneration : generationOf site = cache.generation) (hknown : known site)
    (hinj : ∀ other, known other → generationOf other = generationOf site →
      key other = key site → other = site) (succeeds : Bool) :
    (cache.use key site succeeds).Sound key generationOf known := by
  cases hslot : cache.slots.lookup (key site) with
  | some n =>
    rw [use_of_hit hslot]
    -- the instance found was made for a site with this key, which can only be this one
    obtain ⟨other, hmade, hkey, hother, hknownOther⟩ := h.slots _ _ hslot
    have hsame := hinj other hknownOther (hother.trans hgeneration.symm) hkey
    refine ⟨h.slots, ?_⟩
    intro s m hm
    rcases List.mem_append.mp hm with hold | hnew
    · exact h.uses s m hold
    · obtain ⟨rfl, rfl⟩ := Prod.mk.inj (List.mem_singleton.mp hnew)
      rw [← hsame]
      exact hmade
  | none =>
    rw [use_of_miss hslot]
    cases succeeds with
    | false => exact h
    | true =>
      rw [← use_of_miss hslot]
      refine ⟨?_, ?_⟩
      · rw [generation_use]
        exact Filled.make h.slots hslot (fun _ _ _ hs => hs) ⟨rfl, hgeneration, hknown⟩
      · intro s m hm
        rw [use_of_miss hslot, if_pos rfl] at hm
        rcases List.mem_append.mp hm with hold | hnew
        · exact getElem?_made_use (h.uses s m hold)
        · obtain ⟨rfl, rfl⟩ := Prod.mk.inj (List.mem_singleton.mp hnew)
          rw [use_of_miss hslot, if_pos rfl]
          exact List.getElem?_concat_length

/-! ## Sites with one key -/

/-- The instances of all uses so far are still in the cache. -/
def Held (key : σ → κ) (cache : Cache σ κ) : Prop :=
  ∀ site n, (site, n) ∈ cache.uses → cache.slots.lookup (key site) = some n

/-- A use takes no instance out of the cache. -/
theorem held_use (h : cache.Held key) (site : σ) (succeeds : Bool) :
    (cache.use key site succeeds).Held key := by
  cases hslot : cache.slots.lookup (key site) with
  | some n =>
    rw [use_of_hit hslot]
    intro s m hm
    rcases List.mem_append.mp hm with hold | hnew
    · exact h s m hold
    · obtain ⟨rfl, rfl⟩ := Prod.mk.inj (List.mem_singleton.mp hnew)
      exact hslot
  | none =>
    rw [use_of_miss hslot]
    cases succeeds with
    | false => exact h
    | true =>
      intro s m hm
      rcases List.mem_append.mp hm with hold | hnew
      · -- an earlier use has another key: its own is in the cache
        have hfound := h s m hold
        have hne : key s ≠ key site := by
          intro heq
          rw [heq, hslot] at hfound
          simp at hfound
        simpa [AList.lookup_insert_ne hne] using hfound
      · obtain ⟨rfl, rfl⟩ := Prod.mk.inj (List.mem_singleton.mp hnew)
        simp

/-- A use that succeeds is recorded. -/
theorem mem_uses_use (key : σ → κ) (cache : Cache σ κ) (site : σ) :
    ∃ n, (site, n) ∈ (cache.use key site true).uses := by
  cases hslot : cache.slots.lookup (key site) with
  | some n => exact ⟨n, by simp [use_of_hit hslot]⟩
  | none => exact ⟨cache.made.length, by simp [use_of_miss hslot]⟩

theorem uses_subset_use (site : σ) (succeeds : Bool) :
    cache.uses ⊆ (cache.use key site succeeds).uses := by
  unfold use
  split
  · exact List.subset_append_left _ _
  · split
    · exact List.subset_append_left _ _
    · exact List.Subset.refl _

/-- Use sites one after the other, each with success. -/
def useAll (key : σ → κ) (cache : Cache σ κ) (sites : List σ) : Cache σ κ :=
  sites.foldl (fun cache site => cache.use key site true) cache

@[simp] theorem generation_useAll (cache : Cache σ κ) (sites : List σ) :
    (cache.useAll key sites).generation = cache.generation := by
  induction sites generalizing cache with
  | nil => rfl
  | cons site sites ih => exact (ih _).trans generation_use

theorem uses_subset_useAll (key : σ → κ) (cache : Cache σ κ) (sites : List σ) :
    cache.uses ⊆ (cache.useAll key sites).uses := by
  induction sites generalizing cache with
  | nil => exact List.Subset.refl _
  | cons site sites ih => exact List.Subset.trans (uses_subset_use site true) (ih _)

theorem held_useAll (h : cache.Held key) (sites : List σ) : (cache.useAll key sites).Held key := by
  induction sites generalizing cache with
  | nil => exact h
  | cons site sites ih => exact ih (held_use h site true)

/-- Every site of a list gets an instance. -/
theorem mem_uses_useAll (key : σ → κ) (cache : Cache σ κ) {sites : List σ} (hsite : site ∈ sites) :
    ∃ n, (site, n) ∈ (cache.useAll key sites).uses := by
  induction sites generalizing cache with
  | nil => simp at hsite
  | cons head sites ih =>
    rcases List.mem_cons.mp hsite with rfl | hrest
    · obtain ⟨n, hn⟩ := mem_uses_use key cache site
      exact ⟨n, uses_subset_useAll key _ sites hn⟩
    · exact ih (cache.use key head true) hrest

/-- Two sites with one key get one instance. -/
theorem Held.shared (h : cache.Held key) {site₁ site₂ : σ} {n₁ n₂ : ℕ}
    (h₁ : (site₁, n₁) ∈ cache.uses) (h₂ : (site₂, n₂) ∈ cache.uses)
    (hkey : key site₁ = key site₂) : n₁ = n₂ := by
  have hfirst := h site₁ n₁ h₁
  have hsecond := h site₂ n₂ h₂
  rw [hkey, hsecond, Option.some.injEq] at hfirst
  exact hfirst.symm

end

end Cache

end Lib.KeyedCache
