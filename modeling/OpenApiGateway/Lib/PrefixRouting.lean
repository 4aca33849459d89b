import Mathlib.Data.List.Basic
import Mathlib.Data.List.Induction
import Mathlib.Data.List.Nodup
import Mathlib.Tactic.Linarith

/-!
# Two ways to route a path by its prefixes

A routing table is a list of entries, each with a text it matches as a prefix of the
path. Two readers of one table are compared here:

* the *longest* reader takes, among the entries it admits, the one whose text is longest,
  and the last listed among equals (`longest`, by `maxByKey`);
* the *first* reader is handed one group of entries and takes the first listed whose text
  is a prefix of the path (`first`).

`agree_iff` says exactly for which tables the two always name the same entry, and
`covered_iff` exactly when the longest reader finds something whenever the first one does.
Both conditions are about pairs of entries only: no path occurs in them.
-/

namespace Lib.PrefixRouting

/-! ## The last maximal element -/

section MaxByKey
variable {α : Type*} (size : α → ℕ)

/-- One step of `maxByKey`: a later element wins a tie. -/
def maxStep (best : Option α) (x : α) : Option α :=
  match best with
  | none => some x
  | some b => if size b ≤ size x then some x else some b

/-- The element with the largest `size`, the last one among equals. -/
def maxByKey (l : List α) : Option α := l.foldl (maxStep size) none

variable {size}

theorem maxByKey_concat (l : List α) (x : α) :
    maxByKey size (l ++ [x]) = maxStep size (maxByKey size l) x := by
  rw [maxByKey, List.foldl_append]
  rfl

/-- A nonempty list has a maximum. -/
theorem maxByKey_isSome {l : List α} {y : α} (hy : y ∈ l) : ∃ x, maxByKey size l = some x := by
  induction l using List.reverseRecOn with
  | nil => simp at hy
  | append_singleton l z _ =>
    rw [maxByKey_concat]
    unfold maxStep
    split
    · exact ⟨z, rfl⟩
    · split
      · exact ⟨z, rfl⟩
      · rename_i b _ _
        exact ⟨b, rfl⟩

theorem maxByKey_eq_none {l : List α} (h : maxByKey size l = none) : l = [] := by
  cases l with
  | nil => rfl
  | cons y l =>
    have hy : y ∈ y :: l := List.mem_cons_self
    rcases maxByKey_isSome hy with ⟨x, hx⟩
    rw [h] at hx
    simp at hx

/-- The chosen element splits the list: nothing before it is larger, everything after it
is strictly smaller. -/
theorem exists_split_of_maxByKey {l : List α} {x : α} (h : maxByKey size l = some x) :
    ∃ before after, l = before ++ x :: after ∧
      (∀ y ∈ before, size y ≤ size x) ∧ ∀ y ∈ after, size y < size x := by
  induction l using List.reverseRecOn generalizing x with
  | nil => simp [maxByKey] at h
  | append_singleton l z ih =>
    rw [maxByKey_concat] at h
    cases hl : maxByKey size l with
    | none =>
      have hnil : l = [] := maxByKey_eq_none hl
      rw [hl] at h
      simp only [maxStep, Option.some.injEq] at h
      subst h hnil
      exact ⟨[], [], rfl, by simp, by simp⟩
    | some b =>
      rcases ih hl with ⟨before, after, rfl, hbefore, hafter⟩
      rw [hl] at h
      simp only [maxStep] at h
      split at h
      · rename_i hle
        simp only [Option.some.injEq] at h
        subst h
        refine ⟨before ++ b :: after, [], rfl, ?_, by simp⟩
        intro y hy
        rcases List.mem_append.mp hy with hy | hy
        · exact (hbefore y hy).trans hle
        · rcases List.mem_cons.mp hy with rfl | hy
          · exact hle
          · exact (hafter y hy).le.trans hle
      · rename_i hlt
        simp only [Option.some.injEq] at h
        subst h
        refine ⟨before, after ++ [z], by simp, hbefore, ?_⟩
        intro y hy
        rcases List.mem_append.mp hy with hy | hy
        · exact hafter y hy
        · rw [List.mem_singleton.mp hy]
          omega

theorem mem_of_maxByKey {l : List α} {x : α} (h : maxByKey size l = some x) : x ∈ l := by
  rcases exists_split_of_maxByKey h with ⟨before, after, rfl, -, -⟩
  simp

theorem size_le_of_maxByKey {l : List α} {x : α} (h : maxByKey size l = some x) {y : α}
    (hy : y ∈ l) : size y ≤ size x := by
  rcases exists_split_of_maxByKey h with ⟨before, after, rfl, hbefore, hafter⟩
  rcases List.mem_append.mp hy with hy | hy
  · exact hbefore y hy
  · rcases List.mem_cons.mp hy with rfl | hy
    · exact le_rfl
    · exact (hafter y hy).le

variable (size) in
/-- Nothing in the list is larger. -/
def IsMaxKey (l : List α) (x : α) : Prop := x ∈ l ∧ ∀ y ∈ l, size y ≤ size x

theorem isMaxKey_of_maxByKey {l : List α} {x : α} (h : maxByKey size l = some x) :
    IsMaxKey size l x :=
  ⟨mem_of_maxByKey h, fun _ hy => size_le_of_maxByKey h hy⟩

theorem IsMaxKey.perm {l l' : List α} {x : α} (h : IsMaxKey size l x) (hperm : l.Perm l') :
    IsMaxKey size l' x :=
  ⟨hperm.subset h.1, fun y hy => h.2 y (hperm.mem_iff.mpr hy)⟩

/-- A maximal element that stands last is taken. -/
theorem maxByKey_concat_of_le {l : List α} {x : α} (h : ∀ y ∈ l, size y ≤ size x) :
    maxByKey size (l ++ [x]) = some x := by
  rw [maxByKey_concat]
  cases hl : maxByKey size l with
  | none => rfl
  | some b => exact if_pos (h b (mem_of_maxByKey hl))

/-- Every maximal element is the one that is taken in some order of the list. -/
theorem exists_perm_maxByKey {p : α → Bool} {l : List α} {x : α}
    (h : IsMaxKey size (l.filter p) x) :
    ∃ l' : List α, l'.Perm l ∧ maxByKey size (l'.filter p) = some x := by
  have hx := List.mem_filter.mp h.1
  obtain ⟨before, after, rfl⟩ := List.append_of_mem hx.1
  have hperm : (before ++ after ++ [x]).Perm (before ++ x :: after) :=
    (List.perm_append_singleton x _).trans List.perm_middle.symm
  refine ⟨_, hperm, ?_⟩
  rw [List.filter_append, List.filter_singleton, hx.2, cond_true]
  apply maxByKey_concat_of_le
  intro y hy
  apply h.2
  have hfilter := hperm.filter p
  rw [← hfilter.mem_iff, List.filter_append]
  exact List.mem_append_left _ hy

/-- The choice does not depend on the order exactly when there is nothing to choose. -/
theorem maxByKey_perm_iff {p : α → Bool} {l : List α} :
    (∀ l' : List α, l'.Perm l → maxByKey size (l'.filter p) = maxByKey size (l.filter p)) ↔
      ∀ a b, IsMaxKey size (l.filter p) a → IsMaxKey size (l.filter p) b → a = b := by
  constructor
  · intro h a b ha hb
    obtain ⟨la, hpa, hla⟩ := exists_perm_maxByKey ha
    obtain ⟨lb, hpb, hlb⟩ := exists_perm_maxByKey hb
    rw [h la hpa] at hla
    rw [h lb hpb, hla] at hlb
    exact Option.some.inj hlb
  · intro h l' hperm
    have hfilter := hperm.filter p
    cases hl : maxByKey size (l.filter p) with
    | none =>
      rw [maxByKey_eq_none hl] at hfilter
      rw [hfilter.eq_nil]
      rfl
    | some x =>
      have hx : x ∈ l'.filter p := hfilter.mem_iff.mpr (mem_of_maxByKey hl)
      obtain ⟨y, hy⟩ : ∃ y, maxByKey size (l'.filter p) = some y := maxByKey_isSome hx
      rw [hy, h x y (isMaxKey_of_maxByKey hl) ((isMaxKey_of_maxByKey hy).perm hfilter)]

end MaxByKey

/-! ## Order inside a list -/

section Before
variable {α : Type*} {l : List α} {a b : α}

/-- `a` is listed before `b`. -/
def Before (l : List α) (a b : α) : Prop := [a, b].Sublist l

theorem before_of_split {before after : List α} (h : l = before ++ a :: after) (hb : b ∈ after) :
    Before l a b := by
  subst h
  exact List.Sublist.trans ((List.singleton_sublist.mpr hb).cons_cons a)
    (List.sublist_append_right _ _)

theorem before_cons_iff {x : α} :
    Before (x :: l) a b ↔ Before l a b ∨ a = x ∧ b ∈ l := by
  rw [Before, List.cons_sublist_cons', List.singleton_sublist]
  rfl

theorem Before.mem (h : Before l a b) : a ∈ l ∧ b ∈ l :=
  ⟨h.subset (by simp), h.subset (by simp)⟩

/-- In a list without repetitions the order of two elements is never both ways. -/
theorem Before.asymm (hl : l.Nodup) (hab : Before l a b) : ¬ Before l b a := by
  intro hba
  induction l with
  | nil => cases hab
  | cons x xs ih =>
    rcases List.nodup_cons.mp hl with ⟨hx, hxs⟩
    rcases before_cons_iff.mp hab with h₁ | ⟨rfl, h₁⟩ <;>
      rcases before_cons_iff.mp hba with h₂ | ⟨h₂, h₂'⟩
    · exact ih hxs h₁ h₂
    · exact hx (h₂ ▸ h₁.mem.2)
    · exact hx h₂.mem.2
    · exact hx (h₂ ▸ h₁)

theorem Before.irrefl (hl : l.Nodup) : ¬ Before l a a := fun h => h.asymm hl h

theorem Before.trans {c : α} (hl : l.Nodup) (hab : Before l a b) (hbc : Before l b c) :
    Before l a c := by
  induction l with
  | nil => cases hab
  | cons x xs ih =>
    rcases List.nodup_cons.mp hl with ⟨hx, hxs⟩
    rcases before_cons_iff.mp hab with h₁ | ⟨rfl, h₁⟩ <;>
      rcases before_cons_iff.mp hbc with h₂ | ⟨h₂, h₂'⟩
    · exact before_cons_iff.mpr (Or.inl (ih hxs h₁ h₂))
    · exact absurd (h₂ ▸ h₁.mem.2) hx
    · exact before_cons_iff.mpr (Or.inr ⟨rfl, h₂.mem.2⟩)
    · exact absurd (h₂ ▸ h₁) hx

/-- Two different elements of a list stand in one order or the other. -/
theorem before_or_before (ha : a ∈ l) (hb : b ∈ l) (hne : a ≠ b) :
    Before l a b ∨ Before l b a := by
  rcases List.append_of_mem ha with ⟨s, t, rfl⟩
  rcases List.mem_append.mp hb with hb | hb
  · right
    rcases List.append_of_mem hb with ⟨s₁, s₂, rfl⟩
    have hsplit : s₁ ++ b :: s₂ ++ a :: t = s₁ ++ b :: (s₂ ++ a :: t) := by simp
    exact before_of_split hsplit (by simp)
  · rcases List.mem_cons.mp hb with rfl | hb
    · exact absurd rfl hne
    · exact Or.inl (before_of_split rfl hb)

theorem Before.filter {p : α → Bool} (h : Before l a b) (ha : p a = true) (hb : p b = true) :
    Before (l.filter p) a b := by
  have hf := List.Sublist.filter p h
  simpa [Before, ha, hb] using hf

end Before

/-! ## Routing tables -/

/-- A list of entries with the text each matches. `size` measures texts, `admits` is the
longest reader's filter, `group` tells which entries the first reader sees together; a
group is admitted as a whole or not at all. -/
structure Table (α β κ : Type*) where
  entries : List α
  text : α → List β
  size : α → ℕ
  admits : α → Bool
  group : α → κ
  nodup : entries.Nodup
  size_le : ∀ {a b}, text a <+: text b → size a ≤ size b
  text_eq : ∀ {a b}, text a <+: text b → size b ≤ size a → text a = text b
  admits_eq : ∀ {a b}, group a = group b → admits a = admits b

namespace Table
variable {α β κ : Type*} [DecidableEq β] (T : Table α β κ)

/-- The entry's text starts the path. -/
def matchesPath (p : List β) (a : α) : Bool := (T.text a).isPrefixOf p

/-- The longest reader. -/
def longest (p : List β) : Option α :=
  maxByKey T.size (T.entries.filter fun a => T.admits a && T.matchesPath p a)

/-- The tables on which both readers agree: most specific text first inside a served
group, no admitted entry outside it that is more specific, and no overlap at all with a
served group the longest reader does not admit. -/
structure Aligned (served : κ → Prop) : Prop where
  /-- Inside a served group the more specific text comes first. -/
  specificFirst : ∀ a ∈ T.entries, ∀ b ∈ T.entries, served (T.group a) → T.admits a = true →
    T.group a = T.group b → a ≠ b → T.text a <+: T.text b → Before T.entries b a
  /-- An admitted entry of another group extends a text of the served one only where that
  group lists the very same text later. -/
  outsideShorter : ∀ a ∈ T.entries, ∀ b ∈ T.entries, served (T.group a) → T.admits a = true →
    T.admits b = true → T.group a ≠ T.group b → T.text a <+: T.text b →
    ∃ c ∈ T.entries, T.group c = T.group a ∧ T.text c = T.text b ∧ Before T.entries b c
  /-- A served group that is not admitted has no text comparable with an admitted one. -/
  foreignApart : ∀ a ∈ T.entries, ∀ b ∈ T.entries, served (T.group a) → T.admits a = false →
    T.admits b = true → ¬ T.text a <+: T.text b ∧ ¬ T.text b <+: T.text a

variable {T}

theorem matchesPath_iff {p : List β} {a : α} : T.matchesPath p a = true ↔ T.text a <+: p :=
  List.isPrefixOf_iff_prefix

/-! ### What the longest reader finds -/

theorem longest_spec {p : List β} {r : α} (h : T.longest p = some r) :
    r ∈ T.entries ∧ T.admits r = true ∧ T.text r <+: p := by
  have hmem := mem_of_maxByKey h
  simp only [List.mem_filter, Bool.and_eq_true, matchesPath_iff] at hmem
  exact hmem

/-- Whatever else the longest reader could have taken is a prefix of what it took. -/
theorem text_prefix_longest {p : List β} {r a : α} (h : T.longest p = some r)
    (ha : a ∈ T.entries) (hadm : T.admits a = true) (hp : T.text a <+: p) :
    T.text a <+: T.text r := by
  have hsize : T.size a ≤ T.size r := by
    refine size_le_of_maxByKey h ?_
    simp only [List.mem_filter, Bool.and_eq_true, matchesPath_iff]
    exact ⟨ha, hadm, hp⟩
  rcases longest_spec h with ⟨-, -, hr⟩
  rcases List.prefix_or_prefix_of_prefix hp hr with hle | hle
  · exact hle
  · have heq : T.text r = T.text a := T.text_eq hle hsize
    exact heq ▸ List.prefix_refl (T.text r)

/-- Among equal texts the longest reader takes the last listed. -/
theorem not_before_longest {p : List β} {r c : α} (h : T.longest p = some r)
    (hadm : T.admits c = true) (htext : T.text c = T.text r) :
    ¬ Before T.entries r c := by
  intro hbefore
  rcases longest_spec h with ⟨-, hradm, hr⟩
  rcases exists_split_of_maxByKey h with ⟨before, after, hsplit, hbefores, hafters⟩
  have hrc : Before (before ++ r :: after) r c := by
    rw [← hsplit]
    refine hbefore.filter ?_ ?_
    · simp [hradm, matchesPath_iff.mpr hr]
    · simp [hadm, matchesPath_iff.mpr (htext ▸ hr)]
  have hnodup : (before ++ r :: after).Nodup := hsplit ▸ T.nodup.filter _
  -- `c` is listed, so it stands before or after `r` in the split
  have hc : c ∈ before ++ r :: after := hrc.subset (by simp)
  rcases List.mem_append.mp hc with hc | hc
  · rcases List.append_of_mem hc with ⟨s, t, rfl⟩
    have hcut : s ++ c :: t ++ r :: after = s ++ c :: (t ++ r :: after) := by simp
    exact hrc.asymm hnodup (before_of_split hcut (by simp))
  · rcases List.mem_cons.mp hc with rfl | hc
    · exact Before.irrefl hnodup hrc
    · have hlt := hafters c hc
      have hle : T.size r ≤ T.size c := T.size_le (htext ▸ List.prefix_refl _)
      omega

theorem longest_isSome {p : List β} {a : α} (ha : a ∈ T.entries) (hadm : T.admits a = true)
    (hp : T.text a <+: p) : ∃ r, T.longest p = some r := by
  refine maxByKey_isSome ?_ (y := a)
  simp only [List.mem_filter, Bool.and_eq_true, matchesPath_iff]
  exact ⟨ha, hadm, hp⟩

/-! ### What the first reader finds -/

variable [DecidableEq κ]

variable (T) in
/-- The first reader, on the entries of group `k`. -/
def first (k : κ) (p : List β) : Option α :=
  T.entries.find? fun a => decide (T.group a = k) && T.matchesPath p a

theorem first_spec {k : κ} {p : List β} {e : α} (h : T.first k p = some e) :
    e ∈ T.entries ∧ T.group e = k ∧ T.text e <+: p := by
  have hprop := List.find?_some h
  simp only [Bool.and_eq_true, decide_eq_true_eq, matchesPath_iff] at hprop
  exact ⟨List.mem_of_find?_eq_some h, hprop⟩

/-- The first reader finds nothing listed before what it takes. -/
theorem not_before_first {k : κ} {p : List β} {e a : α} (h : T.first k p = some e)
    (hk : T.group a = k) (hp : T.text a <+: p) : ¬ Before T.entries a e := by
  intro hbefore
  rcases List.find?_eq_some_iff_append.mp h with ⟨-, s, t, hsplit, hs⟩
  have hae : a ∈ T.entries := hbefore.subset (by simp)
  rw [hsplit] at hae hbefore
  have hnodup : (s ++ e :: t).Nodup := hsplit ▸ T.nodup
  rcases List.mem_append.mp hae with ha | ha
  · have hfalse := hs a ha
    simp [hk, matchesPath_iff.mpr hp] at hfalse
  · rcases List.mem_cons.mp ha with rfl | ha
    · exact Before.irrefl hnodup hbefore
    · exact hbefore.asymm hnodup (before_of_split rfl ha)

theorem first_isSome {k : κ} {p : List β} {a : α} (ha : a ∈ T.entries) (hk : T.group a = k)
    (hp : T.text a <+: p) : ∃ e, T.first k p = some e := by
  have hsome : (T.first k p).isSome = true := by
    rw [first, List.find?_isSome]
    exact ⟨a, ha, by simp [hk, matchesPath_iff.mpr hp]⟩
  exact Option.isSome_iff_exists.mp hsome

/-! ### The two comparisons -/

/-- On an aligned table both readers name the same entry. -/
theorem Aligned.agree {served : κ → Prop} (hT : T.Aligned served) {k : κ} {p : List β} {r e : α}
    (hk : served k) (hr : T.longest p = some r) (he : T.first k p = some e) : e = r := by
  rcases longest_spec hr with ⟨hrmem, hradm, hrp⟩
  rcases first_spec he with ⟨hemem, rfl, hep⟩
  by_contra hne
  cases headm : T.admits e with
  | false =>
    rcases hT.foreignApart e hemem r hrmem hk headm hradm with ⟨h₁, h₂⟩
    rcases List.prefix_or_prefix_of_prefix hep hrp with h | h
    · exact h₁ h
    · exact h₂ h
  | true =>
    have hpre : T.text e <+: T.text r := text_prefix_longest hr hemem headm hep
    by_cases hg : T.group e = T.group r
    · have hb := hT.specificFirst e hemem r hrmem hk headm hg hne hpre
      exact not_before_first he hg.symm hrp hb
    · rcases hT.outsideShorter e hemem r hrmem hk headm hradm hg hpre
        with ⟨c, hc, hcg, hct, hbefore⟩
      have hcadm : T.admits c = true := by rw [T.admits_eq hcg, headm]
      exact not_before_longest hr hcadm hct hbefore

/-- Readers that always agree read an aligned table: every violated clause shows at the
path that is the longer of the two texts. -/
theorem aligned_of_agree {served : κ → Prop}
    (h : ∀ k p r e, served k → T.longest p = some r → T.first k p = some e → e = r) :
    T.Aligned served where
  specificFirst := by
    intro a ha b hb hk hadm hg hne hpre
    have hbadm : T.admits b = true := by rw [← T.admits_eq hg, hadm]
    rcases first_isSome ha rfl hpre with ⟨e, he⟩
    rcases longest_isSome hb hbadm (List.prefix_refl (T.text b)) with ⟨r, hr⟩
    rcases h _ _ _ _ hk hr he with rfl
    rcases before_or_before ha hb hne with hab | hba
    · -- `e` is not after `a` and not before `b`: it cannot be both readers' choice
      exfalso
      rcases longest_spec hr with ⟨hemem, -, hetext⟩
      have heb : T.text e = T.text b :=
        T.text_eq hetext (T.size_le (text_prefix_longest hr hb hbadm (List.prefix_refl _)))
      have hbe : ¬ Before T.entries e b := not_before_longest hr hbadm heb.symm
      have hea : ¬ Before T.entries a e := not_before_first he rfl hpre
      have hae : a = e ∨ Before T.entries e a := by
        by_cases hc : a = e
        · exact Or.inl hc
        · exact Or.inr ((before_or_before ha hemem hc).resolve_left hea)
      rcases hae with rfl | hae
      · exact hbe hab
      · exact hbe (Before.trans T.nodup hae hab)
    · exact hba
  outsideShorter := by
    intro a ha b hb hk hadm hbadm hg hpre
    rcases first_isSome ha rfl hpre with ⟨e, he⟩
    rcases longest_isSome hb hbadm (List.prefix_refl (T.text b)) with ⟨r, hr⟩
    rcases h _ _ _ _ hk hr he with rfl
    rcases first_spec he with ⟨hemem, heg, hetext⟩
    have heb : T.text e = T.text b :=
      T.text_eq hetext (T.size_le (text_prefix_longest hr hb hbadm (List.prefix_refl _)))
    refine ⟨e, hemem, heg, heb, ?_⟩
    have hne : b ≠ e := by
      intro h
      subst h
      exact hg heg.symm
    exact (before_or_before hb hemem hne).resolve_right (not_before_longest hr hbadm heb.symm)
  foreignApart := by
    intro a ha b hb hk hadm hbadm
    -- whatever both readers took would be admitted and, as a member of `a`'s group, not
    have key : ∀ p, T.text a <+: p → T.text b <+: p → False := by
      intro p hap hbp
      rcases first_isSome ha rfl hap with ⟨e, he⟩
      rcases longest_isSome hb hbadm hbp with ⟨r, hr⟩
      rcases h _ _ _ _ hk hr he with rfl
      rcases longest_spec hr with ⟨-, hradm, -⟩
      rcases first_spec he with ⟨-, heg, -⟩
      rw [T.admits_eq heg, hadm] at hradm
      simp at hradm
    exact ⟨fun hab => key _ hab (List.prefix_refl _), fun hba => key _ (List.prefix_refl _) hba⟩

/-- The readers agree on every path exactly on the aligned tables. -/
theorem agree_iff {served : κ → Prop} :
    (∀ k p r e, served k → T.longest p = some r → T.first k p = some e → e = r) ↔
      T.Aligned served :=
  ⟨aligned_of_agree, fun hT _ _ _ _ hk hr he => hT.agree hk hr he⟩

/-- The longest reader finds something whenever the first one does, exactly when every
served entry is covered by an admitted entry with a shorter or equal text. -/
theorem covered_iff {served : κ → Prop} :
    (∀ k p e, served k → T.first k p = some e → ∃ r, T.longest p = some r) ↔
      ∀ a ∈ T.entries, served (T.group a) →
        ∃ b ∈ T.entries, T.admits b = true ∧ T.text b <+: T.text a := by
  constructor
  · intro h a ha hk
    rcases first_isSome ha rfl (List.prefix_refl (T.text a)) with ⟨e, he⟩
    rcases h _ _ _ hk he with ⟨r, hr⟩
    rcases longest_spec hr with ⟨hrmem, hradm, hrp⟩
    exact ⟨r, hrmem, hradm, hrp⟩
  · intro h k p e hk he
    rcases first_spec he with ⟨hemem, rfl, hep⟩
    rcases h e hemem hk with ⟨b, hb, hbadm, hbe⟩
    exact longest_isSome hb hbadm (hbe.trans hep)

end Table

end Lib.PrefixRouting
