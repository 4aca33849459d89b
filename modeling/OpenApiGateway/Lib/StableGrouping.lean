import Mathlib.Data.List.Basic
import Mathlib.Data.List.Dedup
import Mathlib.Data.List.Induction
import Mathlib.Data.List.Nodup
import Mathlib.Tactic.Linarith

/-!
# Stable grouping of a list by a key

Two loops that group the elements of a list by a key, each keeping the list's order
inside a group: one appends to a list of groups and keeps the groups in the order in
which their keys first occur (`groupAll`), one fills an ordered map (`treeGroups`, with the
labels in a second map, `treeLabels`).

What either has to compute is `IsStableGrouping`: one group for each key, and in it the elements
with that key in list order. It determines the groups up to their order
(`IsStableGrouping.perm`); the reference `stableGroups` meets it, and so do both loops.
-/

namespace Lib.StableGrouping

/-- A group under construction: its key, the label of its first element, its items. -/
structure Group (κ ν ε : Type*) where
  key : κ
  label : ν
  items : List ε

section ListGroups
variable {α κ ν ε : Type*} [DecidableEq κ]

/-- Append an item to the group with key `k`, or open a new group at the end. -/
def pushGroup (k : κ) (label : ν) (item : ε) : List (Group κ ν ε) → List (Group κ ν ε)
  | [] => [⟨k, label, [item]⟩]
  | g :: gs =>
    if g.key = k then { g with items := g.items ++ [item] } :: gs
    else g :: pushGroup k label item gs

/-- Group a whole list, from left to right. -/
def groupAll (key : α → κ) (label : α → ν) (item : α → ε) (l : List α) : List (Group κ ν ε) :=
  l.foldl (fun gs x => pushGroup (key x) (label x) (item x) gs) []

variable {k : κ} {label : ν} {item : ε} {gs : List (Group κ ν ε)} {g : Group κ ν ε}

theorem keys_pushGroup :
    (pushGroup k label item gs).map Group.key =
      if k ∈ gs.map Group.key then gs.map Group.key else gs.map Group.key ++ [k] := by
  induction gs with
  | nil => rfl
  | cons h gs ih =>
    rw [pushGroup]
    by_cases hk : h.key = k
    · simp [hk]
    · rw [if_neg hk, List.map_cons, ih]
      by_cases hmem : k ∈ gs.map Group.key
      · rw [if_pos hmem, if_pos (by simp [hmem])]
        rfl
      · have hk' : k ∉ (h :: gs).map Group.key := by
          rw [List.map_cons, List.mem_cons]
          intro h
          rcases h with rfl | h'
          · exact hk rfl
          · exact hmem h'
        rw [if_neg hmem, if_neg hk']
        rfl

/-- One push changes the group with that key, or opens it, and leaves the others alone. -/
theorem mem_pushGroup_iff (hkeys : (gs.map Group.key).Nodup) :
    g ∈ pushGroup k label item gs ↔
      (g.key ≠ k ∧ g ∈ gs) ∨
      (∃ g' ∈ gs, g'.key = k ∧ g = { g' with items := g'.items ++ [item] }) ∨
      ((∀ g' ∈ gs, g'.key ≠ k) ∧ g = ⟨k, label, [item]⟩) := by
  induction gs with
  | nil => simp [pushGroup]
  | cons h gs ih =>
    rw [List.map_cons, List.nodup_cons] at hkeys
    rcases hkeys with ⟨hh, hgs⟩
    rw [pushGroup]
    by_cases hk : h.key = k
    · -- the key is found here, and by `hkeys` nowhere else
      have hrest : ∀ g' ∈ gs, g'.key ≠ k := by
        intro g' hg' hc
        exact hh (List.mem_map.mpr ⟨g', hg', hc.trans hk.symm⟩)
      rw [if_pos hk, List.mem_cons]
      constructor
      · intro h
        rcases h with rfl | hg
        · exact Or.inr (Or.inl ⟨h, by simp, hk, rfl⟩)
        · exact Or.inl ⟨hrest g hg, by simp [hg]⟩
      · intro h
        rcases h with ⟨hne, hg⟩ | ⟨g', hg', hg'k, rfl⟩ | ⟨hall, rfl⟩
        · rcases List.mem_cons.mp hg with rfl | hg
          · exact absurd hk hne
          · exact Or.inr hg
        · rcases List.mem_cons.mp hg' with rfl | hg'
          · exact Or.inl rfl
          · exact absurd hg'k (hrest g' hg')
        · exact absurd hk (hall h (by simp))
    · rw [if_neg hk, List.mem_cons, ih hgs]
      constructor
      · intro h
        rcases h with rfl | ⟨hne, hg⟩ | ⟨g', hg', hg'k, rfl⟩ | ⟨hall, rfl⟩
        · exact Or.inl ⟨hk, by simp⟩
        · exact Or.inl ⟨hne, by simp [hg]⟩
        · exact Or.inr (Or.inl ⟨g', by simp [hg'], hg'k, rfl⟩)
        · refine Or.inr (Or.inr ⟨?_, rfl⟩)
          intro g' hg'
          rcases List.mem_cons.mp hg' with rfl | hg'
          · exact hk
          · exact hall g' hg'
      · intro h
        rcases h with ⟨hne, hg⟩ | ⟨g', hg', hg'k, rfl⟩ | ⟨hall, rfl⟩
        · rcases List.mem_cons.mp hg with rfl | hg
          · exact Or.inl rfl
          · exact Or.inr (Or.inl ⟨hne, hg⟩)
        · rcases List.mem_cons.mp hg' with rfl | hg'
          · exact absurd hg'k hk
          · exact Or.inr (Or.inr (Or.inl ⟨g', hg', hg'k, rfl⟩))
        · exact Or.inr (Or.inr (Or.inr ⟨fun g' hg' => hall g' (by simp [hg']), rfl⟩))

variable {key : α → κ} {label : α → ν} {item : α → ε}

theorem groupAll_concat (l : List α) (x : α) :
    groupAll key label item (l ++ [x]) =
      pushGroup (key x) (label x) (item x) (groupAll key label item l) := by
  rw [groupAll, List.foldl_append]
  rfl

/-- No key heads two groups. -/
theorem nodup_keys_groupAll (l : List α) :
    ((groupAll key label item l).map Group.key).Nodup := by
  induction l using List.reverseRecOn with
  | nil => simp [groupAll]
  | append_singleton l x ih =>
    rw [groupAll_concat, keys_pushGroup]
    split
    · exact ih
    · rename_i hx
      rw [List.nodup_append]
      refine ⟨ih, List.nodup_singleton _, ?_⟩
      intro a ha b hb hab
      rw [List.mem_singleton] at hb
      exact hx (hb ▸ hab ▸ ha)

/-- The groups are the nonempty fibres of `key`, each labelled by its first element and
holding its elements in list order. -/
theorem mem_groupAll_iff {l : List α} {g : Group κ ν ε} :
    g ∈ groupAll key label item l ↔
      ∃ x rest, l.filter (fun y => decide (key y = g.key)) = x :: rest ∧ g.label = label x ∧
        g.items = (x :: rest).map item := by
  induction l using List.reverseRecOn generalizing g with
  | nil => simp [groupAll]
  | append_singleton l y ih =>
    rw [groupAll_concat, mem_pushGroup_iff (nodup_keys_groupAll l), List.filter_append]
    by_cases hy : key y = g.key
    · have hlast : List.filter (fun z => decide (key z = g.key)) [y] = [y] := by simp [hy]
      rw [hlast]
      constructor
      · intro h
        rcases h with ⟨hne, -⟩ | ⟨g', hg', hg'k, rfl⟩ | ⟨hall, rfl⟩
        · exact absurd hy.symm hne
        · rcases ih.mp hg' with ⟨x, rest, hfilter, hlabel, hitems⟩
          refine ⟨x, rest ++ [y], by rw [hfilter]; rfl, hlabel, ?_⟩
          simp [hitems]
        · -- a new group is opened only where the fibre was empty
          have hnil : l.filter (fun z => decide (key z = key y)) = [] := by
            cases hf : l.filter (fun z => decide (key z = key y)) with
            | nil => rfl
            | cons x rest =>
              have hmem : (⟨key y, label x, (x :: rest).map item⟩ : Group κ ν ε)
                  ∈ groupAll key label item l := ih.mpr ⟨x, rest, hf, rfl, rfl⟩
              exact absurd rfl (hall _ hmem)
          exact ⟨y, [], by rw [hnil]; rfl, rfl, rfl⟩
      · intro h
        rcases h with ⟨x, rest, hfilter, hlabel, hitems⟩
        cases hf : l.filter (fun z => decide (key z = g.key)) with
        | nil =>
          -- `y` is the first of its fibre, so its group is new
          rw [hf, List.nil_append, List.cons.injEq] at hfilter
          rcases hfilter with ⟨rfl, rfl⟩
          refine Or.inr (Or.inr ⟨?_, ?_⟩)
          · intro g' hg' hg'k
            rcases ih.mp hg' with ⟨x', rest', hfilter', -, -⟩
            rw [hg'k, hy, hf] at hfilter'
            simp at hfilter'
          · cases g
            simp_all
        | cons z zs =>
          -- `y` joins the group that `z` opened
          rw [hf, List.cons_append, List.cons.injEq] at hfilter
          rcases hfilter with ⟨rfl, rfl⟩
          refine Or.inr (Or.inl ⟨⟨g.key, label z, (z :: zs).map item⟩, ?_, hy.symm, ?_⟩)
          · exact ih.mpr ⟨z, zs, hf, rfl, rfl⟩
          · cases g
            simp_all
    · have hlast : List.filter (fun z => decide (key z = g.key)) [y] = [] := by simp [hy]
      rw [hlast, List.append_nil]
      constructor
      · intro h
        rcases h with ⟨-, hg⟩ | ⟨g', hg', hg'k, rfl⟩ | ⟨-, rfl⟩
        · exact ih.mp hg
        · exact absurd hg'k.symm hy
        · exact absurd rfl hy
      · intro h
        exact Or.inl ⟨fun hc => hy hc.symm, ih.mpr h⟩

end ListGroups

/-! ## Grouping into an ordered map -/

section TreeGroups
variable {α κ ν ε : Type*} {cmp : κ → κ → Ordering}

/-- One map entry per key, holding the items of that key in list order. -/
def treeGroups (cmp : κ → κ → Ordering) (key : α → κ) (item : α → ε) (l : List α) :
    Std.TreeMap κ (List ε) cmp :=
  l.foldl (fun m x => m.alter (key x) fun o => some (o.getD [] ++ [item x])) ∅

/-- One map entry per key, holding the label of the first element with that key. -/
def treeLabels (cmp : κ → κ → Ordering) (key : α → κ) (label : α → ν) (l : List α) :
    Std.TreeMap κ ν cmp :=
  l.foldl (fun m x => m.alter (key x) fun o => some (o.getD (label x))) ∅

variable [Std.TransCmp cmp] [Std.LawfulEqCmp cmp] [DecidableEq κ] {key : α → κ}

/-- A map that is altered at one key after another holds, at each key, the fold of the
alterations made there. -/
theorem getElem?_foldl_alter (f : α → Option ε → Option ε) (l : List α)
    (m : Std.TreeMap κ ε cmp) (k : κ) :
    (l.foldl (fun m x => m.alter (key x) (f x)) m)[k]? =
      (l.filter fun y => decide (key y = k)).foldl (fun o x => f x o) m[k]? := by
  induction l generalizing m with
  | nil => rfl
  | cons x xs ih =>
    rw [List.foldl_cons, ih, Std.TreeMap.getElem?_alter, List.filter_cons]
    by_cases hk : key x = k
    · subst hk
      rw [if_pos Std.ReflCmp.compare_self, if_pos (by simp), List.foldl_cons]
    · have hcmp : ¬ cmp (key x) k = Ordering.eq := fun hc =>
        hk (Std.LawfulEqCmp.eq_of_compare hc)
      rw [if_neg hcmp, if_neg (by simpa using hk)]

theorem getElem?_treeGroups (item : α → ε) (l : List α) (k : κ) :
    (treeGroups cmp key item l)[k]? =
      if l.filter (fun y => decide (key y = k)) = [] then none
      else some ((l.filter fun y => decide (key y = k)).map item) := by
  rw [treeGroups, getElem?_foldl_alter, Std.TreeMap.getElem?_emptyc]
  -- from here on only the fibre of `k` matters; it is read from its last element
  induction l.filter (fun y => decide (key y = k)) using List.reverseRecOn with
  | nil => rfl
  | append_singleton ys y ih =>
    rw [List.foldl_append, ih]
    by_cases hnil : ys = []
    · simp [hnil]
    · simp [hnil]

theorem getElem?_treeLabels (label : α → ν) (l : List α) (k : κ) :
    (treeLabels cmp key label l)[k]? =
      ((l.filter fun y => decide (key y = k)).head?).map label := by
  -- once a label is there, it stays
  have hstays : ∀ (ys : List α) (v : ν),
      ys.foldl (fun o x => some (o.getD (label x))) (some v) = some v := by
    intro ys v
    induction ys with
    | nil => rfl
    | cons y ys ih => exact ih
  rw [treeLabels, getElem?_foldl_alter (fun x o => some (o.getD (label x))),
    Std.TreeMap.getElem?_emptyc]
  cases l.filter (fun y => decide (key y = k)) with
  | nil => rfl
  | cons y ys => exact hstays ys (label y)

end TreeGroups

/-! ## What a stable grouping is -/

section Reference
variable {α κ ν ε : Type*} [DecidableEq κ]

/-- The reference grouping: one group for each key, in the order of first occurrence. -/
def stableGroups (key : α → κ) (label : α → ν) (item : α → ε) (l : List α) :
    List (Group κ ν ε) :=
  (l.map key).dedup.filterMap fun k =>
    match l.filter (fun y => decide (key y = k)) with
    | [] => none
    | x :: rest => some ⟨k, label x, (x :: rest).map item⟩

/-- The list holds, in some order, one group for each key that occurs, labelled by its first
element and with the items of its elements in list order. -/
structure IsStableGrouping (key : α → κ) (label : α → ν) (item : α → ε) (l : List α)
    (gs : List (Group κ ν ε)) : Prop where
  nodup : (gs.map Group.key).Nodup
  mem_iff : ∀ g, g ∈ gs ↔ ∃ x rest, l.filter (fun y => decide (key y = g.key)) = x :: rest ∧
    g.label = label x ∧ g.items = (x :: rest).map item

variable {key : α → κ} {label : α → ν} {item : α → ε} {l : List α} {gs gs' : List (Group κ ν ε)}

/-- The elements of a fibre are in the list and have its key. -/
theorem mem_of_fibre {fibre : List α} {k : κ}
    (h : l.filter (fun y => decide (key y = k)) = fibre) {x : α} (hx : x ∈ fibre) :
    x ∈ l ∧ key x = k := by
  rw [← h, List.mem_filter, decide_eq_true_eq] at hx
  exact hx

/-- There is one stable grouping, up to the order of its groups. -/
theorem IsStableGrouping.perm (h : IsStableGrouping key label item l gs)
    (h' : IsStableGrouping key label item l gs') : gs.Perm gs' := by
  rw [List.perm_ext_iff_of_nodup (List.Nodup.of_map _ h.nodup) (List.Nodup.of_map _ h'.nodup)]
  intro g
  rw [h.mem_iff, h'.mem_iff]

/-- Every group has a first element, and holds the items of all elements with its key. -/
theorem IsStableGrouping.exists_head (h : IsStableGrouping key label item l gs)
    {g : Group κ ν ε} (hg : g ∈ gs) : ∃ x ∈ l, key x = g.key ∧ label x = g.label ∧
      g.items = (l.filter fun y => decide (key y = key x)).map item := by
  obtain ⟨x, rest, hfilter, hlabel, hitems⟩ := (h.mem_iff g).mp hg
  obtain ⟨hxl, hkey⟩ := mem_of_fibre hfilter List.mem_cons_self
  exact ⟨x, hxl, hkey, hlabel.symm, by rw [hkey, hfilter, hitems]⟩

/-- Every element has a group. -/
theorem IsStableGrouping.exists_group (h : IsStableGrouping key label item l gs) {x : α}
    (hx : x ∈ l) :
    ∃ g ∈ gs, g.key = key x ∧ g.items = (l.filter fun y => decide (key y = key x)).map item := by
  have hmem : x ∈ l.filter fun y => decide (key y = key x) := List.mem_filter.mpr ⟨hx, by simp⟩
  obtain ⟨y, rest, hfilter⟩ := List.exists_cons_of_ne_nil (List.ne_nil_of_mem hmem)
  refine ⟨⟨key x, label y, (y :: rest).map item⟩, ?_, rfl, ?_⟩
  · exact (h.mem_iff _).mpr ⟨y, rest, hfilter, rfl, rfl⟩
  · rw [hfilter]

theorem isStableGrouping_groupAll (key : α → κ) (label : α → ν) (item : α → ε) (l : List α) :
    IsStableGrouping key label item l (groupAll key label item l) :=
  ⟨nodup_keys_groupAll l, fun _ => mem_groupAll_iff⟩

theorem isStableGrouping_stableGroups (key : α → κ) (label : α → ν) (item : α → ε) (l : List α) :
    IsStableGrouping key label item l (stableGroups key label item l) := by
  constructor
  · rw [stableGroups, List.map_filterMap]
    refine List.Nodup.filterMap ?_ (List.nodup_dedup _)
    have hkey : ∀ k k', k' ∈ (Option.map Group.key
        (match l.filter (fun y => decide (key y = k)) with
          | [] => none
          | x :: rest => some (⟨k, label x, (x :: rest).map item⟩ : Group κ ν ε))) → k' = k := by
      intro k k' hk'
      split at hk'
      · simp at hk'
      · simpa [eq_comm] using hk'
    intro k k' k'' hk hk'
    rw [← hkey k k'' hk, ← hkey k' k'' hk']
  · intro g
    rw [stableGroups, List.mem_filterMap]
    constructor
    · rintro ⟨k, -, hg⟩
      split at hg
      · simp at hg
      · rename_i x rest hfilter
        rw [← Option.some.inj hg]
        exact ⟨x, rest, hfilter, rfl, rfl⟩
    · rintro ⟨x, rest, hfilter, hlabel, hitems⟩
      obtain ⟨hxl, hxk⟩ := mem_of_fibre hfilter List.mem_cons_self
      refine ⟨g.key, ?_, ?_⟩
      · rw [List.mem_dedup, ← hxk]
        exact List.mem_map_of_mem hxl
      · rw [hfilter]
        simp only [← hlabel, ← hitems]

/-- Two keys that tell the same elements apart have the same groups, and the items of a group
can be replaced one by one. -/
theorem IsStableGrouping.map {κ' ε' : Type*} [DecidableEq κ'] {key' : α → κ'} {item' : α → ε'}
    (f : κ → κ') (φ : ε → ε') (hkey : ∀ x ∈ l, key' x = f (key x))
    (hinj : ∀ x ∈ l, ∀ y ∈ l, key' x = key' y → key x = key y)
    (hitem : ∀ x ∈ l, φ (item x) = item' x) (h : IsStableGrouping key label item l gs) :
    IsStableGrouping key' label item' l
      (gs.map fun g => ⟨f g.key, g.label, g.items.map φ⟩) := by
  -- the new keys group the list in the same way
  have hfibre : ∀ x ∈ l, l.filter (fun y => decide (key' y = key' x)) =
      l.filter (fun y => decide (key y = key x)) := by
    intro x hx
    refine List.filter_congr fun y hy => ?_
    rw [decide_eq_decide]
    exact ⟨hinj y hy x hx, fun heq => by rw [hkey y hy, hkey x hx, heq]⟩
  constructor
  · rw [List.map_map]
    refine List.Nodup.map_on ?_ (List.Nodup.of_map _ h.nodup)
    intro g hg g' hg' heq
    obtain ⟨x, hx, hxk, -⟩ := h.exists_head hg
    obtain ⟨x', hx', hxk', -⟩ := h.exists_head hg'
    refine List.inj_on_of_nodup_map h.nodup hg hg' ?_
    rw [← hxk, ← hxk']
    refine hinj x hx x' hx' ?_
    rw [hkey x hx, hkey x' hx', hxk, hxk']
    exact heq
  · intro g'
    rw [List.mem_map]
    constructor
    · rintro ⟨g, hg, rfl⟩
      obtain ⟨x, rest, hfilter, hlabel, hitems⟩ := (h.mem_iff g).mp hg
      obtain ⟨hx, hxk⟩ := mem_of_fibre hfilter List.mem_cons_self
      refine ⟨x, rest, ?_, hlabel, ?_⟩
      · have hsame := hfibre x hx
        rw [hkey x hx, hxk, hfilter] at hsame
        exact hsame
      · show g.items.map φ = (x :: rest).map item'
        rw [hitems, List.map_map]
        exact List.map_congr_left fun y hy => hitem y (mem_of_fibre hfilter hy).1
    · rintro ⟨x, rest, hfilter, hlabel, hitems⟩
      obtain ⟨hx, hxk⟩ := mem_of_fibre hfilter List.mem_cons_self
      refine ⟨⟨key x, label x, (x :: rest).map item⟩, ?_, ?_⟩
      · refine (h.mem_iff _).mpr ⟨x, rest, ?_, rfl, rfl⟩
        rw [← hfibre x hx, hxk, hfilter]
      · have hitems' : ((x :: rest).map item).map φ = g'.items := by
          rw [hitems, List.map_map]
          exact List.map_congr_left fun y hy => hitem y (mem_of_fibre hfilter hy).1
        cases g'
        simp_all

end Reference

section ReferenceTree
variable {α κ ν ε : Type*} [DecidableEq κ] (cmp : κ → κ → Ordering) [Std.TransCmp cmp]
  [Std.LawfulEqCmp cmp]

/-- The two maps together, read out in key order, are a stable grouping. -/
theorem isStableGrouping_treeGroups (key : α → κ) (label : α → ν) (default : ν) (item : α → ε)
    (l : List α) :
    IsStableGrouping key label item l
      ((treeGroups cmp key item l).toList.map fun (k, items) =>
        ⟨k, (treeLabels cmp key label l)[k]?.getD default, items⟩) := by
  constructor
  · rw [List.map_map]
    have hkeys : ((treeGroups cmp key item l).toList.map Prod.fst).Nodup := by
      rw [Std.TreeMap.map_fst_toList_eq_keys]
      exact Std.TreeMap.nodup_keys
    exact hkeys
  · intro g
    rw [List.mem_map]
    constructor
    · rintro ⟨⟨k, items⟩, hk, rfl⟩
      rw [Std.TreeMap.mem_toList_iff_getElem?_eq_some, getElem?_treeGroups] at hk
      split at hk
      · simp at hk
      · rename_i hne
        obtain ⟨x, rest, hfilter⟩ := List.exists_cons_of_ne_nil hne
        refine ⟨x, rest, hfilter, ?_, ?_⟩
        · show (treeLabels cmp key label l)[k]?.getD default = label x
          rw [getElem?_treeLabels, hfilter]
          rfl
        · rw [← hfilter]
          exact (Option.some.inj hk).symm
    · rintro ⟨x, rest, hfilter, hlabel, hitems⟩
      refine ⟨(g.key, g.items), ?_, ?_⟩
      · rw [Std.TreeMap.mem_toList_iff_getElem?_eq_some, getElem?_treeGroups, hfilter,
          if_neg (List.cons_ne_nil _ _), hitems]
      · simp only [getElem?_treeLabels, hfilter, List.head?_cons, Option.map_some, Option.getD_some,
          ← hlabel]

end ReferenceTree

end Lib.StableGrouping
