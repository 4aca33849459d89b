import Mathlib.Data.List.AList

/-!
# Filling a map in a loop

A loop that makes a value for each item of a list and inserts it under the item's key, and
that stops at the first item it fails on. When the keys are distinct, no insertion hides an
earlier one, so that the map ends up with the value of every item.
-/

namespace Lib.KeyedLoop

variable {α β γ ε : Type*} [DecidableEq γ] {key : α → γ} {make : α → Except ε β}

/-- Insert the value of each item under its key, up to the first failure. -/
def insertEach (key : α → γ) (make : α → Except ε β) :
    List α → (AList fun _ : γ => β) → Except ε (AList fun _ : γ => β)
  | [], values => .ok values
  | item :: items, values =>
    match make item with
    | .error e => .error e
    | .ok value => insertEach key make items (values.insert (key item) value)

/-- A key of none of the items keeps its value. -/
theorem lookup_insertEach_of_notMem {items : List α} {values result : AList fun _ : γ => β}
    (h : insertEach key make items values = .ok result) {k : γ} (hk : k ∉ items.map key) :
    result.lookup k = values.lookup k := by
  induction items generalizing values with
  | nil =>
    rw [insertEach, Except.ok.injEq] at h
    rw [h]
  | cons item items ih =>
    rw [insertEach] at h
    split at h
    · simp at h
    · simp only [List.map_cons, List.mem_cons, not_or] at hk
      rw [ih h hk.2, AList.lookup_insert_ne hk.1]

/-- The last item of a key leaves its value. -/
theorem lookup_insertEach_last {before after : List α} {item : α}
    {values result : AList fun _ : γ => β}
    (h : insertEach key make (before ++ item :: after) values = .ok result)
    (hlast : key item ∉ after.map key) :
    ∃ value, make item = .ok value ∧ result.lookup (key item) = some value := by
  induction before generalizing values with
  | nil =>
    rw [List.nil_append, insertEach] at h
    split at h
    · simp at h
    · rename_i value hvalue
      refine ⟨value, hvalue, ?_⟩
      rw [lookup_insertEach_of_notMem h hlast, AList.lookup_insert]
  | cons head before ih =>
    rw [List.cons_append, insertEach] at h
    split at h
    · simp at h
    · exact ih h

/-- With distinct keys, the value of each item is found under its key. -/
theorem lookup_insertEach {items : List α} {values result : AList fun _ : γ => β}
    (h : insertEach key make items values = .ok result) (hnodup : (items.map key).Nodup)
    {item : α} (hitem : item ∈ items) :
    ∃ value, make item = .ok value ∧ result.lookup (key item) = some value := by
  obtain ⟨before, after, rfl⟩ := List.append_of_mem hitem
  rw [List.map_append, List.map_cons] at hnodup
  exact lookup_insertEach_last h (List.nodup_cons.mp hnodup.of_append_right).1

/-- A value found at the end was there before, or is an item's. -/
theorem mem_or_of_lookup_insertEach {items : List α} {values result : AList fun _ : γ => β}
    (h : insertEach key make items values = .ok result) {k : γ} {value : β}
    (hk : result.lookup k = some value) :
    values.lookup k = some value ∨ ∃ item ∈ items, key item = k ∧ make item = .ok value := by
  induction items generalizing values with
  | nil =>
    rw [insertEach, Except.ok.injEq] at h
    exact Or.inl (h ▸ hk)
  | cons head items ih =>
    rw [insertEach] at h
    split at h
    · simp at h
    · rename_i made hmade
      rcases ih h with hbefore | ⟨item, hitem, hfound⟩
      · by_cases hhead : k = key head
        · rw [hhead, AList.lookup_insert, Option.some.injEq] at hbefore
          exact Or.inr ⟨head, by simp, hhead.symm, hbefore ▸ hmade⟩
        · rw [AList.lookup_insert_ne hhead] at hbefore
          exact Or.inl hbefore
      · exact Or.inr ⟨item, List.mem_cons_of_mem _ hitem, hfound⟩

/-- The loop runs to its end when it fails on no item. -/
theorem insertEach_isOk_iff {items : List α} {values : AList fun _ : γ => β} :
    (∃ result, insertEach key make items values = .ok result) ↔
      ∀ item ∈ items, ∃ value, make item = .ok value := by
  induction items generalizing values with
  | nil => exact iff_of_true ⟨values, rfl⟩ fun _ h => absurd h List.not_mem_nil
  | cons head items ih =>
    rw [List.forall_mem_cons, insertEach]
    cases hhead : make head with
    | error e => exact iff_of_false (fun h => by simp at h) fun h => by simp at h
    | ok value => exact ih.trans (and_iff_right ⟨value, rfl⟩).symm

/-- Two loops that make the same values under the same keys, item by item, fill the same map. -/
theorem insertEach_of_forall₂ {δ : Type*} {key' : δ → γ} {make' : δ → Except ε β}
    {items : List α} {items' : List δ} {values result : AList fun _ : γ => β}
    (hitems : List.Forall₂ (fun item item' => key item = key' item' ∧
      ∀ value, make item = .ok value → make' item' = .ok value) items items')
    (h : insertEach key make items values = .ok result) :
    insertEach key' make' items' values = .ok result := by
  induction hitems generalizing values with
  | nil => exact h
  | cons hhead _ ih =>
    rw [insertEach] at h ⊢
    split at h
    · simp at h
    · rename_i value hvalue
      rw [hhead.2 value hvalue, ← hhead.1]
      exact ih h

/-! ## Keys that may be taken once

Of a list of named items only those with a known name are read, and none of them twice. -/

section Once
variable {known : γ → Bool} {read : γ → α → Except ε β} {duplicate : γ → ε}

/-- Read the items with a known name in order, up to the first failure or repeated name. -/
def insertOnce (known : γ → Bool) (read : γ → α → Except ε β) (duplicate : γ → ε) :
    List (γ × α) → (AList fun _ : γ => β) → Except ε (AList fun _ : γ => β)
  | [], values => .ok values
  | (name, item) :: items, values =>
    if known name = true then
      if name ∈ values then .error (duplicate name)
      else
        match read name item with
        | .error e => .error e
        | .ok value => insertOnce known read duplicate items (values.insert name value)
    else insertOnce known read duplicate items values

/-- Where no known name is repeated, this is the plain loop over the items with a known name. -/
theorem insertOnce_eq_insertEach {items : List (γ × α)} {values : AList fun _ : γ => β}
    (hnodup : ((items.filter fun item => known item.1).map Prod.fst).Nodup)
    (hnew : ∀ item ∈ items, item.1 ∉ values) :
    insertOnce known read duplicate items values =
      insertEach Prod.fst (fun item => read item.1 item.2) (items.filter fun item => known item.1)
        values := by
  induction items generalizing values with
  | nil => rfl
  | cons head items ih =>
    obtain ⟨name, item⟩ := head
    rw [insertOnce]
    have hrest : ∀ later ∈ items, later.1 ∉ values :=
      fun later hlater => hnew later (List.mem_cons_of_mem _ hlater)
    by_cases hknown : known name = true
    · have hkept : ((name, item) :: items).filter (fun item => known item.1) =
          (name, item) :: items.filter fun item => known item.1 := List.filter_cons_of_pos hknown
      rw [hkept, List.map_cons, List.nodup_cons] at hnodup
      rw [if_pos hknown, if_neg (hnew _ List.mem_cons_self), hkept, insertEach]
      cases hread : read name item with
      | error e => rfl
      | ok value =>
        apply ih hnodup.2
        intro later hlater
        rw [AList.mem_insert, not_or]
        refine ⟨fun hsame => hnodup.1 ?_, hrest later hlater⟩
        have hlaterKnown : known later.1 = true := by
          rw [hsame]
          exact hknown
        have hkeptLater : later ∈ items.filter fun item => known item.1 :=
          List.mem_filter.mpr ⟨hlater, hlaterKnown⟩
        exact List.mem_map.mpr ⟨later, hkeptLater, hsame⟩
    · have hleft : ((name, item) :: items).filter (fun item => known item.1) =
          items.filter fun item => known item.1 := List.filter_cons_of_neg hknown
      rw [hleft] at hnodup ⊢
      rw [if_neg hknown]
      exact ih hnodup hrest

end Once

end Lib.KeyedLoop
