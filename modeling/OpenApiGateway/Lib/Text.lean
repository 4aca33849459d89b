import Mathlib.Data.List.Basic
import Mathlib.Data.List.TakeDrop
import Mathlib.Data.List.TakeWhile
import Mathlib.Data.String.Basic
import Mathlib.Tactic.Linarith

/-!
# Text operations, as a string library with Rust's conventions defines them

Lean's own `String` functions run over byte positions and do not reduce well, so every
operation here is defined on the list of characters, where induction and `decide` both
work. Sizes are UTF-8 byte sizes, as `str::len` has them; the one fact the prefix lemmas
need about bytes is that a prefix is no longer than the text it starts
(`utf8ByteSize_le_of_prefix`), and is the whole text when it is as long.
-/

namespace Lib.Text

/-! ## Prefixes -/

/-- `s.starts_with(p)`. -/
def startsWith (s p : String) : Bool := p.toList.isPrefixOf s.toList

theorem startsWith_iff {s p : String} : startsWith s p = true ↔ p.toList <+: s.toList :=
  List.isPrefixOf_iff_prefix

theorem startsWith_self (s : String) : startsWith s s = true :=
  startsWith_iff.mpr (List.prefix_refl _)

theorem startsWith_append (p s : String) : startsWith (p ++ s) p = true :=
  startsWith_iff.mpr (by simp)

theorem ne_append_of_not_startsWith {t p s : String} (h : startsWith t p = false) : t ≠ p ++ s := by
  rintro rfl
  exact absurd h (by simp [startsWith_append])

/-- A text that starts with `p` is `p` followed by something. -/
theorem eq_append_of_prefix {s p : String} (h : p.toList <+: s.toList) :
    ∃ t : String, s = p ++ t := by
  rcases h with ⟨rest, hrest⟩
  refine ⟨String.ofList rest, ?_⟩
  apply String.toList_inj.mp
  rw [String.toList_append, String.toList_ofList, hrest]

theorem utf8ByteSize_le_of_prefix {s p : String} (h : p.toList <+: s.toList) :
    p.utf8ByteSize ≤ s.utf8ByteSize := by
  rcases eq_append_of_prefix h with ⟨t, rfl⟩
  rw [String.utf8ByteSize_append]
  omega

/-- A prefix as long (in bytes) as the whole text is the text. -/
theorem eq_of_prefix_of_utf8ByteSize_le {s p : String} (h : p.toList <+: s.toList)
    (hsize : s.utf8ByteSize ≤ p.utf8ByteSize) : p = s := by
  rcases eq_append_of_prefix h with ⟨t, rfl⟩
  rw [String.utf8ByteSize_append] at hsize
  have ht : t = "" := String.utf8ByteSize_eq_zero_iff.mp (by omega)
  rw [ht, String.append_empty]

/-- `s.ends_with(p)`. -/
def endsWith (s p : String) : Bool := p.toList.isSuffixOf s.toList

/-! ## Letter case -/

/-- `s.to_ascii_lowercase()`: only `A`–`Z` change. -/
def toAsciiLowercase (s : String) : String := String.ofList (s.toList.map Char.toLower)

theorem toLower_toLower (c : Char) : c.toLower.toLower = c.toLower := by
  by_cases h : c.val ≥ 'A'.val ∧ c.val ≤ 'Z'.val
  · have hge := UInt32.le_iff_toNat_le.mp h.1
    have hle := UInt32.le_iff_toNat_le.mp h.2
    -- a lowered letter lies above the capitals
    have habove : ¬ (c.val + ('a'.val - 'A'.val) ≤ 'Z'.val) := by
      have hshift : ('a'.val - 'A'.val).toNat = 32 := by decide
      have hA : ('A'.val).toNat = 65 := by decide
      have hZ : ('Z'.val).toNat = 90 := by decide
      rw [UInt32.le_iff_toNat_le, UInt32.toNat_add]
      omega
    have hlower : c.toLower.val = c.val + ('a'.val - 'A'.val) :=
      congrArg Char.val (dif_pos h)
    exact dif_neg fun h' => habove (hlower ▸ h'.2)
  · have hsame : c.toLower = c := dif_neg h
    rw [hsame, hsame]

theorem toAsciiLowercase_idem (s : String) :
    toAsciiLowercase (toAsciiLowercase s) = toAsciiLowercase s := by
  simp only [toAsciiLowercase, String.toList_ofList, List.map_map, Function.comp_def,
    toLower_toLower]

/-- `a.eq_ignore_ascii_case(b)`. -/
def eqIgnoreAsciiCase (a b : String) : Bool := toAsciiLowercase a == toAsciiLowercase b

theorem eqIgnoreAsciiCase_self (a : String) : eqIgnoreAsciiCase a a = true := by
  simp [eqIgnoreAsciiCase]

/-! ## White space -/

/-- The characters with the Unicode property `White_Space`. -/
def isWhitespace (c : Char) : Bool :=
  let n := c.toNat
  (9 ≤ n && n ≤ 13) || n == 0x20 || n == 0x85 || n == 0xA0 || n == 0x1680 ||
    (0x2000 ≤ n && n ≤ 0x200A) || n == 0x2028 || n == 0x2029 || n == 0x202F ||
    n == 0x205F || n == 0x3000

/-- `s.trim()`. -/
def trim (s : String) : String :=
  String.ofList (((s.toList.dropWhile isWhitespace).reverse.dropWhile isWhitespace).reverse)

/-- The words collected so far in `current`, reversed, and those still to come. -/
def wordsFrom (current : List Char) : List Char → List (List Char)
  | [] => if current = [] then [] else [current.reverse]
  | c :: cs =>
    if isWhitespace c then
      if current = [] then wordsFrom [] cs else current.reverse :: wordsFrom [] cs
    else wordsFrom (c :: current) cs

/-- `s.split_whitespace().collect()`. -/
def splitWhitespace (s : String) : List String := (wordsFrom [] s.toList).map String.ofList

example : splitWhitespace "  read  write " = ["read", "write"] := by decide

/-! ## The last separator

`rfind` and `rsplitn(2, _)` look at the same place, the last occurrence of a character;
`rsplitList_eq` ties the two readings together. -/

/-- Position of the last occurrence of `c`, counted in characters. -/
def rfindList (c : Char) : List Char → Option ℕ
  | [] => none
  | x :: xs =>
    match rfindList c xs with
    | some i => some (i + 1)
    | none => if x = c then some 0 else none

/-- The text before and after the last occurrence of `c`. -/
def rsplitList (c : Char) : List Char → Option (List Char × List Char)
  | [] => none
  | x :: xs =>
    match rsplitList c xs with
    | some (before, after) => some (x :: before, after)
    | none => if x = c then some ([], xs) else none

/-- `s.rfind(c)`. -/
def rfind (c : Char) (s : String) : Option ℕ := rfindList c s.toList

/-- `s.rsplitn(2, c).collect()`: the part after the last `c` comes first. -/
def rsplitn2 (c : Char) (s : String) : List String :=
  match rsplitList c s.toList with
  | some (before, after) => [String.ofList after, String.ofList before]
  | none => [s]

/-- Both readings of the last separator agree. -/
theorem rsplitList_eq (c : Char) (l : List Char) :
    rsplitList c l = (rfindList c l).map fun i => (l.take i, l.drop (i + 1)) := by
  induction l with
  | nil => rfl
  | cons x xs ih =>
    rw [rsplitList, rfindList, ih]
    cases rfindList c xs with
    | some i => simp
    | none =>
      by_cases hx : x = c
      · simp [hx]
      · simp [hx]

/-- A text splits in two exactly where its last separator is. -/
theorem rsplitn2_eq_pair_iff {c : Char} {s after before : String} :
    rsplitn2 c s = [after, before] ↔
      ∃ i, rfind c s = some i ∧ String.ofList (s.toList.drop (i + 1)) = after ∧
        String.ofList (s.toList.take i) = before := by
  unfold rsplitn2 rfind
  rw [rsplitList_eq]
  cases rfindList c s.toList with
  | none => simp
  | some i => simp

/-! ## The first separator -/

/-- `s.split_once(c)`: the text before and after the first occurrence of `c`. -/
def splitOnce (c : Char) (s : String) : Option (String × String) :=
  match s.toList.span fun x => x != c with
  | (_, []) => none
  | (before, _ :: after) => some (String.ofList before, String.ofList after)

/-- A text splits in two at its first separator. -/
theorem splitOnce_eq_some_iff {c : Char} {s before after : String} :
    splitOnce c s = some (before, after) ↔
      s.toList = before.toList ++ c :: after.toList ∧ c ∉ before.toList := by
  unfold splitOnce
  rw [List.span_eq_takeWhile_dropWhile]
  have hparts := List.takeWhile_append_dropWhile (p := fun x => x != c) (l := s.toList)
  constructor
  · intro h
    split at h
    · simp at h
    · rename_i pre x post hspan
      rw [Prod.mk.injEq] at hspan
      have hpair := Option.some.inj h
      rw [Prod.mk.injEq] at hpair
      rw [← hpair.1, ← hpair.2, String.toList_ofList, String.toList_ofList]
      have hx : x = c := by
        have hhead := List.head_dropWhile_not (fun x => x != c) (l := s.toList) (by simp [hspan.2])
        simpa [hspan.2] using hhead
      rw [hspan.1, hspan.2, hx] at hparts
      refine ⟨hparts.symm, ?_⟩
      intro hmem
      rw [← hspan.1] at hmem
      have hne := List.mem_takeWhile_imp hmem
      simp at hne
  · rintro ⟨heq, hnot⟩
    have hpos : ∀ x ∈ before.toList, (x != c) = true := by
      intro x hx
      rw [bne_iff_ne]
      rintro rfl
      exact hnot hx
    have htake : s.toList.takeWhile (fun x => x != c) = before.toList := by
      rw [heq, List.takeWhile_append_of_pos hpos]
      simp
    have hdrop : s.toList.dropWhile (fun x => x != c) = c :: after.toList := by
      rw [heq, List.dropWhile_append_of_pos hpos]
      simp
    simp [htake, hdrop]

example : splitOnce '=' "a=b=c" = some ("a", "b=c") ∧ splitOnce '=' "ab" = none := by decide

/-! ## All separators -/

/-- `s.split(c).collect()`. -/
def splitOn (c : Char) (s : String) : List String := (s.toList.splitOn c).map String.ofList

theorem notMem_of_mem_splitOn {α : Type*} [DecidableEq α] {c : α} {l part : List α}
    (h : part ∈ l.splitOn c) : c ∉ part := by
  induction l generalizing part with
  | nil =>
    rw [List.mem_singleton.mp h]
    exact List.not_mem_nil
  | cons x l ih =>
    rw [List.splitOn_cons_eq_if_modifyHead] at h
    split at h
    · rcases List.mem_cons.mp h with rfl | h
      · exact List.not_mem_nil
      · exact ih h
    · rename_i hx
      have hne : x ≠ c := by simpa using hx
      obtain ⟨first, rest, hparts⟩ := List.exists_cons_of_ne_nil (List.splitOn_ne_nil c l)
      rw [hparts, List.modifyHead_cons] at h
      rcases List.mem_cons.mp h with rfl | h
      · have hfirst := ih (hparts ▸ List.mem_cons_self)
        exact List.not_mem_cons_of_ne_of_not_mem hne.symm hfirst
      · exact ih (hparts ▸ List.mem_cons_of_mem _ h)

/-- Texts joined by a separator are the parts between separators exactly if none of them holds
it, empty ones apart. -/
theorem filter_splitOn_intercalate_iff (c : Char) (texts : List String) :
    (splitOn c ((String.singleton c).intercalate texts)).filter (fun s => s ≠ "") =
        texts.filter (fun s => s ≠ "") ↔
      ∀ s ∈ texts, c ∉ s.toList := by
  have hjoined : ((String.singleton c).intercalate texts).toList =
      [c].intercalate (texts.map String.toList) := by
    rw [String.toList_intercalate, String.toList_singleton]
  unfold splitOn
  rw [hjoined]
  constructor
  · -- a text with the separator is none of the parts, though it is not left out as empty
    intro h s hs hc
    have hne : s ≠ "" := by
      rintro rfl
      exact List.not_mem_nil hc
    have hpart : s ∈ texts.filter (fun s => s ≠ "") := List.mem_filter.mpr ⟨hs, by simpa using hne⟩
    rw [← h] at hpart
    obtain ⟨part, hmem, rfl⟩ := List.mem_map.mp (List.mem_of_mem_filter hpart)
    rw [String.toList_ofList] at hc
    exact notMem_of_mem_splitOn hmem hc
  · intro h
    cases texts with
    | nil => rfl
    | cons first rest =>
      have hparts : ∀ part ∈ (first :: rest).map String.toList, c ∉ part := by
        intro part hpart
        obtain ⟨s, hs, rfl⟩ := List.mem_map.mp hpart
        exact h s hs
      rw [List.splitOn_intercalate c hparts (by simp), List.map_map]
      have hread : ∀ s ∈ first :: rest, (String.ofList ∘ String.toList) s = s :=
        fun s _ => String.ofList_toList
      rw [List.map_congr_left hread, List.map_id']

/-! ## Decimal numbers -/

/-- The value of a list of decimal digits, most significant first. -/
def digitsValue (l : List Char) : ℕ :=
  l.foldl (fun n c => n * 10 + (c.toNat - '0'.toNat)) 0

theorem digitsValue_toDigits (n : ℕ) : digitsValue (Nat.toDigits 10 n) = n := by
  unfold digitsValue
  have hfold := Nat.ofDigitChars_ten_toDigits (n := n)
  rw [Nat.ofDigitChars_eq_foldl] at hfold
  simpa [Nat.mul_comm] using hfold

/-- Different numbers have different decimals. -/
theorem toString_nat_injective : Function.Injective (toString : ℕ → String) := by
  intro m n h
  have hdigits : Nat.toDigits 10 m = Nat.toDigits 10 n := String.ofList_injective h
  rw [← digitsValue_toDigits m, hdigits, digitsValue_toDigits]

/-- Leading zeros do not count. -/
theorem digitsValue_replicate_append (k : ℕ) (l : List Char) :
    digitsValue (List.replicate k '0' ++ l) = digitsValue l := by
  induction k with
  | zero => rfl
  | succ k ih => exact ih

/-- The digits of an unsigned number: one leading `+` is skipped. -/
def unsignedDigits (s : String) : List Char :=
  match s.toList with
  | '+' :: rest => rest
  | l => l

/-- `s.parse::<u16>().ok()`. -/
def parseU16 (s : String) : Option ℕ :=
  let digits := unsignedDigits s
  if digits ≠ [] ∧ digits.all Char.isDigit = true ∧ digitsValue digits < 2 ^ 16 then
    some (digitsValue digits)
  else none

/-- `s.parse::<u32>().ok()`. -/
def parseU32 (s : String) : Option ℕ :=
  let digits := unsignedDigits s
  if digits ≠ [] ∧ digits.all Char.isDigit = true ∧ digitsValue digits < 2 ^ 32 then
    some (digitsValue digits)
  else none

example : parseU16 "8080" = some 8080 ∧ parseU16 "65536" = none ∧ parseU16 "" = none := by decide

end Lib.Text
