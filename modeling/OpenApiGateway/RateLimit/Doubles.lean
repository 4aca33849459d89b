import OpenApiGateway.RateLimit.Bucket

/-!
# Rounding and order

In any arithmetic the operations of the buckets keep the order of the numbers they are given,
infinities included. Doubles keep whole numbers up to `2 ^ 53` exactly, and are kept themselves
(`Binary64.IsDouble`), so that a result between two doubles stays between them.
`asSecsF64_mono` uses both: the doubles of two durations are in their order, also where the
seconds take up all digits and the rest is lost.
-/

namespace OpenApiGateway
namespace F64

/-! ## Order -/

section Order
variable {a b c : F64}

/-- As in IEEE 754, a comparison with NaN is false, so that `≤` is transitive but not reflexive. -/
theorem le_trans (h : a.le b = true) (h' : b.le c = true) : a.le c = true := by
  cases a <;> cases b <;> cases c <;> simp_all [le]
  exact h.trans h'

theorem lt_of_lt_of_le (h : a.lt b = true) (h' : b.le c = true) : a.lt c = true := by
  cases a <;> cases b <;> cases c <;> simp_all [lt, le]
  exact h.trans_le h'

theorem lt_of_le_of_lt (h : a.le b = true) (h' : b.lt c = true) : a.lt c = true := by
  cases a <;> cases b <;> cases c <;> simp_all [lt, le]
  exact h.trans_lt h'

/-- What is below something is a number. -/
theorem le_refl_of_le (h : a.le b = true) : a.le a = true := by
  cases a <;> simp_all [le]

theorem le_refl_of_ge (h : a.le b = true) : b.le b = true := by
  cases a <;> cases b <;> simp_all [le]

theorem le_of_lt (h : a.lt b = true) : a.le b = true := by
  cases a <;> cases b <;> simp_all [lt, le]
  exact h.le

/-- `<` is the strict part of `≤`. -/
theorem not_lt_of_ge (h : a.le b = true) : b.lt a = false := by
  cases a <;> cases b <;> simp_all [lt, le]

/-- Away from NaN, what is not less is greater or equal. -/
theorem le_of_not_lt (ha : a.le a = true) (hb : b.le b = true) (h : a.lt b = false) :
    b.le a = true := by
  cases a <;> cases b <;> simp_all [lt, le]

/-- Two numbers that are not NaN can be compared. -/
theorem lt_of_not_le (ha : a.le a = true) (hb : b.le b = true) (h : a.le b = false) :
    b.lt a = true := by
  cases a <;> cases b <;> simp_all [lt, le]

theorem not_le_of_lt' (h : a.lt b = true) : b.le a = false := by
  cases a <;> cases b <;> simp_all [lt, le]

/-- Between finite numbers there are only finite numbers. -/
theorem exists_finite {x : F64} {low high : ℚ} (hlow : (finite low).le x = true)
    (hhigh : x.le (finite high) = true) : ∃ q, x = finite q ∧ low ≤ q ∧ q ≤ high := by
  cases x with
  | finite q => exact ⟨q, rfl, by simpa using hlow, by simpa using hhigh⟩
  | nan => simp [le] at hlow
  | negInf => simp [le] at hlow
  | posInf => simp [le] at hhigh

theorem neg_le_neg (h : a.le b = true) : b.neg.le a.neg = true := by
  cases a <;> cases b <;> simp_all [le, neg]

/-- The minimum with a finite number keeps the order. -/
theorem luaMin_le_luaMin (q : ℚ) (h : a.le b = true) :
    (a.luaMin (finite q)).le (b.luaMin (finite q)) = true := by
  unfold luaMin
  cases a <;> cases b <;> simp_all [lt, le]
  all_goals
    split_ifs <;> simp_all
    try linarith

/-- A function that keeps the order of finite numbers, and the infinities, keeps the order. -/
theorem map_le_map {f : F64 → F64} (hneg : f negInf = negInf) (hpos : f posInf = posInf)
    (hfinite : ∀ {p q : ℚ}, p ≤ q → (f (finite p)).le (f (finite q)) = true)
    (h : a.le b = true) : (f a).le (f b) = true := by
  have hnumber : ∀ q : ℚ, f (finite q) ≠ nan := by
    intro q hnan
    have hself := hfinite (le_refl q)
    simp [hnan, le] at hself
  cases a with
  | nan => simp [le] at h
  | negInf =>
    cases b with
    | nan => simp [le] at h
    | negInf => simp [hneg, le]
    | posInf => simp [hneg, hpos, le]
    | finite q =>
      rw [hneg]
      cases hq : f (finite q) <;> simp_all [le]
  | posInf =>
    cases b with
    | posInf => simp [hpos, le]
    | _ => simp [le] at h
  | finite p =>
    cases b with
    | nan => simp [le] at h
    | negInf => simp [le] at h
    | finite q => exact hfinite (by simpa [le] using h)
    | posInf =>
      rw [hpos]
      cases hp : f (finite p) <;> simp_all [le]

/-- Rounding up to a whole number is monotone. -/
theorem ceil_le_ceil (h : a.le b = true) : a.ceil.le b.ceil = true := by
  refine map_le_map (f := ceil) rfl rfl ?_ h
  intro p q hpq
  simpa [le, ceil] using Int.ceil_le_ceil hpq

theorem floor_le_floor (h : a.le b = true) : a.floor.le b.floor = true := by
  refine map_le_map (f := floor) rfl rfl ?_ h
  intro p q hpq
  simpa [le, floor] using Int.floor_le_floor hpq

end Order

/-! ## Operations -/

section Operations
variable [Arithmetic] {a b : F64}

/-- `as f64` is monotone, since rounding is. -/
theorem ofNat_le_ofNat {m n : ℕ} (h : m ≤ n) : (ofNat m).le (ofNat n) = true :=
  Arithmetic.round_mono (by exact_mod_cast h)

/-- A rounded sum grows with its second part. -/
theorem add_le_add_left (t : ℚ) (h : a.le b = true) :
    ((finite t).add a).le ((finite t).add b) = true :=
  map_le_map (f := (finite t).add) rfl rfl
    (fun hpq => Arithmetic.round_mono (by linarith)) h

theorem sub_le_sub_left (t : ℚ) (h : a.le b = true) :
    ((finite t).sub b).le ((finite t).sub a) = true :=
  add_le_add_left t (neg_le_neg h)

/-- A positive factor keeps the order. -/
theorem mul_le_mul_left {r : ℚ} (hr : 0 < r) (h : a.le b = true) :
    ((finite r).mul a).le ((finite r).mul b) = true :=
  map_le_map (f := (finite r).mul) (by simp [mul, infTimes, hr, hr.ne'])
    (by simp [mul, infTimes, hr, hr.ne'])
    (fun hpq => Arithmetic.round_mono (mul_le_mul_of_nonneg_left hpq hr.le)) h

theorem mul_le_mul_right {r : ℚ} (hr : 0 < r) (h : a.le b = true) :
    (a.mul (finite r)).le (b.mul (finite r)) = true :=
  map_le_map (f := fun x => x.mul (finite r)) (by simp [mul, infTimes, hr, hr.ne'])
    (by simp [mul, infTimes, hr, hr.ne'])
    (fun hpq => Arithmetic.round_mono (mul_le_mul_of_nonneg_right hpq hr.le)) h

theorem div_le_div_right {d : ℚ} (hd : 0 < d) (h : a.le b = true) :
    (a.div (finite d)).le (b.div (finite d)) = true := by
  refine map_le_map (f := fun x => x.div (finite d)) ?_ ?_ ?_ h
  · simp [div, hd.not_gt]
  · simp [div, hd.not_gt]
  · intro p q hpq
    simp only [div, if_neg hd.ne']
    exact Arithmetic.round_mono (div_le_div_of_nonneg_right hpq hd.le)

end Operations

end F64

/-! ## Doubles -/

namespace Binary64

open Lib.Rounding

/-- A number that is a double is not rounded. -/
def IsDouble (q : ℚ) : Prop := Arithmetic.round q = .finite q

instance (q : ℚ) : Decidable (IsDouble q) := inferInstanceAs (Decidable (_ = _))

section
variable {a b q x : ℚ}

/-- Below the limit nothing overflows. -/
theorem overflow_of_abs_lt (h : |q| < limit) : overflow q = .finite q := by
  obtain ⟨hlow, hhigh⟩ := abs_lt.mp h
  rw [overflow, if_neg hhigh.not_ge, if_neg hlow.not_ge]

theorem of_overflow_eq (h : overflow q = .finite x) : x = q ∧ |q| < limit := by
  unfold overflow at h
  split at h
  · simp at h
  · rename_i hhigh
    split at h
    · simp at h
    · rename_i hlow
      rw [F64.finite.injEq] at h
      exact ⟨h.symm, abs_lt.mpr ⟨not_le.mp hlow, not_le.mp hhigh⟩⟩

/-- What rounding gives is a double. -/
theorem isDouble_of_round (h : Arithmetic.round q = .finite x) : IsDouble x := by
  obtain ⟨rfl, hlt⟩ := of_overflow_eq h
  show overflow (format.round (format.round q)) = _
  rw [Format.round_round, overflow_of_abs_lt hlt]

theorem IsDouble.representable (h : IsDouble x) : format.Representable x := by
  obtain ⟨hx, -⟩ := of_overflow_eq (show overflow (format.round x) = .finite x from h)
  rw [hx]
  exact format.representable_round x

/-- Whole numbers up to `2 ^ 53` are doubles. -/
theorem isDouble_natCast {n : ℕ} (h : n ≤ 2 ^ 53) : IsDouble n := by
  have hround : format.round n = n := by
    have habs : |(n : ℤ)| ≤ (format.radix : ℤ) ^ format.precision := by
      rw [abs_of_nonneg (by positivity)]
      show (n : ℤ) ≤ 2 ^ 53
      exact_mod_cast h
    exact_mod_cast format.round_intCast (by decide) habs
  have hlimit : |(n : ℚ)| < limit := by
    have hn : (n : ℚ) ≤ 2 ^ 53 := by exact_mod_cast h
    rw [abs_of_nonneg (by positivity)]
    refine hn.trans_lt ?_
    unfold limit
    exact pow_lt_pow_right₀ (by norm_num) (by decide)
  show overflow (format.round n) = _
  rw [hround, overflow_of_abs_lt hlimit]

theorem isDouble_zero : IsDouble 0 := by exact_mod_cast isDouble_natCast (Nat.zero_le _)

theorem isDouble_one : IsDouble 1 := by exact_mod_cast isDouble_natCast (n := 1) (by norm_num)

theorem ofNat_eq_of_le {n : ℕ} (h : n ≤ 2 ^ 53) : F64.ofNat n = .finite n := isDouble_natCast h

/-- Rounding does not pass a double. -/
theorem le_round (ha : IsDouble a) (h : a ≤ q) :
    (F64.finite a).le (Arithmetic.round q) = true :=
  ha ▸ Arithmetic.round_mono h

/-- A double above a number is above what the number is rounded to. -/
theorem round_le (hb : IsDouble b) (h : q ≤ b) :
    (Arithmetic.round q).le (F64.finite b) = true :=
  hb ▸ Arithmetic.round_mono h

/-- A whole number is rounded to one. -/
theorem exists_ofNat_eq {n : ℕ} (h : F64.ofNat n = .finite x) : ∃ z : ℤ, x = z := by
  obtain ⟨rfl, -⟩ := of_overflow_eq (show overflow (format.round n) = .finite x from h)
  exact_mod_cast format.exists_round_intCast n

/-- The part of a second is lost when the seconds take up all digits. -/
theorem round_add_of_lt_one (hx : IsDouble x) (hlarge : 2 ^ 53 ≤ x) (hq : 0 ≤ q) (hone : q < 1) :
    Arithmetic.round (x + q) = .finite x := by
  have hround := format.round_add_of_lt_one (by decide) hx.representable hlarge hq hone
  obtain ⟨hx', hlt⟩ := of_overflow_eq (show overflow (format.round x) = .finite x from hx)
  show overflow (format.round (x + q)) = _
  rw [hround, overflow_of_abs_lt (hx' ▸ hlt)]

end

/-! ### Durations -/

section
open RateLimit

/-- The double of a part of a second. -/
theorem exists_fraction_eq {nanos : ℕ} (h : nanos < 10 ^ 9) :
    ∃ q, (F64.ofNat nanos).div (.finite (10 ^ 9)) = .finite q ∧ 0 ≤ q ∧ q < 1 := by
  have hbound : IsDouble ((2 ^ 30 - 1) / 2 ^ 30) := by decide +kernel
  have hnanos : (nanos : ℚ) ≤ 10 ^ 9 - 1 := by
    have hnat : nanos + 1 ≤ 10 ^ 9 := h
    have hcast : (nanos : ℚ) + 1 ≤ 10 ^ 9 := by exact_mod_cast hnat
    linarith
  have hquot : (nanos : ℚ) / 10 ^ 9 ≤ (2 ^ 30 - 1) / 2 ^ 30 := by
    rw [div_le_iff₀ (by norm_num)]
    refine hnanos.trans ?_
    norm_num
  rw [ofNat_eq_of_le (by omega), F64.div, if_neg (by norm_num)]
  obtain ⟨q, hq, hlow, hhigh⟩ := F64.exists_finite
    (le_round isDouble_zero (by positivity : (0 : ℚ) ≤ nanos / 10 ^ 9)) (round_le hbound hquot)
  exact ⟨q, hq, hlow, hhigh.trans_lt (by norm_num)⟩

/-- A `u64` becomes a whole number that is a double. -/
theorem ofNat_cases (n : ℕ) :
    F64.ofNat n = .posInf ∨ ∃ x, F64.ofNat n = .finite x ∧ IsDouble x ∧ 0 ≤ x := by
  have hlow : (F64.finite 0).le (F64.ofNat n) = true := le_round isDouble_zero (by positivity)
  cases hn : F64.ofNat n with
  | posInf => exact Or.inl rfl
  | finite x =>
    rw [hn] at hlow
    exact Or.inr ⟨x, rfl, isDouble_of_round hn, by simpa using hlow⟩
  | nan => simp [hn, F64.le] at hlow
  | negInf => simp [hn, F64.le] at hlow

theorem ofNat_le_add (n : ℕ) {q : ℚ} (hq : 0 ≤ q) :
    (F64.ofNat n).le ((F64.ofNat n).add (.finite q)) = true := by
  rcases ofNat_cases n with hn | ⟨x, hn, hx, -⟩
  · rw [hn]
    rfl
  · rw [hn]
    exact le_round hx (by linarith)

/-- A longer duration has no smaller double. -/
theorem asSecsF64_mono {m n : ℕ} (h : m ≤ n) : (asSecsF64 m).le (asSecsF64 n) = true := by
  have hm : m % 10 ^ 9 < 10 ^ 9 := Nat.mod_lt _ (by norm_num)
  have hn : n % 10 ^ 9 < 10 ^ 9 := Nat.mod_lt _ (by norm_num)
  obtain ⟨p, hp, hp₀, hp₁⟩ := exists_fraction_eq hm
  obtain ⟨q, hq, hq₀, -⟩ := exists_fraction_eq hn
  unfold asSecsF64
  rcases (Nat.div_le_div_right (c := 10 ^ 9) h).eq_or_lt with heq | hlt
  · -- the same second
    have hmod : m % 10 ^ 9 ≤ n % 10 ^ 9 := by omega
    have hfraction := F64.div_le_div_right (d := 10 ^ 9) (by norm_num) (F64.ofNat_le_ofNat hmod)
    rw [heq]
    rcases ofNat_cases (n / 10 ^ 9) with hsecs | ⟨x, hsecs, -, -⟩
    · rw [hsecs, hp, hq]
      rfl
    · rw [hsecs]
      exact F64.add_le_add_left x hfraction
  · rw [hp, hq]
    refine F64.le_trans (b := F64.ofNat (n / 10 ^ 9)) ?_ (ofNat_le_add _ hq₀)
    rcases lt_or_ge (m / 10 ^ 9) (2 ^ 53) with hsmall | hlarge
    · -- the next second is a double, and is not passed
      have hnext : IsDouble ((m / 10 ^ 9 + 1 : ℕ) : ℚ) := isDouble_natCast hsmall
      refine F64.le_trans (b := .finite ((m / 10 ^ 9 + 1 : ℕ) : ℚ)) ?_ ?_
      · rw [ofNat_eq_of_le hsmall.le]
        exact round_le hnext (by push_cast; linarith)
      · exact hnext ▸ F64.ofNat_le_ofNat hlt
    · have hdropped : (F64.ofNat (m / 10 ^ 9)).add (.finite p) = F64.ofNat (m / 10 ^ 9) := by
        rcases ofNat_cases (m / 10 ^ 9) with hsecs | ⟨x, hsecs, hx, -⟩
        · rw [hsecs]
          rfl
        · have hge : (2 ^ 53 : ℚ) ≤ x := by
            have hle := F64.ofNat_le_ofNat hlarge
            rw [hsecs, ofNat_eq_of_le (le_refl _), F64.le_finite, decide_eq_true_eq] at hle
            exact_mod_cast hle
          rw [hsecs]
          exact round_add_of_lt_one hx hge hp₀ hp₁
      rw [hdropped]
      exact F64.ofNat_le_ofNat hlt.le

theorem asSecsF64_zero : asSecsF64 0 = .finite 0 := by decide +kernel

/-- `Duration::as_secs_f64` is never negative. -/
theorem asSecsF64_nonneg (n : ℕ) : (F64.finite 0).le (asSecsF64 n) = true :=
  asSecsF64_zero ▸ asSecsF64_mono (Nat.zero_le n)

end

end Binary64
end OpenApiGateway
