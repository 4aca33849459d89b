import Mathlib.Algebra.Order.Field.Rat
import Mathlib.Data.Int.Log
import Mathlib.Data.Rat.Floor
import Mathlib.Tactic.FieldSimp
import Mathlib.Tactic.Linarith
import Mathlib.Tactic.Ring

/-!
# Rounding to a floating-point format

A format has a radix, a number of digits and a least exponent; rounding takes a rational
number to the nearest multiple of the unit in its last place, the even one of two. There is no
greatest exponent here: overflow is left to the user of a format.

Rounding keeps the order (`Format.round_mono`) and the numbers of the format
(`Format.Representable.round_eq`), and what it gives is one of them
(`Format.representable_round`).
-/

namespace Lib.Rounding

/-! ## To a whole number -/

/-- The nearest whole number, and the even one of two that are equally near. -/
def roundEven (q : ℚ) : ℤ :=
  if q - ⌊q⌋ < 1 / 2 then ⌊q⌋
  else if 1 / 2 < q - ⌊q⌋ then ⌊q⌋ + 1
  else if Even ⌊q⌋ then ⌊q⌋ else ⌊q⌋ + 1

/-- Rounding goes to one of the two neighbours. -/
theorem floor_le_roundEven (q : ℚ) : ⌊q⌋ ≤ roundEven q := by
  unfold roundEven
  split_ifs <;> omega

theorem roundEven_le_floor_add_one (q : ℚ) : roundEven q ≤ ⌊q⌋ + 1 := by
  unfold roundEven
  split_ifs <;> omega

/-- Whole numbers stay as they are. -/
@[simp] theorem roundEven_intCast (z : ℤ) : roundEven z = z := by
  rw [roundEven, Int.floor_intCast, sub_self, if_pos (by norm_num)]

/-- Less than half is dropped. -/
theorem roundEven_add_of_lt (z : ℤ) {q : ℚ} (h₀ : 0 ≤ q) (h : q < 1 / 2) :
    roundEven (z + q) = z := by
  have hfloor : ⌊(z : ℚ) + q⌋ = z := by
    rw [Int.floor_eq_iff]
    constructor <;> linarith
  rw [roundEven, hfloor, add_sub_cancel_left, if_pos h]

/-- Rounding to even keeps the order. -/
theorem roundEven_mono {a b : ℚ} (h : a ≤ b) : roundEven a ≤ roundEven b := by
  rcases (Int.floor_le_floor h).lt_or_eq with hlt | heq
  · have ha := roundEven_le_floor_add_one a
    have hb := floor_le_roundEven b
    omega
  · unfold roundEven
    rw [← heq]
    split_ifs <;> first | omega | (exfalso; linarith)

/-- Ties go to even numbers on both sides of zero, so that rounding is odd. -/
theorem roundEven_neg (q : ℚ) : roundEven (-q) = -roundEven q := by
  by_cases hint : (⌊q⌋ : ℚ) = q
  · rw [← hint, ← Int.cast_neg, roundEven_intCast, roundEven_intCast]
  · have hlt : (⌊q⌋ : ℚ) < q := lt_of_le_of_ne (Int.floor_le q) hint
    have hup := Int.lt_floor_add_one q
    have hfloor : ⌊-q⌋ = -⌊q⌋ - 1 := by
      rw [Int.floor_eq_iff]
      push_cast
      constructor <;> linarith
    have hparity : Even (-⌊q⌋ - 1) ↔ ¬ Even ⌊q⌋ := by
      rw [Int.even_sub_one, even_neg]
    unfold roundEven
    simp only [hfloor, hparity]
    push_cast
    split_ifs <;> first | omega | (exfalso; linarith)

/-! ## To a format -/

/-- A radix, a number of digits and the exponent of the least positive number. -/
structure Format where
  radix : ℕ
  precision : ℕ
  minExponent : ℤ
  one_lt_radix : 1 < radix
  precision_pos : 0 < precision

namespace Format
variable (f : Format) {q x y : ℚ}

/-- The exponent of the unit in the last place. -/
def unitExponent (q : ℚ) : ℤ := max (Int.log f.radix |q| + 1 - f.precision) f.minExponent

/-- The distance of neighbouring numbers near `q`. -/
def unit (q : ℚ) : ℚ := (f.radix : ℚ) ^ f.unitExponent q

/-- The nearest number with as many digits as the format has. -/
def round (q : ℚ) : ℚ := roundEven (q / f.unit q) * f.unit q

theorem radix_pos : (0 : ℚ) < f.radix := by
  have := f.one_lt_radix
  exact_mod_cast (by omega : 0 < f.radix)

theorem one_lt_radix_cast : (1 : ℚ) < f.radix := by
  exact_mod_cast f.one_lt_radix

theorem power_pos (e : ℤ) : (0 : ℚ) < (f.radix : ℚ) ^ e := zpow_pos f.radix_pos e

/-- The distance is positive. -/
theorem unit_pos (q : ℚ) : 0 < f.unit q := f.power_pos _

theorem minExponent_le_unitExponent (q : ℚ) : f.minExponent ≤ f.unitExponent q := le_max_right _ _

/-- A power divides every greater one. -/
theorem exists_power_eq {d e : ℤ} (h : d ≤ e) :
    ∃ n : ℤ, (f.radix : ℚ) ^ e = n * (f.radix : ℚ) ^ d := by
  refine ⟨(f.radix : ℤ) ^ (e - d).toNat, ?_⟩
  rw [Int.cast_pow, Int.cast_natCast, ← zpow_natCast, ← zpow_add₀ f.radix_pos.ne']
  congr 1
  omega

/-- The exponent bounds the number. -/
theorem lt_power_of_log_lt {e : ℤ} (hq : q ≠ 0) (h : Int.log f.radix |q| < e) :
    |q| < (f.radix : ℚ) ^ e :=
  (Int.lt_zpow_iff_log_lt f.one_lt_radix (abs_pos.mpr hq)).mpr h

@[simp] theorem round_zero : f.round 0 = 0 := by
  have h : roundEven 0 = 0 := by exact_mod_cast roundEven_intCast 0
  rw [round, zero_div, h, Int.cast_zero, zero_mul]

theorem unit_neg (q : ℚ) : f.unit (-q) = f.unit q := by
  rw [unit, unitExponent, abs_neg]
  rfl

/-- Rounding is odd, as rounding to even is. -/
theorem round_neg (q : ℚ) : f.round (-q) = -f.round q := by
  rw [round, round, unit_neg, neg_div, roundEven_neg, Int.cast_neg, neg_mul]

/-- Rounding does not pass a multiple of the unit. -/
theorem round_le_of_le_multiple {n : ℤ} (h : q ≤ n * f.unit q) : f.round q ≤ n * f.unit q := by
  have hunit := f.unit_pos q
  have hquot : q / f.unit q ≤ n := (div_le_iff₀ hunit).mpr h
  have hround : roundEven (q / f.unit q) ≤ n := by
    simpa using roundEven_mono hquot
  rw [round]
  exact mul_le_mul_of_nonneg_right (by exact_mod_cast hround) hunit.le

/-- A multiple of the unit below a number is below what it is rounded to. -/
theorem le_round_of_multiple_le {n : ℤ} (h : n * f.unit q ≤ q) : n * f.unit q ≤ f.round q := by
  have hunit := f.unit_pos q
  have hquot : n ≤ q / f.unit q := (le_div_iff₀ hunit).mpr h
  have hround : n ≤ roundEven (q / f.unit q) := by
    simpa using roundEven_mono hquot
  rw [round]
  exact mul_le_mul_of_nonneg_right (by exact_mod_cast hround) hunit.le

/-- A multiple of its own unit is kept. -/
theorem round_eq_of_multiple {n : ℤ} (h : q = n * f.unit q) : f.round q = q :=
  le_antisymm ((f.round_le_of_le_multiple h.le).trans h.ge)
    (h.le.trans (f.le_round_of_multiple_le h.ge))

/-! ## The order -/

/-- Larger numbers have larger units. -/
theorem unitExponent_mono (hx : 0 < x) (h : x ≤ y) : f.unitExponent x ≤ f.unitExponent y := by
  have hlog : Int.log f.radix |x| ≤ Int.log f.radix |y| := by
    rw [abs_of_pos hx, abs_of_pos (hx.trans_le h)]
    exact Int.log_mono_right hx h
  unfold unitExponent
  omega

/-- Positive numbers keep their order: two with the same unit because the nearest whole number
does, and otherwise a power of the radix lies between them that both units divide. -/
theorem round_mono_of_pos (hx : 0 < x) (h : x ≤ y) : f.round x ≤ f.round y := by
  have hy := hx.trans_le h
  rcases (f.unitExponent_mono hx h).eq_or_lt with heq | hlt
  · have hunit : f.unit x = f.unit y := by rw [unit, heq, unit]
    rw [round, round, hunit]
    refine mul_le_mul_of_nonneg_right ?_ (f.unit_pos y).le
    exact_mod_cast roundEven_mono (div_le_div_of_nonneg_right h (f.unit_pos y).le)
  · have hmin := f.minExponent_le_unitExponent x
    have hprecision := f.precision_pos
    have hexponent : f.unitExponent y = Int.log f.radix |y| + 1 - f.precision := by
      unfold unitExponent at hlt hmin ⊢
      omega
    have hlog : Int.log f.radix |x| < Int.log f.radix |y| := by
      unfold unitExponent at hlt
      omega
    obtain ⟨m, hm⟩ := f.exists_power_eq (show f.unitExponent x ≤ Int.log f.radix |y| by omega)
    obtain ⟨n, hn⟩ := f.exists_power_eq (show f.unitExponent y ≤ Int.log f.radix |y| by omega)
    have hxp := f.lt_power_of_log_lt hx.ne' hlog
    have hyp : (f.radix : ℚ) ^ Int.log f.radix |y| ≤ |y| :=
      Int.zpow_log_le_self f.one_lt_radix (abs_pos.mpr hy.ne')
    rw [abs_of_pos hx] at hxp
    rw [abs_of_pos hy] at hyp hm hn hxp
    calc f.round x ≤ m * f.unit x := f.round_le_of_le_multiple (hm ▸ hxp.le)
      _ = n * f.unit y := hm.symm.trans hn
      _ ≤ f.round y := f.le_round_of_multiple_le (hn ▸ hyp)

theorem round_nonneg (h : 0 ≤ q) : 0 ≤ f.round q := by
  have := f.le_round_of_multiple_le (q := q) (n := 0) (by simpa using h)
  simpa using this

/-- Rounding keeps the order, across the powers at which the unit changes too. -/
theorem round_mono (h : x ≤ y) : f.round x ≤ f.round y := by
  rcases lt_trichotomy 0 x with hx | rfl | hx
  · exact f.round_mono_of_pos hx h
  · rw [round_zero]
    exact f.round_nonneg h
  · rcases lt_or_ge y 0 with hy | hy
    · have hneg := f.round_mono_of_pos (neg_pos.mpr hy) (neg_le_neg h)
      rw [round_neg, round_neg] at hneg
      exact neg_le_neg_iff.mp hneg
    · have hneg := f.round_nonneg (neg_nonneg.mpr hx.le)
      rw [round_neg] at hneg
      exact (neg_nonneg.mp hneg).trans (f.round_nonneg hy)

/-! ## The numbers of a format -/

/-- A number of the format: no more digits than it has, above its least exponent. -/
def Representable (q : ℚ) : Prop :=
  ∃ n e : ℤ, |n| ≤ (f.radix : ℤ) ^ f.precision ∧ f.minExponent ≤ e ∧ q = n * (f.radix : ℚ) ^ e

variable {f}

/-- A number of the format is a multiple of its unit, also where it is a power of the radix that
a number with one digit less reaches. -/
theorem Representable.exists_multiple (h : f.Representable q) : ∃ n : ℤ, q = n * f.unit q := by
  obtain ⟨n, e, hn, he, hq⟩ := h
  by_cases hzero : q = 0
  · exact ⟨0, by simp [hzero]⟩
  have habs : |q| = |(n : ℚ)| * (f.radix : ℚ) ^ e := by
    rw [hq, abs_mul, abs_of_pos (f.power_pos e)]
  have hle : |q| ≤ (f.radix : ℚ) ^ (f.precision + e) := by
    have hcast : |(n : ℚ)| ≤ (f.radix : ℚ) ^ f.precision := by exact_mod_cast hn
    rw [habs, zpow_add₀ f.radix_pos.ne', zpow_natCast]
    exact mul_le_mul_of_nonneg_right hcast (f.power_pos e).le
  rcases hle.lt_or_eq with hlt | heq
  · have hlog := (Int.lt_zpow_iff_log_lt f.one_lt_radix (abs_pos.mpr hzero)).mp hlt
    have hexponent : f.unitExponent q ≤ e := by
      unfold unitExponent
      omega
    obtain ⟨m, hm⟩ := f.exists_power_eq hexponent
    refine ⟨n * m, ?_⟩
    rw [Int.cast_mul, mul_assoc, unit, ← hm, ← hq]
  · have hlog : Int.log f.radix |q| = f.precision + e := by
      rw [heq, Int.log_zpow f.one_lt_radix]
    have hprecision := f.precision_pos
    have hexponent : f.unitExponent q ≤ f.precision + e := by
      unfold unitExponent
      omega
    obtain ⟨m, hm⟩ := f.exists_power_eq hexponent
    rw [← heq] at hm
    rcases abs_choice q with hsign | hsign
    · exact ⟨m, hsign.symm.trans hm⟩
    · refine ⟨-m, ?_⟩
      rw [Int.cast_neg, neg_mul, unit, ← hm, hsign, neg_neg]

/-- Rounding keeps the numbers of the format. -/
theorem Representable.round_eq (h : f.Representable q) : f.round q = q := by
  obtain ⟨n, hn⟩ := h.exists_multiple
  exact f.round_eq_of_multiple hn

variable (f)

/-- Whole numbers of no more digits than the format has are numbers of it. -/
theorem representable_of_abs_le {z : ℤ} (hexponent : f.minExponent ≤ 0)
    (h : |z| ≤ (f.radix : ℤ) ^ f.precision) : f.Representable z :=
  ⟨z, 0, h, hexponent, by simp⟩

theorem abs_le_radix_mul_unit (q : ℚ) : |q| ≤ (f.radix : ℚ) ^ f.precision * f.unit q := by
  by_cases hzero : q = 0
  · rw [hzero, abs_zero]
    have := f.radix_pos
    have := f.unit_pos 0
    positivity
  · have hlt := f.lt_power_of_log_lt hzero (lt_add_one _)
    have hexponent : Int.log f.radix |q| + 1 ≤ f.precision + f.unitExponent q := by
      unfold unitExponent
      omega
    calc |q| ≤ (f.radix : ℚ) ^ (Int.log f.radix |q| + 1) := hlt.le
      _ ≤ (f.radix : ℚ) ^ (f.precision + f.unitExponent q) :=
        zpow_le_zpow_right₀ f.one_lt_radix_cast.le hexponent
      _ = (f.radix : ℚ) ^ f.precision * f.unit q := by
        rw [zpow_add₀ f.radix_pos.ne', zpow_natCast, unit]

/-- What rounding gives is a number of the format. -/
theorem representable_round (q : ℚ) : f.Representable (f.round q) := by
  refine ⟨roundEven (q / f.unit q), f.unitExponent q, ?_, f.minExponent_le_unitExponent q, rfl⟩
  have hunit := f.unit_pos q
  have habs := f.abs_le_radix_mul_unit q
  obtain ⟨hlow, hhigh⟩ := abs_le.mp habs
  have hup := roundEven_mono ((div_le_iff₀ hunit).mpr hhigh)
  have hdown : roundEven (-((f.radix : ℚ) ^ f.precision)) ≤ roundEven (q / f.unit q) :=
    roundEven_mono ((le_div_iff₀ hunit).mpr (by linarith))
  have hcast : ((f.radix : ℚ) ^ f.precision) = (((f.radix : ℤ) ^ f.precision : ℤ) : ℚ) := by
    push_cast
    rfl
  rw [roundEven_neg, hcast, roundEven_intCast] at hdown
  rw [hcast, roundEven_intCast] at hup
  exact abs_le.mpr ⟨hdown, hup⟩

/-- Rounding twice is rounding once. -/
@[simp] theorem round_round (q : ℚ) : f.round (f.round q) = f.round q :=
  (f.representable_round q).round_eq

/-! ## Whole numbers -/

/-- Whole numbers of no more digits than the format has are kept. -/
theorem round_intCast {z : ℤ} (hexponent : f.minExponent ≤ 0)
    (h : |z| ≤ (f.radix : ℤ) ^ f.precision) : f.round z = z :=
  (f.representable_of_abs_le hexponent h).round_eq

/-- A whole number is rounded to one. -/
theorem exists_round_intCast (z : ℤ) : ∃ n : ℤ, f.round z = n := by
  rcases le_total (f.unitExponent z) 0 with h | h
  · obtain ⟨m, hm⟩ := f.exists_power_eq h
    refine ⟨z, f.round_eq_of_multiple (n := z * m) ?_⟩
    rw [Int.cast_mul, mul_assoc, unit, ← hm, zpow_zero, mul_one]
  · obtain ⟨m, hm⟩ := f.exists_power_eq h
    exact ⟨roundEven (z / f.unit z) * m, by
      rw [round, Int.cast_mul]
      congr 1
      rw [unit, hm, zpow_zero, mul_one]⟩

/-- Less than a unit does not carry a number of the format to the next power. -/
theorem add_lt_power (hx : f.Representable x) (hpos : 0 < x) (hless : q < f.unit x)
    (hexponent : f.unitExponent x ≤ Int.log f.radix |x| + 1) :
    x + q < (f.radix : ℚ) ^ (Int.log f.radix |x| + 1) := by
  obtain ⟨n, hn⟩ := hx.exists_multiple
  obtain ⟨m, hm⟩ := f.exists_power_eq hexponent
  have hlt : x < (f.radix : ℚ) ^ (Int.log f.radix |x| + 1) := by
    have habs := f.lt_power_of_log_lt hpos.ne' (lt_add_one _)
    rwa [abs_of_pos hpos] at habs ⊢
  -- both are multiples of the unit
  have hnm : n < m := by
    have hmul : (n : ℚ) * f.unit x < m * f.unit x := by rw [← hn]; exact hlt.trans_eq hm
    exact_mod_cast lt_of_mul_lt_mul_right hmul (f.unit_pos x).le
  have hstep : ((n : ℚ) + 1) * f.unit x ≤ m * f.unit x :=
    mul_le_mul_of_nonneg_right (by exact_mod_cast hnm) (f.unit_pos x).le
  calc x + q < n * f.unit x + f.unit x := by rw [← hn]; linarith
    _ = ((n : ℚ) + 1) * f.unit x := by ring
    _ ≤ (f.radix : ℚ) ^ (Int.log f.radix |x| + 1) := hstep.trans_eq hm.symm

/-- So the unit stays the same. -/
theorem unit_add_eq (hx : f.Representable x) (hpos : 0 < x) (hq : 0 ≤ q) (hless : q < f.unit x)
    (hexponent : f.unitExponent x ≤ Int.log f.radix |x| + 1) : f.unit (x + q) = f.unit x := by
  have hsum := f.add_lt_power hx hpos hless hexponent
  have hlog : Int.log f.radix |x + q| = Int.log f.radix |x| := by
    rw [abs_of_pos (by linarith : 0 < x + q)]
    rw [abs_of_pos hpos] at hsum ⊢
    refine le_antisymm ?_ (Int.log_mono_right hpos (by linarith))
    have := (Int.lt_zpow_iff_log_lt f.one_lt_radix (by linarith : 0 < x + q)).mp hsum
    omega
  rw [unit, unit, unitExponent, hlog]
  rfl

/-- A fraction added to a whole number that takes up all the digits is lost. -/
theorem round_add_of_lt_one (hexponent : f.minExponent ≤ 0) (hx : f.Representable x)
    (hlarge : (f.radix : ℚ) ^ f.precision ≤ x) (hq : 0 ≤ q) (hone : q < 1) :
    f.round (x + q) = x := by
  have hpos : 0 < x := (by have := f.radix_pos; positivity : (0 : ℚ) < _).trans_le hlarge
  have hlog : (f.precision : ℤ) ≤ Int.log f.radix |x| := by
    rw [abs_of_pos hpos, ← Int.zpow_le_iff_le_log f.one_lt_radix hpos, zpow_natCast]
    exact hlarge
  -- the unit of such a number is the radix at least
  have hexponentx : f.unitExponent x = Int.log f.radix |x| + 1 - f.precision := by
    unfold unitExponent
    omega
  have hradix : (2 : ℚ) ≤ f.radix := by exact_mod_cast f.one_lt_radix
  have hunit : (2 : ℚ) ≤ f.unit x := by
    calc (2 : ℚ) ≤ (f.radix : ℚ) ^ (1 : ℤ) := by rwa [zpow_one]
      _ ≤ f.unit x := zpow_le_zpow_right₀ f.one_lt_radix_cast.le (by omega)
  have hsame := f.unit_add_eq hx hpos hq (by linarith) (by omega)
  obtain ⟨n, hn⟩ := hx.exists_multiple
  have hquot : (x + q) / f.unit x = n + q / f.unit x := by
    nth_rewrite 1 [hn]
    rw [add_div, mul_div_cancel_right₀ _ (f.unit_pos x).ne']
  have hhalf : q / f.unit x < 1 / 2 := by
    rw [div_lt_iff₀ (f.unit_pos x)]
    linarith
  rw [round, hsame, hquot, roundEven_add_of_lt n (div_nonneg hq (f.unit_pos x).le) hhalf, ← hn]

end Format
end Lib.Rounding
