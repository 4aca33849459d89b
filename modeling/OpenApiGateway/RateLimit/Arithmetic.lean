import Mathlib.Algebra.Order.Field.Rat
import Mathlib.Data.Rat.Floor
import OpenApiGateway.Config.Types
import OpenApiGateway.Lib.Rounding

/-!
# Arithmetic of the rate limiter

The operations on doubles that the token buckets use, in Rust and in Redis's Lua. What becomes
of the exact result of an operation is a parameter, `Arithmetic`: the doubles of both languages
round it (`Binary64`), and a statement about exact rational arithmetic takes it as it is
(`ExactArithmetic`). Infinities and NaN are as IEEE 754 has them, and there is one zero. The
casts to unsigned integers saturate, as Rust's do.
-/

namespace OpenApiGateway

/-- The result of an operation on finite numbers, and the number that comes back from Redis
when a Lua number is stored as text. -/
class Arithmetic where
  round : ℚ → F64
  stored : F64 → F64
  round_mono : ∀ {a b : ℚ}, a ≤ b → (round a).le (round b) = true

namespace ExactArithmetic

/-- Exact rational arithmetic: nothing is rounded, and no digit is lost in Redis. -/
scoped instance exact : Arithmetic where
  round := .finite
  stored := id
  round_mono h := by simpa [F64.le] using h

@[simp] theorem round_eq (q : ℚ) : Arithmetic.round q = .finite q := rfl

@[simp] theorem stored_eq (x : F64) : Arithmetic.stored x = x := rfl

end ExactArithmetic

namespace Binary64

open Lib.Rounding

/-- The doubles, but for their greatest exponent. -/
def format : Format := ⟨2, 53, -1074, by decide, by decide⟩

/-- The numbers `%.14g` can write, in the range of the doubles. -/
def textFormat : Format := ⟨10, 14, -337, by decide, by decide⟩

/-- The least number past the greatest double. -/
def limit : ℚ := 2 ^ 1024

theorem limit_pos : 0 < limit := by
  unfold limit
  positivity

/-- A number past the greatest double becomes an infinity. -/
def overflow (q : ℚ) : F64 :=
  if limit ≤ q then .posInf else if q ≤ -limit then .negInf else .finite q

/-- Overflow keeps the order, which rounding needs. -/
theorem overflow_mono {a b : ℚ} (h : a ≤ b) : (overflow a).le (overflow b) = true := by
  have hlimit := limit_pos
  unfold overflow
  split_ifs <;> simp only [F64.le, decide_eq_true_eq] <;> linarith

/-- `tonumber(tostring(x))`. -/
def throughText : F64 → F64
  | .finite q => overflow (format.round (textFormat.round q))
  | x => x

/-- IEEE 754 doubles, rounded to nearest and ties to even, and Lua's `tostring`, which keeps
fourteen digits. -/
scoped instance doubles : Arithmetic where
  round q := overflow (format.round q)
  stored := throughText
  round_mono h := overflow_mono (format.round_mono h)

end Binary64

namespace F64

section Operations
variable [Arithmetic]

/-- `n as f64`. -/
def ofNat (n : ℕ) : F64 := Arithmetic.round n

def neg : F64 → F64
  | nan => nan
  | negInf => posInf
  | finite q => finite (-q)
  | posInf => negInf

/-- Sums of infinities of one sign are that infinity; of both signs they are NaN. -/
def add : F64 → F64 → F64
  | nan, _ => nan
  | _, nan => nan
  | finite a, finite b => Arithmetic.round (a + b)
  | finite _, b => b
  | a, finite _ => a
  | negInf, negInf => negInf
  | posInf, posInf => posInf
  | negInf, posInf => nan
  | posInf, negInf => nan

/-- A difference is the sum with the negated number. -/
def sub (a b : F64) : F64 := a.add b.neg

/-- The product of an infinity with a number of the given sign. -/
def infTimes (positive : Bool) (q : ℚ) : F64 :=
  if q = 0 then nan else if (decide (0 < q)) = positive then posInf else negInf

/-- Zero times an infinity is NaN. -/
def mul : F64 → F64 → F64
  | nan, _ => nan
  | _, nan => nan
  | finite a, finite b => Arithmetic.round (a * b)
  | finite a, posInf => infTimes true a
  | finite a, negInf => infTimes false a
  | posInf, finite b => infTimes true b
  | negInf, finite b => infTimes false b
  | posInf, posInf => posInf
  | negInf, negInf => posInf
  | posInf, negInf => negInf
  | negInf, posInf => negInf

/-- Division by zero gives an infinity, and NaN for zero divided by zero. -/
def div : F64 → F64 → F64
  | nan, _ => nan
  | _, nan => nan
  | finite a, finite b => if b = 0 then infTimes true a else Arithmetic.round (a / b)
  | finite _, _ => finite 0
  | posInf, finite b => if b < 0 then negInf else posInf
  | negInf, finite b => if b < 0 then posInf else negInf
  | _, _ => nan

end Operations

/-- Rust's `a.min(b)`: the other one when one of them is NaN. -/
def min : F64 → F64 → F64
  | nan, b => b
  | a, nan => a
  | a, b => if b.lt a then b else a

/-- Lua's `math.min(a, b)`: `b` only when it is less, which NaN never is. -/
def luaMin (a b : F64) : F64 := if b.lt a then b else a

/-- Whole numbers and infinities stay as they are. -/
def floor : F64 → F64
  | finite q => finite ⌊q⌋
  | x => x

def ceil : F64 → F64
  | finite q => finite ⌈q⌉
  | x => x

/-- The largest `u64`. -/
def u64Max : ℕ := 2 ^ 64 - 1

/-- `x as u64`: towards zero, saturating, and zero for NaN. -/
def toU64 : F64 → ℕ
  | nan => 0
  | negInf => 0
  | finite q => Nat.min ⌊q⌋.toNat u64Max
  | posInf => u64Max

/-! ## On finite numbers -/

section Finite
open scoped ExactArithmetic
variable (a b : ℚ)

@[simp] theorem ofNat_eq (n : ℕ) : ofNat n = finite n := rfl

@[simp] theorem add_finite : (finite a).add (finite b) = finite (a + b) := rfl

@[simp] theorem mul_finite : (finite a).mul (finite b) = finite (a * b) := rfl

@[simp] theorem sub_finite : (finite a).sub (finite b) = finite (a - b) := by
  rw [sub_eq_add_neg]
  rfl

@[simp] theorem lt_finite : (finite a).lt (finite b) = decide (a < b) := rfl

@[simp] theorem le_finite : (finite a).le (finite b) = decide (a ≤ b) := rfl

@[simp] theorem floor_finite : (finite a).floor = finite ⌊a⌋ := rfl

@[simp] theorem ceil_finite : (finite a).ceil = finite ⌈a⌉ := rfl

theorem div_finite {b : ℚ} (hb : b ≠ 0) : (finite a).div (finite b) = finite (a / b) := by
  rw [div, if_neg hb]
  rfl

/-- Both minima are the minimum on finite numbers. -/
theorem luaMin_finite : luaMin (finite a) (finite b) = finite (Min.min a b) := by
  rw [luaMin, lt_finite]
  by_cases h : b < a
  · rw [if_pos (by simpa using h), min_eq_right h.le]
  · rw [if_neg (by simpa using h), min_eq_left (not_lt.mp h)]

theorem min_finite : min (finite a) (finite b) = finite (Min.min a b) :=
  luaMin_finite a b

/-- A whole number below `2 ^ 64` is cast to itself. -/
theorem toU64_finite_natCast (n : ℕ) : toU64 (finite n) = Nat.min n u64Max := by
  rw [toU64, Int.floor_natCast, Int.toNat_natCast]

end Finite

end F64

/-! ## Numbers as text -/

/-- A mantissa: the first digit, then the others after a point, trailing zeros dropped. -/
def mantissaText (mantissa : ℕ) : List Char :=
  let digits := ((Nat.toDigits 10 mantissa).reverse.dropWhile (· = '0')).reverse
  let fraction := digits.tail
  digits.take 1 ++ if fraction = [] then [] else '.' :: fraction

/-- A number of at least fifteen digits with fourteen of them, rounded half to even, and its
exponent. -/
def formatScientific (n : ℕ) : String :=
  let exponent := (Nat.toDigits 10 n).length - 1
  let unit := 10 ^ (exponent - 13)
  let kept := n / unit
  let up := unit < 2 * (n % unit) ∨ unit = 2 * (n % unit) ∧ kept % 2 = 1
  let mantissa := if up then kept + 1 else kept
  let exponent := if mantissa = 10 ^ 14 then exponent + 1 else exponent
  String.ofList (mantissaText mantissa) ++ "e+" ++ toString exponent

/-- `%.14g` of a whole number. -/
def formatWhole (z : ℤ) : String :=
  let digits := if z.natAbs < 10 ^ 14 then toString z.natAbs else formatScientific z.natAbs
  if z < 0 then "-" ++ digits else digits

/-- The text Lua gives a number that is concatenated to a string, `%.14g`. Here the numbers
come from `math.floor` and `math.ceil` and are whole where they are finite. -/
def formatG14 : F64 → String
  | .nan => "nan"
  | .negInf => "-inf"
  | .finite q => formatWhole ⌊q⌋
  | .posInf => "inf"

example : formatWhole 180 = "180" := by decide +kernel

example : formatWhole 123456789012345678 = "1.2345678901235e+17" := by decide +kernel

example : formatWhole (10 ^ 33) = "1e+33" := by decide +kernel

end OpenApiGateway
