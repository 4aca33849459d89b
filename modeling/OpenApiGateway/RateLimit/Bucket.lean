import OpenApiGateway.Lib.TokenBucket
import OpenApiGateway.RateLimit.Arithmetic
import OpenApiGateway.RateLimit.Types

/-!
# The in-memory bucket

`controlplane/src/ratelimit/bucket.rs`. An `Instant` is a number of nanoseconds, and
`duration_since` gives zero for a clock that went backwards. In exact arithmetic a bucket of
finite numbers is the token bucket of the library: `refill_finite` and `tryConsume_finite` say
what a call does in its terms.
-/

namespace OpenApiGateway
namespace RateLimit

open Lib.TokenBucket

/-- In-memory token bucket for survivability mode fallback. -/
structure LocalBucket where
  tokens : F64
  capacity : F64
  refillRate : F64
  lastRefill : ℕ
deriving DecidableEq

/-- `Duration::as_secs_f64` of a number of nanoseconds: the whole seconds and the rest are made
doubles on their own. -/
def asSecsF64 [Arithmetic] (nanos : ℕ) : F64 :=
  (F64.ofNat (nanos / 10 ^ 9)).add ((F64.ofNat (nanos % 10 ^ 9)).div (.finite (10 ^ 9)))

namespace LocalBucket

section Operations
variable [Arithmetic]

/-- Create a new bucket starting at full capacity. -/
def new (capacity refillRate : F64) (now : ℕ) : LocalBucket :=
  ⟨capacity, capacity, refillRate, now⟩

def refill (bucket : LocalBucket) (now : ℕ) : LocalBucket :=
  let elapsed := asSecsF64 (now - bucket.lastRefill)
  let refilled := bucket.refillRate.mul elapsed
  { bucket with
    tokens := (bucket.tokens.add refilled).min bucket.capacity
    lastRefill := now }

/-- What a call that tries to take a token returns. -/
structure Consumed where
  allowed : Bool
  remaining : ℕ
  retryAfterMs : ℕ
deriving DecidableEq

/-- Attempt to consume one token. -/
def tryConsume (bucket : LocalBucket) (now : ℕ) : Consumed × LocalBucket :=
  let bucket := bucket.refill now
  if (F64.finite 1).le bucket.tokens then
    let left := bucket.tokens.sub (.finite 1)
    (⟨true, left.floor.toU64, 0⟩, { bucket with tokens := left })
  else
    let deficit := (F64.finite 1).sub bucket.tokens
    let retryMs :=
      if (F64.finite 0).lt bucket.refillRate then
        ((deficit.div bucket.refillRate).mul (.finite 1000)).ceil.toU64
      else F64.u64Max
    (⟨false, 0, retryMs⟩, bucket)

end Operations

end LocalBucket

/-- Compute Redis TTL for a bucket: `ceil((capacity / refill_rate) * 2)`. -/
def ttlSeconds [Arithmetic] (capacity : ℕ) (refillRate : F64) : ℕ :=
  if refillRate.le (.finite 0) then 3600
  else (((F64.ofNat capacity).div refillRate).mul (.finite 2)).ceil.toU64

/-! ## In exact arithmetic -/

section Exact
open scoped ExactArithmetic

/-- Seconds between two instants. -/
def secondsSince (earlier now : ℕ) : ℚ := ((now - earlier : ℕ) : ℚ) / 10 ^ 9

theorem secondsSince_nonneg (earlier now : ℕ) : 0 ≤ secondsSince earlier now := by
  unfold secondsSince
  positivity

theorem secondsSince_eq {earlier now : ℕ} (h : earlier ≤ now) :
    secondsSince earlier now = (now : ℚ) / 10 ^ 9 - (earlier : ℚ) / 10 ^ 9 := by
  rw [secondsSince, Nat.cast_sub h]
  ring

theorem secondsSince_add {earlier between now : ℕ} (h : earlier ≤ between) (h' : between ≤ now) :
    secondsSince earlier between + secondsSince between now = secondsSince earlier now := by
  rw [secondsSince_eq h, secondsSince_eq h', secondsSince_eq (h.trans h')]
  ring

theorem asSecsF64_eq (earlier now : ℕ) :
    asSecsF64 (now - earlier) = .finite (secondsSince earlier now) := by
  have hdiv : (((now - earlier) / 10 ^ 9 : ℕ) : ℚ) + ((now - earlier) % 10 ^ 9 : ℕ) / 10 ^ 9 =
      ((now - earlier : ℕ) : ℚ) / 10 ^ 9 := by
    have hnat := Nat.div_add_mod (now - earlier) (10 ^ 9)
    have hcast : (10 ^ 9 : ℚ) * ((now - earlier) / 10 ^ 9 : ℕ) + ((now - earlier) % 10 ^ 9 : ℕ) =
        (now - earlier : ℕ) := by exact_mod_cast hnat
    rw [← hcast]
    field_simp
  rw [asSecsF64, F64.ofNat_eq, F64.ofNat_eq, F64.div_finite _ (by norm_num), F64.add_finite, hdiv,
    secondsSince]

/-- A bucket of finite numbers. -/
def finiteBucket (tokens capacity rate : ℚ) (lastRefill : ℕ) : LocalBucket :=
  ⟨.finite tokens, .finite capacity, .finite rate, lastRefill⟩

variable (tokens capacity rate : ℚ) (lastRefill now : ℕ)

theorem refill_finite :
    (finiteBucket tokens capacity rate lastRefill).refill now =
      finiteBucket (level capacity rate tokens (secondsSince lastRefill now))
        capacity rate now := by
  unfold LocalBucket.refill finiteBucket level
  simp only [asSecsF64_eq, F64.mul_finite, F64.add_finite, F64.min_finite]

/-- A call takes a token from the refilled bucket if there is one; either way the bucket is
brought up to date. -/
theorem tryConsume_finite :
    (finiteBucket tokens capacity rate lastRefill).tryConsume now =
      let refilled := level capacity rate tokens (secondsSince lastRefill now)
      if 1 ≤ refilled then
        (⟨true, (F64.finite (refilled - 1)).floor.toU64, 0⟩,
          finiteBucket (refilled - 1) capacity rate now)
      else
        (⟨false, 0, if 0 < rate then
            ((((F64.finite (1 - refilled)).div (.finite rate)).mul (.finite 1000)).ceil).toU64
          else F64.u64Max⟩,
          finiteBucket refilled capacity rate now) := by
  unfold LocalBucket.tryConsume
  rw [refill_finite]
  simp only [finiteBucket, F64.le_finite, F64.lt_finite, F64.sub_finite, decide_eq_true_eq]

end Exact

end RateLimit
end OpenApiGateway
