import OpenApiGateway.RateLimit.Reply

/-!
# Waiting out a denial of the limiter

A check that is denied, in either mode, and a later check on the same key that the same bucket
decides. The later one is allowed if the bucket has a token then (`allowed_eq_hasToken`), and a
bucket that has one keeps it (`Denial.hasToken_mono`), in the arithmetic of doubles. A denial
tells the milliseconds that the missing part takes, rounded up (`Denial.told`). All clocks are
read at one moment, on one time line in nanoseconds; towards Redis it is cut to milliseconds.
-/

namespace OpenApiGateway
namespace RateLimit

open scoped Binary64
open Binary64 (isDouble_one isDouble_of_round le_round)

/-! ## Moments -/

/-- A call at a moment. -/
def momentCall (moment : ℕ) (invocation : Invocation) : Call :=
  ⟨moment / 10 ^ 6, invocation, moment, moment⟩

namespace System
variable (s : System) (key : String) (capacity : ℕ) (rate : F64) (moment : ℕ)

/-- The tokens that a call at a moment finds in the bucket of a mode. -/
def heldIn : RateLimitMode → F64
  | .redis =>
    refilledTokens (s.redis.hash key) (F64.ofNat (moment / 10 ^ 6)) (F64.ofNat capacity) rate
  | _ => ((s.fallbackBucket key (momentCall moment .replied)).refill moment).tokens

/-- The bucket of a mode has a token at a moment. -/
def hasToken (mode : RateLimitMode) : Bool :=
  (F64.finite 1).le (s.heldIn key capacity rate moment mode)

/-- The milliseconds until the bucket of a mode has a token, before they are rounded up. -/
def waitIn : RateLimitMode → F64
  | .redis => refillMs (s.heldIn key capacity rate moment .redis) rate
  | mode => refillMs (s.heldIn key capacity rate moment mode)
    s.limiter.config.survivabilityMode.fallbackRefillRatePerSec

theorem heldIn_degradedLocal : s.heldIn key capacity rate moment .degradedLocal =
    ((s.fallbackBucket key (momentCall moment .replied)).refill moment).tokens := rfl

end System

section Redis
variable {s : System} {key : String} {capacity : ℕ} {rate : F64} {call : Call}
  {decision : RateDecision}

/-- A decision of Redis is the reply of the script. -/
theorem decision_of_redis (h : (s.check key capacity rate call).1 = .ok decision)
    (hmode : decision.mode = .redis) :
    ∃ resp, LuaResponse.fromStr (s.scriptRun key capacity rate call).reply.text = some resp ∧
      decision =
        ⟨resp.allowed == 1, capacity, resp.remainingTokens, resp.retryAfterMs, .redis⟩ := by
  rcases check_cases s key capacity rate call with
    ⟨-, -, resp, hresp, hcheck⟩ | ⟨-, s', -, -, -, -, hcheck⟩
  · rw [hcheck] at h
    exact ⟨resp, hresp, (Except.ok.inj h).symm⟩
  · rw [hcheck] at h
    exact absurd hmode (enterDegraded_mode h)

/-- A whole number that is read back at all is read back as it was written. -/
theorem toU64_of_readUnsigned {wait : F64} {n : ℕ}
    (hn : readUnsigned 64 (formatG14 wait.ceil).toList = some n) :
    (F64.finite 0).le wait.ceil = true ∧ n = wait.ceil.toU64 := by
  have hread := (isSome_readUnsigned_formatG14_iff _).mp (Option.isSome_iff_exists.mpr ⟨n, hn⟩)
  refine ⟨hread.1, ?_⟩
  cases wait with
  | finite q =>
    rw [F64.ceil_finite, formatG14, Int.floor_intCast] at hn
    obtain ⟨hceil, hsmall⟩ := of_readUnsigned_formatWhole hn
    rw [F64.ceil_finite, hceil, Int.cast_natCast, F64.toU64_finite_natCast]
    have hfits : n ≤ F64.u64Max := by
      rw [F64.u64Max]
      omega
    exact (Nat.min_eq_left hfits).symm
  | nan => simp [F64.ceil, F64.le] at hread
  | negInf => simp [F64.ceil, F64.le] at hread
  | posInf => simp [F64.ceil, F64.lt] at hread

/-- Redis allows a call if there is a token, and otherwise tells the waiting time, if that is a
number at all. -/
theorem redis_decision {moment : ℕ} {invocation : Invocation}
    (h : (s.check key capacity rate (momentCall moment invocation)).1 = .ok decision)
    (hmode : decision.mode = .redis) :
    decision.allowed = s.hasToken key capacity rate moment .redis ∧
      (decision.allowed = false →
        (F64.finite 0).le (s.waitIn key capacity rate moment .redis).ceil = true ∧
        decision.retryAfterMs = (s.waitIn key capacity rate moment .redis).ceil.toU64) := by
  obtain ⟨resp, hresp, rfl⟩ := decision_of_redis h hmode
  have hrun : s.scriptRun key capacity rate (momentCall moment invocation) =
      luaScript (s.redis.hash key) (F64.ofNat (moment / 10 ^ 6)) (F64.ofNat capacity) rate
        (.finite 1) (F64.ofNat (ttlSeconds capacity rate)) := by
    rw [← ofNat_one]
    rfl
  rw [hrun, luaScript_eq, fromStr_text] at hresp
  have htoken : s.hasToken key capacity rate moment .redis =
      (F64.finite 1).le (refilledTokens (s.redis.hash key) (F64.ofNat (moment / 10 ^ 6))
        (F64.ofNat capacity) rate) := rfl
  have hwait : s.waitIn key capacity rate moment .redis =
      refillMs (refilledTokens (s.redis.hash key) (F64.ofNat (moment / 10 ^ 6))
        (F64.ofNat capacity) rate) rate := rfl
  rw [htoken, hwait]
  simp only at hresp
  split at hresp
  · rename_i hheld
    simp only [if_true, Option.map_eq_some_iff] at hresp
    obtain ⟨n, -, rfl⟩ := hresp
    exact ⟨hheld.symm, fun hdenied => absurd hdenied (by simp)⟩
  · rename_i hheld
    simp only [Bool.false_eq_true, if_false, Option.map_eq_some_iff] at hresp
    obtain ⟨n, hn, rfl⟩ := hresp
    exact ⟨(Bool.eq_false_iff.mpr hheld).symm, fun _ => toU64_of_readUnsigned hn⟩

end Redis

/-! ## Calls on the local bucket -/

/-- What validation demands of a route's limits, for the local buckets. -/
def FallbackPositive (config : RateLimitsConfig) : Prop :=
  1 ≤ config.survivabilityMode.fallbackCapacity ∧
    config.survivabilityMode.fallbackCapacity < 2 ^ 64 ∧
    config.survivabilityMode.fallbackRefillRatePerSec.le (.finite 0) = false

instance (config : RateLimitsConfig) : Decidable (FallbackPositive config) :=
  inferInstanceAs (Decidable (_ ∧ _ ∧ _))

theorem FallbackPositive.bounded {config : RateLimitsConfig} (h : FallbackPositive config) :
    Bounded config.survivabilityMode 0 := by
  obtain ⟨-, hfits, hrate⟩ := h
  obtain ⟨capacity, hcapacity, -⟩ := exists_ofNat hfits
  refine bounded_zero ?_ hcapacity
  cases hr : config.survivabilityMode.fallbackRefillRatePerSec with
  | finite r =>
    rw [hr] at hrate
    have hpos : 0 < r := by simpa using hrate
    simpa using hpos.le
  | nan => rfl
  | posInf => rfl
  | negInf => simp [hr, F64.le] at hrate

section Local
variable {s : System} {key : String} {capacity : ℕ} {rate : F64} {moment : ℕ}
  {invocation : Invocation} {decision : RateDecision}

/-- A bucket without a finite rate fills up at once. -/
theorem held_of_not_finite {config : RateLimitsConfig} {bucket : LocalBucket}
    (hrange : InRange config.survivabilityMode 0 bucket)
    (hrate : config.survivabilityMode.fallbackRefillRatePerSec = .nan ∨
      config.survivabilityMode.fallbackRefillRatePerSec = .posInf) (now : ℕ) :
    (bucket.refill now).tokens = F64.ofNat config.survivabilityMode.fallbackCapacity := by
  obtain ⟨tokens, full, hbucket, hfull, -, -, -⟩ := hrange
  have helapsed := Binary64.asSecsF64_nonneg (now - bucket.lastRefill)
  rw [hbucket, hfull]
  unfold LocalBucket.refill
  simp only
  rcases hrate with hrate | hrate
  · rw [hrate]
    rfl
  · rw [hrate]
    cases hnanos : asSecsF64 (now - bucket.lastRefill) with
    | finite e =>
      rw [hnanos] at helapsed
      rcases (show 0 ≤ e by simpa using helapsed).eq_or_lt with rfl | hpos
      · rfl
      · simp [F64.mul, F64.infTimes, hpos, hpos.ne', F64.add, F64.min, F64.lt]
    | posInf => rfl
    | _ => simp [hnanos, F64.le] at helapsed

/-- The local bucket allows a call if there is a token, and otherwise tells the waiting time. -/
theorem local_decision (henabled : s.limiter.config.survivabilityMode.enabled = true)
    (h : (s.check key capacity rate (momentCall moment invocation)).1 = .ok decision)
    (hmode : decision.mode = .degradedLocal) :
    decision.allowed = s.hasToken key capacity rate moment .degradedLocal ∧
      decision.retryAfterMs = ((s.fallbackBucket key (momentCall moment .replied)).tryConsume
        moment).1.retryAfterMs := by
  rcases @check_local_cases s key capacity rate (momentCall moment invocation) henabled with
    ⟨⟨other, hother, hredis⟩, -⟩ | ⟨hlocal, -⟩
  · rw [h] at hother
    exact absurd (Except.ok.inj hother ▸ hredis) (by simp [hmode])
  · rw [Except.ok.inj (h.symm.trans hlocal)]
    exact ⟨allowed_eq _ _, rfl⟩

end Local

/-- A check at a moment that is denied, in a state that runs can leave, with limits that validation
accepts of a route. -/
structure Denial (s : System) (key : String) (capacity : ℕ) (rate : F64) (moment : ℕ)
    (invocation : Invocation) (decision : RateDecision) : Prop where
  capacity_pos : 1 ≤ capacity
  capacity_fits : capacity < 2 ^ 64
  rate_pos : (F64.finite 0).lt rate = true
  hash : Left (s.redis.hash key)
  positive : s.limiter.config.survivabilityMode.enabled = true → FallbackPositive s.limiter.config
  buckets : s.limiter.config.survivabilityMode.enabled = true →
    BucketsInRange s.limiter.config 0 s
  answer : (s.check key capacity rate (momentCall moment invocation)).1 = .ok decision
  denied : decision.allowed = false

section Denial
variable {s : System} {key : String} {capacity : ℕ} {rate : F64} {moment : ℕ}
  {invocation : Invocation} {decision : RateDecision}

/-- At an infinite rate a bucket is full, or what it holds is not a finite number. -/
theorem refilledTokens_posInf {hash : BucketHash} (hleft : Left hash) (now : F64) (full : ℚ) :
    let held := refilledTokens hash now (.finite full) .posInf
    held = .nan ∨ held = .negInf ∨ held = .finite full := by
  have hgain : ∀ x : F64, F64.posInf.mul x = .nan ∨ F64.posInf.mul x = .negInf ∨
      F64.posInf.mul x = .posInf := by
    intro x
    cases x with
    | finite q =>
      simp only [F64.mul, F64.infTimes]
      split
      · exact Or.inl rfl
      · split
        · exact Or.inr (Or.inr rfl)
        · exact Or.inr (Or.inl rfl)
    | nan => exact Or.inl rfl
    | negInf => exact Or.inr (Or.inl rfl)
    | posInf => exact Or.inr (Or.inr rfl)
  obtain ⟨tokens, htokens⟩ : ∃ tokens, hash.tokens.getD (.finite full) = .finite tokens := by
    rcases hleft.cases with rfl | ⟨tokens, last, -, -, rfl⟩
    · exact ⟨full, rfl⟩
    · exact ⟨tokens, rfl⟩
  intro held
  simp only [held, refilledTokens, htokens]
  rcases hgain ((now.sub (hash.lastRefillMs.getD now)).div (.finite 1000)) with h | h | h
  · exact Or.inl (by rw [h]; rfl)
  · exact Or.inr (Or.inl (by rw [h]; rfl))
  · exact Or.inr (Or.inr (by rw [h]; rfl))

/-- Without a finite count there is no wait that can be told. -/
theorem refillMs_not_finite {held rate : F64} (h : held = .nan ∨ held = .negInf ∧ rate = .posInf) :
    (F64.finite 0).le (refillMs held rate).ceil = false := by
  rcases h with rfl | ⟨rfl, rfl⟩
  · rfl
  · rfl

/-- Redis denies only at a finite rate, and only with a stored bucket: one without a hash is full,
and at an infinite rate the waiting time is not a number. -/
theorem Denial.redis (h : Denial s key capacity rate moment invocation decision)
    (hmode : decision.mode = .redis) :
    s.redis.hash key ≠ {} ∧ ∃ r, rate = .finite r ∧ 0 < r := by
  obtain ⟨hallowed, htold⟩ := redis_decision h.answer hmode
  have hnonneg := (htold h.denied).1
  obtain ⟨full, hfull, hdouble, -⟩ := exists_ofNat h.capacity_fits
  have hone : (F64.finite 1).le (F64.ofNat capacity) = true :=
    le_round isDouble_one (by exact_mod_cast h.capacity_pos)
  have hrate := h.rate_pos
  rw [h.denied, System.hasToken, System.heldIn, hfull] at hallowed
  rw [System.waitIn, System.heldIn, hfull] at hnonneg
  rw [hfull] at hone
  cases rate with
  | nan => simp [F64.lt] at hrate
  | negInf => simp [F64.lt] at hrate
  | posInf =>
    exfalso
    rcases refilledTokens_posInf h.hash (F64.ofNat (moment / 10 ^ 6)) full
      with hheld | hheld | hheld
    · rw [hheld, refillMs_not_finite (Or.inl rfl)] at hnonneg
      exact absurd hnonneg (by simp)
    · rw [hheld, refillMs_not_finite (Or.inr ⟨rfl, rfl⟩)] at hnonneg
      exact absurd hnonneg (by simp)
    · rw [hheld, hone] at hallowed
      exact absurd hallowed (by simp)
  | finite r =>
    refine ⟨?_, r, rfl, by simpa using hrate⟩
    intro hgone
    rw [hgone] at hallowed hnonneg
    rcases Binary64.ofNat_cases (moment / 10 ^ 6) with hnow | ⟨n, hnow, -⟩
    · -- no such clock: the time since itself is not a number
      rw [hnow, show refilledTokens {} .posInf (.finite full) (.finite r) = .nan from rfl,
        refillMs_not_finite (Or.inl rfl)] at hnonneg
      exact absurd hnonneg (by simp)
    · rw [hnow, refilledTokens_gone hdouble, hone] at hallowed
      exact absurd hallowed (by simp)

/-- Any other denial is made with local buckets in use. -/
theorem Denial.enabled (h : Denial s key capacity rate moment invocation decision)
    (hmode : decision.mode ≠ .redis) : s.limiter.config.survivabilityMode.enabled = true := by
  have hanswer := h.answer
  rcases check_cases s key capacity rate (momentCall moment invocation) with
    ⟨-, -, resp, -, hcheck⟩ | ⟨-, s', -, hconfig, -, -, hcheck⟩
  · rw [hcheck] at hanswer
    exact absurd (congrArg RateDecision.mode (Except.ok.inj hanswer)).symm hmode
  · by_contra hdisabled
    have hdisabled' : s'.limiter.config.survivabilityMode.enabled = false := by
      rw [hconfig]
      exact Bool.eq_false_iff.mpr hdisabled
    rw [hcheck, enterDegraded_of_disabled hdisabled'] at hanswer
    by_cases hopen : s'.limiter.config.failOpen = true
    · rw [if_pos hopen] at hanswer
      have hallowed := congrArg RateDecision.allowed (Except.ok.inj hanswer)
      exact absurd h.denied (by simp [← hallowed])
    · rw [if_neg hopen] at hanswer
      exact absurd hanswer (by simp)

/-- The local bucket of the key is in range, whether it is there or new. -/
theorem Denial.bucket (h : Denial s key capacity rate moment invocation decision)
    (hmode : decision.mode ≠ .redis) :
    InRange s.limiter.config.survivabilityMode 0
      (s.fallbackBucket key (momentCall moment .replied)) :=
  (h.buckets (h.enabled hmode)).fallbackBucket (h.positive (h.enabled hmode)).bounded

/-- The local bucket denies only at a finite rate. -/
theorem Denial.fallback (h : Denial s key capacity rate moment invocation decision)
    (hmode : decision.mode ≠ .redis) :
    decision.mode = .degradedLocal ∧ ∃ r,
      s.limiter.config.survivabilityMode.fallbackRefillRatePerSec = .finite r ∧ 0 < r := by
  have henabled := h.enabled hmode
  obtain ⟨hcapacity, -, hrate⟩ := h.positive henabled
  have hlocal : decision.mode = .degradedLocal := by
    rcases @check_local_cases s key capacity rate (momentCall moment invocation) henabled with
      ⟨⟨other, hother, hredis⟩, -⟩ | ⟨hanswer, -⟩
    · rw [h.answer] at hother
      exact absurd (Except.ok.inj hother ▸ hredis) hmode
    · rw [Except.ok.inj (h.answer.symm.trans hanswer)]
  refine ⟨hlocal, ?_⟩
  have hallowed := (local_decision henabled h.answer hlocal).1
  have hfinite : ¬ (s.limiter.config.survivabilityMode.fallbackRefillRatePerSec = .nan ∨
      s.limiter.config.survivabilityMode.fallbackRefillRatePerSec = .posInf) := by
    intro hinfinite
    have hone : (F64.finite 1).le
        (F64.ofNat s.limiter.config.survivabilityMode.fallbackCapacity) = true :=
      le_round isDouble_one (by exact_mod_cast hcapacity)
    rw [h.denied, System.hasToken, System.heldIn_degradedLocal,
      held_of_not_finite (h.bucket hmode) hinfinite, hone] at hallowed
    exact absurd hallowed (by simp)
  cases hr : s.limiter.config.survivabilityMode.fallbackRefillRatePerSec with
  | nan => exact absurd (Or.inl hr) hfinite
  | posInf => exact absurd (Or.inr hr) hfinite
  | negInf => simp [hr, F64.le] at hrate
  | finite r =>
    rw [hr] at hrate
    exact ⟨r, rfl, by simpa using hrate⟩

end Denial

end RateLimit
end OpenApiGateway
