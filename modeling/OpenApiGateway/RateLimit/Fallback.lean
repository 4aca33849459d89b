import OpenApiGateway.Config.Validation
import OpenApiGateway.RateLimit.Admission
import OpenApiGateway.RateLimit.Doubles

/-!
# The settings of the local buckets

The local buckets take their capacity and rate from `survivability_mode`, which no check of the
validation looks at. `fallback_sound_by_settings` says which settings make good buckets, in the
arithmetic of doubles: a capacity of at least one that rounding does not raise, and a rate that
brings a token within the longest duration there is. Infinite and undefined rates are among
them, because `f64::min` takes the capacity when the other side is not a number. A capacity
from which rounding lets no second call take anything needs no more than a rate that is not
negative.
-/

namespace OpenApiGateway
namespace RateLimit

open scoped Binary64
open Binary64 (IsDouble isDouble_zero isDouble_one isDouble_natCast isDouble_of_round le_round
  round_le ofNat_eq_of_le)

/-! ## One call on a bucket -/

section Bucket
variable {tokens capacity low gain : ℚ} {rate refilled : F64} {last now : ℕ}

/-- What a refill adds: nothing is taken away by a rate that is not negative. -/
theorem mul_asSecsF64_nonneg (hrate : rate.lt (.finite 0) = false) (nanos : ℕ) :
    rate.mul (asSecsF64 nanos) = .nan ∨
      (F64.finite 0).le (rate.mul (asSecsF64 nanos)) = true := by
  have helapsed := Binary64.asSecsF64_nonneg nanos
  cases hnanos : asSecsF64 nanos with
  | nan => exact Or.inl (by cases rate <;> rfl)
  | negInf => simp [hnanos, F64.le] at helapsed
  | finite e =>
    rw [hnanos] at helapsed
    have he : 0 ≤ e := by simpa using helapsed
    cases rate with
    | nan => exact Or.inl rfl
    | negInf => simp [F64.lt] at hrate
    | finite r =>
      have hr : 0 ≤ r := by simpa using hrate
      exact Or.inr (le_round isDouble_zero (mul_nonneg hr he))
    | posInf =>
      rcases he.eq_or_lt with rfl | hpos
      · exact Or.inl rfl
      · exact Or.inr (by simp [F64.mul, F64.infTimes, hpos, hpos.ne', F64.le])
  | posInf =>
    cases rate with
    | nan => exact Or.inl rfl
    | negInf => simp [F64.lt] at hrate
    | posInf => exact Or.inr rfl
    | finite r =>
      have hr : 0 ≤ r := by simpa using hrate
      rcases hr.eq_or_lt with rfl | hpos
      · exact Or.inl rfl
      · exact Or.inr (by simp [F64.mul, F64.infTimes, hpos, hpos.ne', F64.le])

/-- A refill that gains something reaches what the gain alone would, up to the capacity. A gain
that is not a number fills the bucket. -/
theorem refill_spec (last now : ℕ) (hcapacity : IsDouble capacity) (hlow : IsDouble low)
    (hle : low ≤ capacity) (hsum : low ≤ tokens + gain)
    (hgain : rate.mul (asSecsF64 (now - last)) = .nan ∨
      (F64.finite gain).le (rate.mul (asSecsF64 (now - last))) = true) :
    ∃ held, (⟨.finite tokens, .finite capacity, rate, last⟩ : LocalBucket).refill now =
        ⟨.finite held, .finite capacity, rate, now⟩ ∧
      IsDouble held ∧ low ≤ held ∧ held ≤ capacity := by
  unfold LocalBucket.refill
  simp only
  rcases hgain with hnan | hgain
  · exact ⟨capacity, by rw [hnan]; rfl, hcapacity, hle, le_refl _⟩
  · have hadd := F64.add_le_add_left tokens hgain
    have hreach := F64.le_trans (le_round hlow hsum) hadd
    cases hsum : (F64.finite tokens).add (rate.mul (asSecsF64 (now - last))) with
    | nan => simp [hsum, F64.le] at hreach
    | negInf => simp [hsum, F64.le] at hreach
    | posInf => exact ⟨capacity, rfl, hcapacity, hle, le_refl _⟩
    | finite held =>
      rw [hsum] at hreach
      have hlowHeld : low ≤ held := by simpa using hreach
      have hheld : IsDouble held := by
        cases hmul : rate.mul (asSecsF64 (now - last)) with
        | finite g =>
          rw [hmul] at hsum
          exact isDouble_of_round hsum
        | _ => simp [hmul, F64.add] at hsum
      refine ⟨min held capacity, by rw [F64.min_finite], ?_, le_min hlowHeld hle, min_le_right _ _⟩
      rcases min_choice held capacity with hmin | hmin
      · rwa [hmin]
      · rwa [hmin]

/-- A call on a bucket that refills to a finite number of tokens. -/
theorem tryConsume_of_refill {bucket : LocalBucket} {held : ℚ}
    (h : bucket.refill now = ⟨.finite held, .finite capacity, rate, now⟩) (hheld : IsDouble held) :
    (bucket.tryConsume now).1.allowed = decide (1 ≤ held) ∧
      ∃ left, (bucket.tryConsume now).2 = ⟨.finite left, .finite capacity, rate, now⟩ ∧
        IsDouble left ∧ left ≤ held ∧
        if 1 ≤ held then Arithmetic.round (held - 1) = .finite left else left = held := by
  unfold LocalBucket.tryConsume
  rw [h]
  by_cases hone : 1 ≤ held
  · obtain ⟨left, hleft, -, hle⟩ := F64.exists_finite
      (le_round isDouble_zero (by linarith : 0 ≤ held - 1))
      (round_le hheld (by linarith : held - 1 ≤ held))
    have hsub : (F64.finite held).sub (.finite 1) = .finite left := by
      rw [← hleft, sub_eq_add_neg]
      rfl
    refine ⟨by simp [hone], left, ?_, isDouble_of_round hleft, hle, by rw [if_pos hone, hleft]⟩
    simp [hone, hsub]
  · exact ⟨by simp [hone], held, by simp [hone], hheld, le_refl _, by rw [if_neg hone]⟩

theorem mul_no_time (r : ℚ) : (F64.finite r).mul (.finite 0) = .finite 0 := by
  rw [F64.mul, mul_zero]
  exact isDouble_zero

/-- A refill at once changes nothing. -/
theorem refill_at_once (htokens : IsDouble tokens) (hle : tokens ≤ capacity) (r : ℚ) (now : ℕ) :
    (finiteBucket tokens capacity r now).refill now = finiteBucket tokens capacity r now := by
  have hadd : (F64.finite tokens).add (.finite 0) = .finite tokens := by
    rw [F64.add, add_zero]
    exact htokens
  unfold LocalBucket.refill finiteBucket
  simp only [Nat.sub_self, Binary64.asSecsF64_zero, mul_no_time, hadd, F64.min_finite,
    min_eq_left hle]

/-- A new bucket is full, whatever the rate. -/
theorem refill_new (hcapacity : IsDouble capacity) (rate : F64) (now : ℕ) :
    (LocalBucket.new (.finite capacity) rate now).refill now =
      ⟨.finite capacity, .finite capacity, rate, now⟩ := by
  cases rate with
  | finite r => exact refill_at_once hcapacity (le_refl _) r now
  | _ =>
    simp [LocalBucket.refill, LocalBucket.new, Binary64.asSecsF64_zero, F64.mul, F64.infTimes,
      F64.add, F64.min]

end Bucket

/-! ## Settings and runs -/

/-- The clocks of a run do not go backwards. -/
def Ordered (ops : List Op) : Prop := (ops.flatMap Op.instants).Pairwise (· ≤ ·)

instance (ops : List Op) : Decidable (Ordered ops) :=
  inferInstanceAs (Decidable (List.Pairwise _ _))

/-- A limiter made from the settings, after a run. -/
def ranFrom (config : RateLimitsConfig) (connected : Bool) (redis : Redis) (ops : List Op) :
    System :=
  System.after ⟨.fromConfig config connected, redis⟩ ops

namespace System
variable (s : System) (key : String) (capacity : ℕ) (rate : F64) (call : Call)

/-- The call is not decided by Redis. -/
def Degraded : Prop := ∀ decision, (s.check key capacity rate call).1 = .ok decision →
  decision.mode ≠ .redis

/-- The call is allowed by the local bucket of its key. -/
def AllowedLocally : Prop := ∃ decision, (s.check key capacity rate call).1 = .ok decision ∧
  decision.mode = .degradedLocal ∧ decision.allowed = true

end System

/-- `Duration::MAX`, in nanoseconds. -/
def maxDuration : ℕ := 2 ^ 64 * 10 ^ 9 - 1

/-- What the local buckets are to do with these settings, in every run. -/
structure FallbackSound (config : RateLimitsConfig) : Prop where
  within : ∀ connected redis ops, Ordered ops → ∀ key bucket,
    (ranFrom config connected redis ops).limiter.fallback.lookup key = some bucket →
      ∃ tokens : ℚ, bucket.tokens = .finite tokens ∧ 0 ≤ tokens ∧
        tokens ≤ config.survivabilityMode.fallbackCapacity
  fresh : ∀ connected redis ops key capacity rate call,
    Ordered (ops ++ [.check key capacity rate call]) →
      (ranFrom config connected redis ops).limiter.fallback.lookup key = none →
      (ranFrom config connected redis ops).Degraded key capacity rate call →
      (ranFrom config connected redis ops).AllowedLocally key capacity rate call
  recovers : ∀ connected redis ops key bucket, Ordered ops →
    (ranFrom config connected redis ops).limiter.fallback.lookup key = some bucket →
      ∃ wait ≤ maxDuration, ∀ capacity rate call, Ordered (ops ++ [.check key capacity rate call]) →
        bucket.lastRefill + wait ≤ call.instant →
        (ranFrom config connected redis ops).Degraded key capacity rate call →
        (ranFrom config connected redis ops).AllowedLocally key capacity rate call

/-- A second call on a full bucket takes nothing: one less is rounded back. -/
def Inexhaustible (capacity : F64) : Prop :=
  (capacity.sub (.finite 1)).sub (.finite 1) = capacity.sub (.finite 1)

/-- Settings of good local buckets. -/
def FallbackValid (config : RateLimitsConfig) : Prop :=
  let mode := config.survivabilityMode
  1 ≤ mode.fallbackCapacity ∧
    (F64.ofNat mode.fallbackCapacity).le (.finite mode.fallbackCapacity) = true ∧
    ((mode.fallbackRefillRatePerSec.mul (asSecsF64 maxDuration)).lt (.finite 1) = false ∨
      Inexhaustible (F64.ofNat mode.fallbackCapacity) ∧
        (F64.finite 0).le mode.fallbackRefillRatePerSec = true)

instance (capacity : F64) : Decidable (Inexhaustible capacity) :=
  inferInstanceAs (Decidable (_ = _))

instance (config : RateLimitsConfig) : Decidable (FallbackValid config) :=
  inferInstanceAs (Decidable (_ ∧ _ ∧ _))

/-! ## A degraded call -/

section Degraded
variable {s : System} {key : String} {capacity : ℕ} {rate : F64} {call : Call}

theorem fallbackBucket_congr {s' : System} (hconfig : s'.limiter.config = s.limiter.config)
    (hfallback : s'.limiter.fallback = s.limiter.fallback) :
    s'.fallbackBucket key call = s.fallbackBucket key call := by
  rw [System.fallbackBucket, System.fallbackBucket, hconfig, hfallback]

/-- With local buckets a check is decided by Redis and leaves them alone, or it is a call on the
bucket of its key. -/
theorem check_local_cases (henabled : s.limiter.config.survivabilityMode.enabled = true) :
    ((∃ decision, (s.check key capacity rate call).1 = .ok decision ∧ decision.mode = .redis) ∧
        (s.check key capacity rate call).2.limiter.fallback = s.limiter.fallback) ∨
      let consumed := (s.fallbackBucket key call).tryConsume call.instant
      (s.check key capacity rate call).1 =
          .ok ⟨consumed.1.allowed, s.limiter.config.survivabilityMode.fallbackCapacity,
            consumed.1.remaining, consumed.1.retryAfterMs, .degradedLocal⟩ ∧
        (s.check key capacity rate call).2.limiter.fallback =
          s.limiter.fallback.insert key consumed.2 := by
  rcases check_cases s key capacity rate call with
    ⟨-, -, resp, -, hcheck⟩ | ⟨-, s', -, hconfig, hfallback, -, hcheck⟩
  · rw [hcheck]
    exact Or.inl ⟨⟨_, rfl, rfl⟩, rfl⟩
  · rw [← hconfig] at henabled
    rw [hcheck, enterDegraded_of_enabled henabled, fallbackBucket_congr hconfig hfallback,
      setFallback_fallback, hfallback]
    exact Or.inr ⟨by rw [hconfig], rfl⟩

theorem allowedLocally_iff (henabled : s.limiter.config.survivabilityMode.enabled = true)
    (h : s.Degraded key capacity rate call) :
    s.AllowedLocally key capacity rate call ↔
      ((s.fallbackBucket key call).tryConsume call.instant).1.allowed = true := by
  rcases @check_local_cases s key capacity rate call henabled with
    ⟨⟨decision, hdecision, hmode⟩, -⟩ | ⟨hlocal, -⟩
  · exact absurd hmode (h decision hdecision)
  · unfold System.AllowedLocally
    rw [hlocal]
    simp

end Degraded

/-! ## With valid settings -/

/-- A bucket with the settings' capacity and rate, and between some count and full. -/
def InRange (mode : SurvivabilityMode) (least : ℚ) (bucket : LocalBucket) : Prop :=
  ∃ tokens capacity : ℚ, bucket = ⟨.finite tokens, .finite capacity,
      mode.fallbackRefillRatePerSec, bucket.lastRefill⟩ ∧
    F64.ofNat mode.fallbackCapacity = .finite capacity ∧ IsDouble tokens ∧
    least ≤ tokens ∧ tokens ≤ capacity

/-- No call brings the count of a bucket below `least`, and no time takes anything away. -/
structure Bounded (mode : SurvivabilityMode) (least : ℚ) : Prop where
  rate : mode.fallbackRefillRatePerSec.lt (.finite 0) = false
  full : ∃ capacity, F64.ofNat mode.fallbackCapacity = .finite capacity ∧ least ≤ capacity
  taken : ∀ held left, least ≤ held → 1 ≤ held → Arithmetic.round (held - 1) = .finite left →
    least ≤ left

section Valid
variable {config : RateLimitsConfig} {s : System} {key : String} {call : Call} {least : ℚ}
  {mode : SurvivabilityMode} {bucket : LocalBucket}

/-- A refill takes nothing away and does not overfill. -/
theorem InRange.refill (h : InRange mode least bucket) (hbounded : Bounded mode least) (now : ℕ) :
    ∃ held capacity, bucket.refill now = ⟨.finite held, .finite capacity,
        mode.fallbackRefillRatePerSec, now⟩ ∧
      F64.ofNat mode.fallbackCapacity = .finite capacity ∧ IsDouble held ∧ least ≤ held ∧
      held ≤ capacity ∧ bucket.tokens.le (.finite held) = true := by
  obtain ⟨tokens, capacity, hbucket, hcapacity, hdouble, hleast, hle⟩ := h
  obtain ⟨held, hrefill, hheld, hmore, hfull⟩ :=
    refill_spec bucket.lastRefill now (isDouble_of_round hcapacity) hdouble hle
      (by rw [add_zero]) (mul_asSecsF64_nonneg hbounded.rate _)
  rw [← hbucket] at hrefill
  refine ⟨held, capacity, hrefill, hcapacity, hheld, hleast.trans hmore, hfull, ?_⟩
  rw [hbucket]
  simpa using hmore

theorem InRange.tryConsume (h : InRange mode least bucket) (hbounded : Bounded mode least)
    (now : ℕ) : InRange mode least (bucket.tryConsume now).2 := by
  obtain ⟨held, capacity, hrefill, hcapacity, hheld, hleast, hfull, -⟩ := h.refill hbounded now
  obtain ⟨-, left, hbucket, hleft, hle, htaken⟩ := tryConsume_of_refill hrefill hheld
  refine ⟨left, capacity, by rw [hbucket], hcapacity, hleft, ?_, hle.trans hfull⟩
  split at htaken
  · rename_i hone
    exact hbounded.taken held left hleast hone htaken
  · rw [htaken]
    exact hleast

theorem inRange_new (hbounded : Bounded mode least) (now : ℕ) :
    InRange mode least
      (.new (F64.ofNat mode.fallbackCapacity) mode.fallbackRefillRatePerSec now) := by
  obtain ⟨capacity, hcapacity, hle⟩ := hbounded.full
  refine ⟨capacity, capacity, ?_, hcapacity, isDouble_of_round hcapacity, hle, le_refl _⟩
  rw [hcapacity]
  rfl

/-- The settings are kept, and every bucket is in range. -/
structure BucketsInRange (config : RateLimitsConfig) (least : ℚ) (s : System) : Prop where
  kept : s.limiter.config = config
  inRange : ∀ key bucket, s.limiter.fallback.lookup key = some bucket →
    InRange config.survivabilityMode least bucket

theorem BucketsInRange.fallbackBucket (h : BucketsInRange config least s)
    (hbounded : Bounded config.survivabilityMode least) :
    InRange config.survivabilityMode least (s.fallbackBucket key call) := by
  unfold System.fallbackBucket
  cases hbucket : s.limiter.fallback.lookup key with
  | some bucket => exact h.inRange key bucket hbucket
  | none =>
    rw [h.kept]
    exact inRange_new hbounded _

theorem BucketsInRange.apply (h : BucketsInRange config least s)
    (henabled : config.survivabilityMode.enabled = true)
    (hbounded : Bounded config.survivabilityMode least) (op : Op) :
    BucketsInRange config least (s.apply op) := by
  refine ⟨(apply_config s op).trans h.kept, ?_⟩
  intro key bucket hbucket
  cases op with
  | ping outcome =>
    obtain ⟨-, -, hfallback⟩ := ping_frame s outcome
    exact h.inRange key bucket (hfallback ▸ hbucket)
  | check bucketKey capacity rate call =>
    have henabled' : s.limiter.config.survivabilityMode.enabled = true := h.kept ▸ henabled
    rcases @check_local_cases s bucketKey capacity rate call henabled' with
      ⟨-, hsame⟩ | ⟨-, hinsert⟩
    · exact h.inRange key bucket (hsame ▸ hbucket)
    · have hbucket' : (s.limiter.fallback.insert bucketKey
          ((s.fallbackBucket bucketKey call).tryConsume call.instant).2).lookup key = some bucket :=
        hinsert ▸ hbucket
      by_cases hkey : key = bucketKey
      · subst hkey
        rw [AList.lookup_insert, Option.some.injEq] at hbucket'
        rw [← hbucket']
        exact (h.fallbackBucket hbounded).tryConsume hbounded _
      · rw [AList.lookup_insert_ne hkey] at hbucket'
        exact h.inRange key bucket hbucket'

theorem BucketsInRange.after (h : BucketsInRange config least s)
    (henabled : config.survivabilityMode.enabled = true)
    (hbounded : Bounded config.survivabilityMode least) (ops : List Op) :
    BucketsInRange config least (s.after ops) := by
  induction ops using List.reverseRecOn with
  | nil => exact h
  | append_singleton ops op ih =>
    rw [System.after_concat]
    exact ih.apply henabled hbounded op

theorem bucketsInRange_ranFrom (henabled : config.survivabilityMode.enabled = true)
    (hbounded : Bounded config.survivabilityMode least) (connected : Bool) (redis : Redis)
    (ops : List Op) : BucketsInRange config least (ranFrom config connected redis ops) := by
  have hstart : BucketsInRange config least ⟨.fromConfig config connected, redis⟩ :=
    ⟨rfl, by simp [RateLimiter.fromConfig]⟩
  exact hstart.after henabled hbounded ops

/-! ### Settings that bound the buckets -/

/-- A call that finds a token leaves no less than nothing. -/
theorem bounded_zero (hrate : mode.fallbackRefillRatePerSec.lt (.finite 0) = false)
    {capacity : ℚ} (hcapacity : F64.ofNat mode.fallbackCapacity = .finite capacity) :
    Bounded mode 0 := by
  refine ⟨hrate, ⟨capacity, hcapacity, ?_⟩, ?_⟩
  · have hle := le_round isDouble_zero (Nat.cast_nonneg (α := ℚ) mode.fallbackCapacity)
    rw [show Arithmetic.round (mode.fallbackCapacity : ℚ) = _ from hcapacity] at hle
    simpa using hle
  · intro held left _ hone hleft
    have hle := le_round isDouble_zero (by linarith : 0 ≤ held - 1)
    rw [hleft] at hle
    simpa using hle

/-- A bucket that a second call takes nothing from never holds less than what the first left,
and that is a token or more. -/
theorem bounded_of_inexhaustible (hrate : (F64.finite 0).le mode.fallbackRefillRatePerSec = true)
    {capacity : ℚ} (hcapacity : F64.ofNat mode.fallbackCapacity = .finite capacity)
    (hone : 1 ≤ capacity) (h : Inexhaustible (.finite capacity)) :
    ∃ least, 1 ≤ least ∧ Bounded mode least := by
  have hdouble := isDouble_of_round hcapacity
  obtain ⟨least, hleast, hnonneg, hle⟩ := F64.exists_finite
    (le_round isDouble_zero (by linarith : 0 ≤ capacity + -1))
    (round_le hdouble (by linarith : capacity + -1 ≤ capacity))
  have hfixed : Arithmetic.round (least - 1) = .finite least := by
    have hsub : (F64.finite capacity).sub (.finite 1) = .finite least := hleast
    rw [Inexhaustible, hsub] at h
    rw [sub_eq_add_neg]
    exact h
  -- below one, a call would have taken something
  have hleastOne : 1 ≤ least := by
    by_contra hless
    have hneg := round_le isDouble_zero (by linarith : least - 1 ≤ 0)
    rw [hfixed, F64.le_finite, decide_eq_true_eq] at hneg
    have hzero : least = 0 := le_antisymm hneg hnonneg
    have hone' : IsDouble (-1) := by decide +kernel
    rw [hzero, zero_sub, hone'] at hfixed
    norm_num at hfixed
  refine ⟨least, hleastOne, ?_, ⟨capacity, hcapacity, hle⟩, ?_⟩
  · cases hr : mode.fallbackRefillRatePerSec <;> simp_all [F64.le, F64.lt]
  · intro held left hheld _ hleft
    have hmono := Arithmetic.round_mono (by linarith : least - 1 ≤ held - 1)
    rw [hfixed, hleft] at hmono
    simpa using hmono

theorem asSecsF64_maxDuration : asSecsF64 maxDuration = .finite (2 ^ 64) := by decide +kernel

/-- A rate that brings a token within the longest duration is not negative. -/
theorem rate_nonneg_of_refills {rate : F64}
    (h : (rate.mul (asSecsF64 maxDuration)).lt (.finite 1) = false) :
    rate.lt (.finite 0) = false := by
  rw [asSecsF64_maxDuration] at h
  cases rate with
  | nan => rfl
  | posInf => rfl
  | negInf => simp [F64.mul, F64.infTimes, F64.lt] at h
  | finite r =>
    by_contra hneg
    have hr : r < 0 := by simpa using hneg
    have hle := round_le isDouble_zero (by linarith : r * 2 ^ 64 ≤ 0)
    have hlt : (Arithmetic.round (r * 2 ^ 64)).lt (.finite 1) = true :=
      F64.lt_of_le_of_lt hle (by simp)
    exact absurd (hlt.symm.trans h) (by simp)

/-- Such a rate brings a token in any longer time. -/
theorem one_le_mul_asSecsF64 {rate : F64}
    (h : (rate.mul (asSecsF64 maxDuration)).lt (.finite 1) = false) {nanos : ℕ}
    (hnanos : maxDuration ≤ nanos) :
    rate.mul (asSecsF64 nanos) = .nan ∨
      (F64.finite 1).le (rate.mul (asSecsF64 nanos)) = true := by
  have helapsed := Binary64.asSecsF64_mono hnanos
  cases rate with
  | nan => exact Or.inl rfl
  | negInf => exact absurd (rate_nonneg_of_refills h) (by simp [F64.lt])
  | posInf =>
    rw [asSecsF64_maxDuration] at helapsed
    refine Or.inr ?_
    cases hnanos : asSecsF64 nanos with
    | finite e =>
      have hpos : 0 < e := by
        have hle : (2 : ℚ) ^ 64 ≤ e := by simpa [hnanos, F64.le] using helapsed
        linarith
      simp [F64.mul, F64.infTimes, hpos, hpos.ne', F64.le]
    | posInf => rfl
    | _ => simp [hnanos, F64.le] at helapsed
  | finite r =>
    have hmax : (F64.finite 1).le ((F64.finite r).mul (asSecsF64 maxDuration)) = true := by
      refine F64.le_of_not_lt ?_ (by simp) h
      rw [asSecsF64_maxDuration]
      exact Arithmetic.round_mono (le_refl _)
    have hr : 0 < r := by
      have hnonneg : 0 ≤ r := by simpa using rate_nonneg_of_refills h
      refine lt_of_le_of_ne hnonneg ?_
      rintro rfl
      rw [asSecsF64_maxDuration, F64.mul, zero_mul, isDouble_zero] at hmax
      norm_num at hmax
    exact Or.inr (F64.le_trans hmax (F64.mul_le_mul_left hr helapsed))

/-! ### Soundness -/

/-- What buckets that stay in range do, but for the refill of an empty one. -/
theorem fallbackSound_of_bounded (henabled : config.survivabilityMode.enabled = true)
    (hbounded : Bounded config.survivabilityMode least) (hnonneg : 0 ≤ least)
    (hcapacity : 1 ≤ config.survivabilityMode.fallbackCapacity)
    (hexact : (F64.ofNat config.survivabilityMode.fallbackCapacity).le
      (.finite config.survivabilityMode.fallbackCapacity) = true)
    (hrecovers : ∃ wait ≤ maxDuration, ∀ bucket now,
      InRange config.survivabilityMode least bucket → bucket.lastRefill + wait ≤ now →
        (bucket.tryConsume now).1.allowed = true) :
    FallbackSound config := by
  have hrange := bucketsInRange_ranFrom henabled hbounded
  refine ⟨?_, ?_, ?_⟩
  · intro connected redis ops _ key bucket hbucket
    obtain ⟨tokens, capacity, heq, hfull, -, hleast, hle⟩ :=
      (hrange connected redis ops).inRange key bucket hbucket
    rw [hfull] at hexact
    refine ⟨tokens, congrArg LocalBucket.tokens heq, hnonneg.trans hleast, hle.trans ?_⟩
    simpa using hexact
  · intro connected redis ops key capacity rate call _ hnone hdegraded
    have hkept := (hrange connected redis ops).kept
    rw [allowedLocally_iff (by rw [hkept, henabled]) hdegraded, System.fallbackBucket, hnone, hkept]
    obtain ⟨held, full, hrefill, hfull, hheld, -, -, hmore⟩ :=
      (inRange_new hbounded call.created).refill hbounded call.instant
    have hone : (F64.finite 1).le (F64.ofNat config.survivabilityMode.fallbackCapacity) = true :=
      le_round isDouble_one (by exact_mod_cast hcapacity)
    have hheldOne : 1 ≤ held := by simpa using F64.le_trans hone hmore
    exact (tryConsume_of_refill hrefill hheld).1.trans (decide_eq_true hheldOne)
  · intro connected redis ops key bucket _ hbucket
    have hstate := hrange connected redis ops
    obtain ⟨wait, hmax, hwait⟩ := hrecovers
    refine ⟨wait, hmax, fun capacity rate call _ hlater hdegraded => ?_⟩
    rw [allowedLocally_iff (by rw [hstate.kept, henabled]) hdegraded, System.fallbackBucket,
      hbucket, Option.getD_some]
    exact hwait bucket call.instant (hstate.inRange key bucket hbucket) hlater

theorem fallbackSound_of_valid (henabled : config.survivabilityMode.enabled = true)
    (h : FallbackValid config) : FallbackSound config := by
  obtain ⟨hcapacity, hexact, hrefills⟩ := h
  have hone : (F64.finite 1).le (F64.ofNat config.survivabilityMode.fallbackCapacity) = true :=
    le_round isDouble_one (by exact_mod_cast hcapacity)
  obtain ⟨capacity, hfull, hcapacityOne, -⟩ := F64.exists_finite hone hexact
  rcases hrefills with hrefills | ⟨hlarge, hrate⟩
  · have hbounded := bounded_zero (rate_nonneg_of_refills hrefills) hfull
    refine fallbackSound_of_bounded henabled hbounded (le_refl _) hcapacity hexact
      ⟨maxDuration, le_refl _, ?_⟩
    rintro bucket now ⟨tokens, full, hbucket, hfull', -, hnonneg, hle⟩ hlater
    have hfullOne : 1 ≤ full := by
      rw [hfull'] at hone
      simpa using hone
    obtain ⟨held, hrefill, hheld, hheldOne, -⟩ :=
      refill_spec bucket.lastRefill now (isDouble_of_round hfull') isDouble_one
        hfullOne (by linarith : 1 ≤ tokens + 1)
        (one_le_mul_asSecsF64 hrefills (by omega))
    rw [← hbucket] at hrefill
    exact (tryConsume_of_refill hrefill hheld).1.trans (decide_eq_true hheldOne)
  · rw [hfull] at hlarge
    obtain ⟨least, hleastOne, hbounded⟩ := bounded_of_inexhaustible hrate hfull hcapacityOne hlarge
    refine fallbackSound_of_bounded henabled hbounded (by linarith) hcapacity hexact
      ⟨0, Nat.zero_le _, ?_⟩
    intro bucket now hbucket _
    obtain ⟨held, full, hrefill, -, hheld, hleast, -, -⟩ := hbucket.refill hbounded now
    exact (tryConsume_of_refill hrefill hheld).1.trans (decide_eq_true (hleastOne.trans hleast))

end Valid

/-! ## With other settings

The runs are those of a limiter without a connection, on one key. -/

section Invalid
variable {config : RateLimitsConfig} {s : System}

/-- The clocks of a call without a connection. -/
def offline (created instant : ℕ) : Call := ⟨0, .replied, created, instant⟩

def offlineCheck (created instant : ℕ) : Op :=
  .check "key" 1 (.finite 1) (offline created instant)

/-- A limiter with these settings and no connection. -/
structure Offline (config : RateLimitsConfig) (s : System) : Prop where
  kept : s.limiter.config = config
  disconnected : s.limiter.connected = false

theorem offline_ranFrom : Offline config (ranFrom config false ∅ []) := ⟨rfl, rfl⟩

theorem Offline.check (h : Offline config s) (capacity : ℕ) (rate : F64) (call : Call) :
    s.check "key" capacity rate call = s.enterDegraded "key" capacity call := by
  simp [System.check, System.tryRedis, h.disconnected]

theorem Offline.degraded (h : Offline config s) (capacity : ℕ) (rate : F64) (call : Call) :
    s.Degraded "key" capacity rate call := by
  intro decision hdecision
  rw [h.check] at hdecision
  exact enterDegraded_mode hdecision

/-- A check without a connection is a call on the key's bucket. -/
theorem Offline.apply (h : Offline config s) (henabled : config.survivabilityMode.enabled = true)
    (created instant : ℕ) :
    Offline config (s.apply (offlineCheck created instant)) ∧
      (s.apply (offlineCheck created instant)).limiter.fallback.lookup "key" =
        some ((s.fallbackBucket "key" (offline created instant)).tryConsume instant).2 := by
  have henabled' : s.limiter.config.survivabilityMode.enabled = true := h.kept.symm ▸ henabled
  have happly : s.apply (offlineCheck created instant) =
      s.setFallback "key"
        ((s.fallbackBucket "key" (offline created instant)).tryConsume instant).2 := by
    show (s.check "key" 1 (.finite 1) (offline created instant)).2 = _
    rw [h.check, enterDegraded_of_enabled henabled']
    rfl
  rw [happly]
  exact ⟨⟨h.kept, h.disconnected⟩, by rw [setFallback_fallback, AList.lookup_insert]⟩

/-- The bucket of the first call. -/
theorem fallbackBucket_first (created instant : ℕ) :
    (ranFrom config false ∅ []).fallbackBucket "key" (offline created instant) =
      .new (F64.ofNat config.survivabilityMode.fallbackCapacity)
        config.survivabilityMode.fallbackRefillRatePerSec created := rfl

/-- Buckets of capacity zero refuse the first call. -/
theorem FallbackSound.capacity_pos (h : FallbackSound config)
    (henabled : config.survivabilityMode.enabled = true) :
    1 ≤ config.survivabilityMode.fallbackCapacity := by
  by_contra hzero
  have hcapacity : F64.ofNat config.survivabilityMode.fallbackCapacity = .finite 0 := by
    rw [show config.survivabilityMode.fallbackCapacity = 0 by omega]
    decide +kernel
  have hallowed := h.fresh false ∅ [] "key" 1 (.finite 1) (offline 0 0) (by decide) rfl
    (offline_ranFrom.degraded _ _ _)
  rw [allowedLocally_iff henabled (offline_ranFrom.degraded _ _ _), fallbackBucket_first,
    hcapacity] at hallowed
  have hdenied := (tryConsume_of_refill (refill_new isDouble_zero
    config.survivabilityMode.fallbackRefillRatePerSec 0) isDouble_zero).1
  rw [show (offline 0 0).instant = 0 from rfl, hdenied] at hallowed
  norm_num at hallowed

/-- A bucket of infinite capacity holds an infinite count, whatever the rate. -/
theorem tokens_of_posInf {tokens : ℚ} (rate : F64) :
    ((LocalBucket.new .posInf rate 0).tryConsume 0).2.tokens ≠ .finite tokens := by
  have hrefill : ((LocalBucket.new .posInf rate 0).refill 0).tokens = .posInf := by
    unfold LocalBucket.refill LocalBucket.new
    simp only [Nat.sub_self, Binary64.asSecsF64_zero]
    cases rate with
    | finite r =>
      rw [mul_no_time]
      rfl
    | _ => rfl
  unfold LocalBucket.tryConsume
  simp only [hrefill]
  simp [F64.le, F64.sub, F64.neg, F64.add]

/-- A capacity that rounding raises is raised for good: one less is rounded to the same count,
so that the first call leaves more than the capacity. -/
theorem FallbackSound.capacity_exact (h : FallbackSound config)
    (henabled : config.survivabilityMode.enabled = true) :
    (F64.ofNat config.survivabilityMode.fallbackCapacity).le
      (.finite config.survivabilityMode.fallbackCapacity) = true := by
  have hlookup := ((@offline_ranFrom config).apply henabled 0 0).2
  rw [fallbackBucket_first] at hlookup
  obtain ⟨tokens, htokens, -, hle⟩ :=
    h.within false ∅ [offlineCheck 0 0] (by decide) "key" _ hlookup
  rcases Binary64.ofNat_cases config.survivabilityMode.fallbackCapacity with
    hinf | ⟨capacity, hcapacity, hdouble, -⟩
  · -- an infinite capacity stays infinite
    rw [hinf] at htokens
    exact absurd htokens (tokens_of_posInf _)
  · rw [hcapacity]
    by_contra hraised
    obtain ⟨whole, hwhole⟩ := Binary64.exists_ofNat_eq hcapacity
    have hgt : (config.survivabilityMode.fallbackCapacity : ℚ) < capacity := by
      simpa using hraised
    have hnext : (config.survivabilityMode.fallbackCapacity : ℚ) ≤ capacity - 1 := by
      rw [hwhole] at hgt ⊢
      have hint : (config.survivabilityMode.fallbackCapacity : ℤ) + 1 ≤ whole := by
        exact_mod_cast hgt
      have hcast : ((config.survivabilityMode.fallbackCapacity : ℤ) : ℚ) + 1 ≤ whole := by
        exact_mod_cast hint
      push_cast at hcast
      linarith
    have hone : 1 ≤ capacity := by
      have := Nat.cast_nonneg (α := ℚ) config.survivabilityMode.fallbackCapacity
      linarith
    obtain ⟨-, left, hbucket, -, -, hleft⟩ := tryConsume_of_refill
      (refill_new hdouble config.survivabilityMode.fallbackRefillRatePerSec 0) hdouble
    rw [hcapacity, hbucket, F64.finite.injEq] at htokens
    rw [if_pos hone] at hleft
    have hback := Arithmetic.round_mono hnext
    rw [show Arithmetic.round (config.survivabilityMode.fallbackCapacity : ℚ) = _ from hcapacity,
      hleft, F64.le_finite, decide_eq_true_eq] at hback
    linarith

theorem tokens_of_negInf (capacity : ℚ) :
    ((LocalBucket.new (.finite capacity) .negInf 0).tryConsume 1).2.tokens = .negInf := by
  have hrefilled : F64.negInf.mul (asSecsF64 1) = .negInf := by decide +kernel
  have hrefill : (LocalBucket.new (.finite capacity) .negInf 0).refill 1 =
      ⟨.negInf, .finite capacity, .negInf, 1⟩ := by
    unfold LocalBucket.refill LocalBucket.new
    simp only [Nat.sub_zero, hrefilled]
    rfl
  unfold LocalBucket.tryConsume
  rw [hrefill]
  rfl

/-- With the rate minus infinity a bucket is overdrawn by any time that passes. -/
theorem FallbackSound.rate_ne_negInf (h : FallbackSound config)
    (henabled : config.survivabilityMode.enabled = true)
    (hsmall : config.survivabilityMode.fallbackCapacity ≤ 2 ^ 53) :
    config.survivabilityMode.fallbackRefillRatePerSec ≠ .negInf := by
  intro hrate
  have hlookup := (offline_ranFrom.apply henabled 0 1).2
  rw [fallbackBucket_first, hrate, ofNat_eq_of_le hsmall] at hlookup
  obtain ⟨tokens, htokens, -, -⟩ := h.within false ∅ [offlineCheck 0 1] (by decide) "key" _ hlookup
  rw [tokens_of_negInf] at htokens
  exact absurd htokens (by simp)

/-- A call takes one of several tokens when no time has passed. -/
theorem tryConsume_at_once (tokens : ℕ) {capacity : ℕ} (rate : ℚ) (hle : tokens + 1 ≤ capacity)
    (hsmall : capacity ≤ 2 ^ 53) (now : ℕ) :
    ((finiteBucket (tokens + 1 : ℕ) capacity rate now).tryConsume now).2 =
      finiteBucket tokens capacity rate now := by
  have hdouble : IsDouble ((tokens + 1 : ℕ) : ℚ) := isDouble_natCast (by omega)
  have hrefill := @refill_at_once _ capacity hdouble (by exact_mod_cast hle) rate now
  obtain ⟨-, left, hbucket, -, -, hleft⟩ := tryConsume_of_refill hrefill hdouble
  have hsub : ((tokens + 1 : ℕ) : ℚ) - 1 = tokens := by
    push_cast
    ring
  rw [if_pos (by push_cast; have := Nat.cast_nonneg (α := ℚ) tokens; linarith), hsub,
    isDouble_natCast (by omega), F64.finite.injEq] at hleft
  rw [hbucket, ← hleft]
  rfl

/-- Calls at one moment empty a bucket one by one. -/
theorem lookup_after_calls {rate : ℚ} (henabled : config.survivabilityMode.enabled = true)
    (hsmall : config.survivabilityMode.fallbackCapacity ≤ 2 ^ 53)
    (hrate : config.survivabilityMode.fallbackRefillRatePerSec = .finite rate) {n : ℕ}
    (hn : n < config.survivabilityMode.fallbackCapacity) :
    let s := ranFrom config false ∅ (List.replicate (n + 1) (offlineCheck 0 0))
    Offline config s ∧ s.limiter.fallback.lookup "key" =
      some (finiteBucket (config.survivabilityMode.fallbackCapacity - (n + 1) : ℕ)
        config.survivabilityMode.fallbackCapacity rate 0) := by
  intro s
  induction n with
  | zero =>
    obtain ⟨hoffline, hlookup⟩ := (@offline_ranFrom config).apply henabled 0 0
    refine ⟨hoffline, hlookup.trans ?_⟩
    rw [fallbackBucket_first, hrate, ofNat_eq_of_le hsmall]
    have hone := tryConsume_at_once (config.survivabilityMode.fallbackCapacity - 1) rate
      (by omega) hsmall 0
    rw [Nat.sub_add_cancel hn] at hone
    exact congrArg some hone
  | succ n ih =>
    obtain ⟨hbefore, hheld⟩ := ih (by omega)
    have hstep : s = (ranFrom config false ∅ (List.replicate (n + 1) (offlineCheck 0 0))).apply
        (offlineCheck 0 0) := by
      show System.after _ _ = _
      rw [List.replicate_succ', System.after_concat]
      rfl
    have hcount : config.survivabilityMode.fallbackCapacity - (n + 1) =
        config.survivabilityMode.fallbackCapacity - (n + 1 + 1) + 1 := by omega
    obtain ⟨hoffline, hlookup⟩ := hbefore.apply henabled 0 0
    rw [System.fallbackBucket, hheld, Option.getD_some, hcount,
      tryConsume_at_once _ rate (by omega) hsmall] at hlookup
    rw [hstep]
    exact ⟨hoffline, hlookup⟩

theorem Ordered.left {ops ops' : List Op} (h : Ordered (ops ++ ops')) : Ordered ops := by
  unfold Ordered at h
  rw [List.flatMap_append] at h
  exact (List.pairwise_append.mp h).1

theorem ordered_calls (n instant : ℕ) :
    Ordered (List.replicate n (offlineCheck 0 0) ++ [offlineCheck instant instant]) := by
  have hzero : ∀ time ∈ (List.replicate n (offlineCheck 0 0)).flatMap Op.instants, time = 0 := by
    intro time htime
    obtain ⟨op, hop, htime⟩ := List.mem_flatMap.mp htime
    rw [List.eq_of_mem_replicate hop] at htime
    simpa [offlineCheck, offline, Op.instants] using htime
  unfold Ordered
  rw [List.flatMap_append, List.pairwise_append]
  refine ⟨List.pairwise_of_forall_mem_list fun a ha b hb => ?_, ?_, fun a ha b _ => ?_⟩
  · rw [hzero a ha]
    exact Nat.zero_le b
  · simp [offlineCheck, offline, Op.instants]
  · rw [hzero a ha]
    exact Nat.zero_le b

/-- What an empty bucket gains within the longest duration, at a rate that brings no token in
it. -/
theorem mul_asSecsF64_lt_one {rate : ℚ} {nanos : ℕ} (hnanos : nanos ≤ maxDuration)
    (h : ((F64.finite rate).mul (asSecsF64 maxDuration)).lt (.finite 1) = true) :
    ∃ q, (F64.finite rate).mul (asSecsF64 nanos) = Arithmetic.round q ∧
      (Arithmetic.round q).lt (.finite 1) = true := by
  have hmax := Binary64.asSecsF64_mono hnanos
  rw [asSecsF64_maxDuration] at h hmax
  obtain ⟨elapsed, helapsed, hnonneg, hle⟩ :=
    F64.exists_finite (Binary64.asSecsF64_nonneg nanos) hmax
  rw [helapsed]
  refine ⟨rate * elapsed, rfl, ?_⟩
  rcases le_total 0 rate with hrate | hrate
  · exact F64.lt_of_le_of_lt (Arithmetic.round_mono (mul_le_mul_of_nonneg_left hle hrate)) h
  · exact F64.lt_of_le_of_lt
      (round_le isDouble_zero (mul_nonpos_of_nonpos_of_nonneg hrate hnonneg)) (by simp)

/-- Nothing plus less than one is less than one. -/
theorem zero_add_lt_one {q : ℚ} (h : (Arithmetic.round q).lt (.finite 1) = true) :
    ((F64.finite 0).add (Arithmetic.round q)).lt (.finite 1) = true := by
  cases hq : Arithmetic.round q with
  | finite x =>
    rw [hq] at h
    rw [F64.add, zero_add, isDouble_of_round hq]
    exact h
  | negInf => rfl
  | _ => simp [hq, F64.lt] at h

/-- A bucket that refills to less than one token denies. -/
theorem allowed_eq (bucket : LocalBucket) (now : ℕ) :
    (bucket.tryConsume now).1.allowed = (F64.finite 1).le (bucket.refill now).tokens := by
  unfold LocalBucket.tryConsume
  cases h : (F64.finite 1).le (bucket.refill now).tokens <;> simp [h]

theorem min_lt_of_lt {x y : F64} {q : ℚ} (h : x.lt y = true) : (x.min (.finite q)).lt y = true := by
  cases x <;> cases y <;> simp_all [F64.min, F64.lt]
  all_goals
    split_ifs <;> simp_all
    try linarith

/-- At a rate that brings no token within the longest duration an empty bucket stays empty. -/
theorem FallbackSound.refills (h : FallbackSound config)
    (henabled : config.survivabilityMode.enabled = true)
    (hsmall : config.survivabilityMode.fallbackCapacity ≤ 2 ^ 53) {rate : ℚ}
    (hrate : config.survivabilityMode.fallbackRefillRatePerSec = .finite rate) :
    ((F64.finite rate).mul (asSecsF64 maxDuration)).lt (.finite 1) = false := by
  by_contra hslow
  rw [Bool.not_eq_false] at hslow
  obtain ⟨n, hn⟩ : ∃ n, config.survivabilityMode.fallbackCapacity = n + 1 :=
    Nat.exists_eq_add_of_le' (h.capacity_pos henabled)
  obtain ⟨hoffline, hlookup⟩ := lookup_after_calls henabled hsmall hrate (n := n) (by omega)
  obtain ⟨wait, hmax, hwait⟩ := h.recovers false ∅ _ "key" _ (ordered_calls (n + 1) 0).left hlookup
  have hallowed := hwait 1 (.finite 1) (offline wait wait) (ordered_calls (n + 1) wait)
    (by simp [finiteBucket, offline]) (hoffline.degraded _ _ _)
  rw [allowedLocally_iff (by rw [hoffline.kept, henabled]) (hoffline.degraded _ _ _),
    System.fallbackBucket, hlookup, Option.getD_some, allowed_eq] at hallowed
  -- nothing is left, and less than a token is gained
  obtain ⟨q, hgain, hless⟩ := mul_asSecsF64_lt_one hmax hslow
  have hempty : (config.survivabilityMode.fallbackCapacity - (n + 1) : ℕ) = 0 := by omega
  have htokens : ((finiteBucket (config.survivabilityMode.fallbackCapacity - (n + 1) : ℕ)
      config.survivabilityMode.fallbackCapacity rate 0).refill
        (offline wait wait).instant).tokens.lt (.finite 1) = true := by
    rw [hempty]
    show ((((F64.finite (0 : ℕ)).add ((F64.finite rate).mul (asSecsF64 (wait - 0)))).min
      (.finite config.survivabilityMode.fallbackCapacity)).lt (.finite 1)) = true
    rw [Nat.sub_zero, hgain, Nat.cast_zero]
    exact min_lt_of_lt (zero_add_lt_one hless)
  rw [F64.not_le_of_lt' htokens] at hallowed
  exact absurd hallowed (by simp)

end Invalid

/-- With valid settings the local buckets are sound in every run. Sound buckets have a capacity
of at least one that rounding does not raise, and valid settings altogether where every whole
number up to the capacity is a double. -/
theorem fallback_sound_by_settings (config : RateLimitsConfig)
    (henabled : config.survivabilityMode.enabled = true) :
    (FallbackValid config → FallbackSound config) ∧
      (FallbackSound config →
        1 ≤ config.survivabilityMode.fallbackCapacity ∧
        (F64.ofNat config.survivabilityMode.fallbackCapacity).le
          (.finite config.survivabilityMode.fallbackCapacity) = true ∧
        (config.survivabilityMode.fallbackCapacity ≤ 2 ^ 53 → FallbackValid config)) := by
  refine ⟨fallbackSound_of_valid henabled, fun h => ?_⟩
  refine ⟨h.capacity_pos henabled, h.capacity_exact henabled, fun hsmall => ?_⟩
  refine ⟨h.capacity_pos henabled, h.capacity_exact henabled, Or.inl ?_⟩
  cases hrate : config.survivabilityMode.fallbackRefillRatePerSec with
  | nan => rfl
  | posInf =>
    rw [asSecsF64_maxDuration]
    rfl
  | negInf => exact absurd hrate (h.rate_ne_negInf henabled hsmall)
  | finite rate => exact h.refills henabled hsmall hrate

/-- Sound settings of both kinds: a rate without a limit, and no rate at all for a capacity so
large that no second call takes anything. -/
theorem fallback_sound_by_settings_unlimited :
    let unlimited : RateLimitsConfig := ⟨"redis:6379", "rl", false, ⟨true, 5, .posInf⟩⟩
    let large : RateLimitsConfig := ⟨"redis:6379", "rl", false, ⟨true, 2 ^ 54, .finite 0⟩⟩
    (unlimited.survivabilityMode.enabled = true ∧ FallbackValid unlimited ∧
      FallbackSound unlimited) ∧
    large.survivabilityMode.enabled = true ∧ FallbackValid large ∧ FallbackSound large := by
  intro unlimited large
  have hunlimited : FallbackValid unlimited := by decide +kernel
  have hlarge : FallbackValid large := by decide +kernel
  exact ⟨⟨rfl, hunlimited, (fallback_sound_by_settings unlimited rfl).1 hunlimited⟩, rfl, hlarge,
    (fallback_sound_by_settings large rfl).1 hlarge⟩

/-- A valid config with the given settings of the local buckets. -/
def withFallback (mode : SurvivabilityMode) : GatewayConfig :=
  let cfg := Validation.minimalConfig [Validation.minimalRoute "api" ["*"] "/"]
  { cfg with rateLimits := { cfg.rateLimits with survivabilityMode := mode } }

/-- Validation accepts buckets that hold nothing, buckets that lose tokens, and buckets that hold
more than their capacity. -/
theorem fallback_accepted_unsound :
    (Validation.validate (fun _ => true) (withFallback ⟨true, 0, .finite 1⟩) = .ok () ∧
      ¬ FallbackSound (withFallback ⟨true, 0, .finite 1⟩).rateLimits) ∧
    (Validation.validate (fun _ => true) (withFallback ⟨true, 5, .finite (-1)⟩) = .ok () ∧
      ¬ FallbackSound (withFallback ⟨true, 5, .finite (-1)⟩).rateLimits) ∧
    (Validation.validate (fun _ => true) (withFallback ⟨true, 9007199254740995, .finite 1⟩) =
        .ok () ∧
      ¬ FallbackSound (withFallback ⟨true, 9007199254740995, .finite 1⟩).rateLimits) := by
  refine ⟨⟨by decide, fun h => ?_⟩, ⟨by decide, fun h => ?_⟩, by decide, fun h => ?_⟩
  · exact absurd (h.capacity_pos rfl) (by decide)
  · exact absurd (h.refills rfl (by decide) rfl) (by decide +kernel)
  · exact absurd (h.capacity_exact rfl) (by decide +kernel)

end RateLimit
end OpenApiGateway
