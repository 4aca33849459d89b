import Mathlib.Data.List.AList
import Mathlib.Data.List.Induction
import OpenApiGateway.RateLimit.Bucket
import OpenApiGateway.RateLimit.Lua

/-!
# The rate limiter

`controlplane/src/ratelimit/limiter.rs`. A limiter holds at most one connection to Redis and a
local bucket per key for the time Redis is away. What Redis and the clocks do in one call is
given with the call: whether the script ran, and whether its reply came back in time. The
connection lock is held for the whole of a call, so that calls come one after the other.

`check_redis_iff` says when a call is decided by Redis at all: `check` uses a connection but
never makes one. `recovers_iff_reconnected` draws the conclusion for whole runs.
-/

namespace OpenApiGateway
namespace RateLimit

/-! ## State and calls -/

/-- Token bucket rate limiter backed by Redis + Lua with in-memory fallback. -/
structure RateLimiter where
  config : RateLimitsConfig
  /-- `conn` holds a connection. -/
  connected : Bool
  fallback : AList fun _ : String => LocalBucket

/-- The hashes of the buckets in Redis. -/
abbrev Redis := AList fun _ : String => BucketHash

def Redis.hash (redis : Redis) (key : String) : BucketHash := (redis.lookup key).getD {}

/-- The limiter and the Redis it talks to. -/
structure System where
  limiter : RateLimiter
  redis : Redis

/-- How the invocation of the script goes. A failed one has an error message, or none when it
ran into the timeout. -/
inductive Invocation where
  | replied
  /-- The script ran, but its reply was lost or came too late. -/
  | lost (error : Option String)
  | notRun (error : Option String)
deriving DecidableEq

/-- What one call of `check` meets: the clock it sends to Redis, how the invocation goes, and
the local clock when a bucket is made and when it is refilled. -/
structure Call where
  nowMs : ℕ
  invocation : Invocation
  created : ℕ
  instant : ℕ
deriving DecidableEq

/-- What one call of `ping` meets: whether the connection answers, if there is one, and
whether a new one can be made. -/
structure PingOutcome where
  pong : Bool
  reconnected : Bool
deriving DecidableEq

/-- Build and attempt initial Redis connection. -/
def RateLimiter.fromConfig (config : RateLimitsConfig) (connected : Bool) : RateLimiter :=
  ⟨config, connected, ∅⟩

/-! ## Operations -/

namespace System

section
variable [Arithmetic]

def disconnect (s : System) : System :=
  { s with limiter := { s.limiter with connected := false } }

/-- The run of the script for a call. -/
def scriptRun (s : System) (bucketKey : String) (capacity : ℕ) (refillRate : F64) (call : Call) :
    ScriptRun :=
  luaScript (s.redis.hash bucketKey) (F64.ofNat call.nowMs) (F64.ofNat capacity) refillRate
    (F64.ofNat 1) (F64.ofNat (ttlSeconds capacity refillRate))

/-- The script is run in a call. -/
def ranScript (s : System) (call : Call) : Bool :=
  s.limiter.connected && match call.invocation with
    | .notRun _ => false
    | _ => true

def store (s : System) (bucketKey : String) (run : ScriptRun) : System :=
  { s with redis := s.redis.insert bucketKey run.hash }

/-- The error of an invocation that failed. -/
def invocationError : Option String → RateLimitError
  | some message => .redisCommand message
  | none => .timeout

/-- Ask Redis. The message of a parse error, which nothing reads, is left empty. -/
def tryRedis (s : System) (bucketKey : String) (capacity : ℕ) (refillRate : F64) (call : Call) :
    Except RateLimitError RateDecision × System :=
  if s.limiter.connected then
    let run := s.scriptRun bucketKey capacity refillRate call
    match call.invocation with
    | .replied =>
      match LuaResponse.fromStr run.reply.text with
      | some resp =>
        (.ok ⟨resp.allowed == 1, capacity, resp.remainingTokens, resp.retryAfterMs, .redis⟩,
          s.store bucketKey run)
      -- the script has run, and the connection is kept
      | none => (.error (.luaResponseParse ""), s.store bucketKey run)
    -- any failed invocation drops the connection, whether the script ran or not
    | .lost error => (.error (invocationError error), (s.store bucketKey run).disconnect)
    | .notRun error => (.error (invocationError error), s.disconnect)
  else (.error (.redisConnect "no active connection"), s)

/-- The local bucket of a key, made full if there is none. -/
def fallbackBucket (s : System) (bucketKey : String) (call : Call) : LocalBucket :=
  (s.limiter.fallback.lookup bucketKey).getD
    (.new (F64.ofNat s.limiter.config.survivabilityMode.fallbackCapacity)
      s.limiter.config.survivabilityMode.fallbackRefillRatePerSec call.created)

def setFallback (s : System) (bucketKey : String) (bucket : LocalBucket) : System :=
  { s with limiter :=
    { s.limiter with fallback := s.limiter.fallback.insert bucketKey bucket } }

def enterDegraded (s : System) (bucketKey : String) (capacity : ℕ) (call : Call) :
    Except RateLimitError RateDecision × System :=
  if s.limiter.config.survivabilityMode.enabled then
    let (consumed, bucket) := (s.fallbackBucket bucketKey call).tryConsume call.instant
    (.ok ⟨consumed.allowed, s.limiter.config.survivabilityMode.fallbackCapacity,
        consumed.remaining, consumed.retryAfterMs, .degradedLocal⟩,
      s.setFallback bucketKey bucket)
  else if s.limiter.config.failOpen then (.ok ⟨true, capacity, capacity, 0, .failOpen⟩, s)
  else (.error .unavailable, s)

/-- Check (and deduct) one token for the given bucket key. -/
def check (s : System) (bucketKey : String) (capacity : ℕ) (refillRate : F64) (call : Call) :
    Except RateLimitError RateDecision × System :=
  match s.tryRedis bucketKey capacity refillRate call with
  | (.ok decision, s) => (.ok decision, s)
  | (.error _, s) => s.enterDegraded bucketKey capacity call

/-- Ping Redis, and try to reconnect if that fails or there is no connection. -/
def ping (s : System) (outcome : PingOutcome) : Bool × System :=
  if s.limiter.connected && outcome.pong then (true, s)
  else if outcome.reconnected then
    (true, { s with limiter := { s.limiter with connected := true } })
  else (false, s.disconnect)

end

end System

/-! ## Runs -/

inductive Op where
  | check (bucketKey : String) (capacity : ℕ) (refillRate : F64) (call : Call)
  | ping (outcome : PingOutcome)
deriving DecidableEq

namespace System

section
variable [Arithmetic]

def apply (s : System) : Op → System
  | .check bucketKey capacity refillRate call => (s.check bucketKey capacity refillRate call).2
  | .ping outcome => (s.ping outcome).2

/-- The state after a sequence of operations. -/
def after (s : System) (ops : List Op) : System := ops.foldl apply s

@[simp] theorem after_nil (s : System) : s.after [] = s := rfl

theorem after_append (s : System) (ops ops' : List Op) :
    s.after (ops ++ ops') = (s.after ops).after ops' :=
  List.foldl_append

theorem after_concat (s : System) (ops : List Op) (op : Op) :
    s.after (ops ++ [op]) = (s.after ops).apply op := by
  rw [after_append]
  rfl

end

end System

/-! ## What a check leaves alone -/

@[simp] theorem setFallback_redis (s : System) (bucketKey : String) (bucket : LocalBucket) :
    (s.setFallback bucketKey bucket).redis = s.redis := rfl

@[simp] theorem setFallback_fallback (s : System) (bucketKey : String) (bucket : LocalBucket) :
    (s.setFallback bucketKey bucket).limiter.fallback =
      s.limiter.fallback.insert bucketKey bucket := rfl

section Frame
variable {s : System} {bucketKey key : String} {capacity : ℕ} {refillRate : F64} {call : Call}

theorem hash_store_self (run : ScriptRun) :
    (s.store bucketKey run).redis.hash bucketKey = run.hash := by
  simp [System.store, Redis.hash, AList.lookup_insert]

theorem hash_store_of_ne (hkey : key ≠ bucketKey) (run : ScriptRun) :
    (s.store bucketKey run).redis.hash key = s.redis.hash key := by
  simp [System.store, Redis.hash, AList.lookup_insert_ne hkey]

/-- A ping is about the connection only. -/
theorem ping_frame (s : System) (outcome : PingOutcome) :
    (s.ping outcome).2.limiter.config = s.limiter.config ∧
      (s.ping outcome).2.redis = s.redis ∧
      (s.ping outcome).2.limiter.fallback = s.limiter.fallback := by
  unfold System.ping
  split
  · exact ⟨rfl, rfl, rfl⟩
  · split <;> exact ⟨rfl, rfl, rfl⟩

theorem ping_connected (s : System) (outcome : PingOutcome) :
    (s.ping outcome).2.limiter.connected =
      (s.limiter.connected && outcome.pong || outcome.reconnected) := by
  unfold System.ping
  split
  · rename_i hpong
    rw [Bool.and_eq_true] at hpong
    simp [hpong.1, hpong.2]
  · rename_i hpong
    split
    · rename_i hreconnected
      simp [hreconnected]
    · rename_i hreconnected
      simp [System.disconnect, hpong, hreconnected]

variable [Arithmetic]

theorem enterDegraded_of_enabled (henabled : s.limiter.config.survivabilityMode.enabled = true)
    (bucketKey : String) (capacity : ℕ) (call : Call) :
    s.enterDegraded bucketKey capacity call =
      (.ok ⟨((s.fallbackBucket bucketKey call).tryConsume call.instant).1.allowed,
          s.limiter.config.survivabilityMode.fallbackCapacity,
          ((s.fallbackBucket bucketKey call).tryConsume call.instant).1.remaining,
          ((s.fallbackBucket bucketKey call).tryConsume call.instant).1.retryAfterMs,
          .degradedLocal⟩,
        s.setFallback bucketKey
          ((s.fallbackBucket bucketKey call).tryConsume call.instant).2) := by
  unfold System.enterDegraded
  rw [if_pos henabled]

theorem enterDegraded_of_disabled (hdisabled : s.limiter.config.survivabilityMode.enabled = false)
    (bucketKey : String) (capacity : ℕ) (call : Call) :
    s.enterDegraded bucketKey capacity call =
      (if s.limiter.config.failOpen then .ok ⟨true, capacity, capacity, 0, .failOpen⟩
        else .error .unavailable, s) := by
  unfold System.enterDegraded
  rw [if_neg (by simp [hdisabled])]
  split
  · rfl
  · rfl

theorem enterDegraded_connected :
    (s.enterDegraded bucketKey capacity call).2.limiter.connected = s.limiter.connected := by
  unfold System.enterDegraded
  split
  · rfl
  · split <;> rfl

theorem enterDegraded_mode {decision : RateDecision}
    (h : (s.enterDegraded bucketKey capacity call).1 = .ok decision) :
    decision.mode ≠ .redis := by
  unfold System.enterDegraded at h
  split at h
  · rw [← Except.ok.inj h]
    simp
  · split at h
    · rw [← Except.ok.inj h]
      simp
    · simp at h

end Frame

/-! ## The connection -/

section Connection
variable [Arithmetic] {s : System} {bucketKey : String} {capacity : ℕ}
  {refillRate : F64} {call : Call}

/-- A check is either decided by Redis, or goes on in degraded mode from a state in which at
most the hash of its key and the connection have changed. -/
theorem check_cases (s : System) (bucketKey : String) (capacity : ℕ) (refillRate : F64)
    (call : Call) :
    (s.limiter.connected = true ∧ call.invocation = .replied ∧ ∃ resp,
      LuaResponse.fromStr (s.scriptRun bucketKey capacity refillRate call).reply.text = some resp ∧
      s.check bucketKey capacity refillRate call =
        (.ok ⟨resp.allowed == 1, capacity, resp.remainingTokens, resp.retryAfterMs, .redis⟩,
          s.store bucketKey (s.scriptRun bucketKey capacity refillRate call))) ∨
    (¬ (s.limiter.connected = true ∧ call.invocation = .replied ∧
        (LuaResponse.fromStr
          (s.scriptRun bucketKey capacity refillRate call).reply.text).isSome = true) ∧
      ∃ s' : System,
        s'.redis = (if s.ranScript call then
            (s.store bucketKey (s.scriptRun bucketKey capacity refillRate call)).redis
          else s.redis) ∧
        s'.limiter.config = s.limiter.config ∧
        s'.limiter.fallback = s.limiter.fallback ∧
        s'.limiter.connected = (s.limiter.connected && decide (call.invocation = .replied)) ∧
        s.check bucketKey capacity refillRate call = s'.enterDegraded bucketKey capacity call) := by
  unfold System.check System.tryRedis System.ranScript
  cases hconnected : s.limiter.connected with
  -- no connection: Redis is not asked
  | false =>
    refine Or.inr ⟨by simp, s, ?_, rfl, rfl, ?_, ?_⟩
    · simp
    · rw [hconnected, Bool.false_and]
    · simp
  | true =>
    cases hinvocation : call.invocation with
    | replied =>
      cases hread : LuaResponse.fromStr
          (s.scriptRun bucketKey capacity refillRate call).reply.text with
      | some resp => exact Or.inl ⟨rfl, rfl, resp, rfl, by simp [hread]⟩
      -- a reply that cannot be read; the script has run
      | none =>
        refine Or.inr ⟨by simp, s.store bucketKey
          (s.scriptRun bucketKey capacity refillRate call), ?_, rfl, rfl, ?_, ?_⟩
        · simp
        · simp [System.store, hconnected]
        · simp [hread]
    | lost error =>
      refine Or.inr ⟨by simp, (s.store bucketKey
        (s.scriptRun bucketKey capacity refillRate call)).disconnect, ?_, rfl, rfl, ?_, ?_⟩
      · simp [System.disconnect]
      · simp [System.disconnect]
      · simp
    | notRun error =>
      refine Or.inr ⟨by simp, s.disconnect, ?_, rfl, rfl, ?_, ?_⟩
      · simp [System.disconnect]
      · simp [System.disconnect]
      · simp

/-- No operation changes the config. -/
theorem apply_config (s : System) (op : Op) :
    (s.apply op).limiter.config = s.limiter.config := by
  cases op with
  | ping outcome => exact (ping_frame s outcome).1
  | check bucketKey capacity refillRate call =>
    show (s.check bucketKey capacity refillRate call).2.limiter.config = _
    rcases check_cases s bucketKey capacity refillRate call with
      ⟨-, -, resp, -, hcheck⟩ | ⟨-, s', -, hconfig, -, -, hcheck⟩
    · rw [hcheck]
      rfl
    · rw [hcheck, ← hconfig]
      cases henabled : s'.limiter.config.survivabilityMode.enabled with
      | true =>
        rw [enterDegraded_of_enabled henabled]
        rfl
      | false => rw [enterDegraded_of_disabled henabled]

/-- What the limiter and Redis keep for one key, with the limiter's config. -/
structure KeyView where
  config : RateLimitsConfig
  hash : BucketHash
  bucket : Option LocalBucket

def System.view (key : String) (s : System) : KeyView :=
  ⟨s.limiter.config, s.redis.hash key, s.limiter.fallback.lookup key⟩

theorem enterDegraded_view_of_ne {key : String} (hkey : key ≠ bucketKey) :
    (s.enterDegraded bucketKey capacity call).2.view key = s.view key := by
  cases henabled : s.limiter.config.survivabilityMode.enabled with
  | true =>
    rw [enterDegraded_of_enabled henabled]
    simp [System.view, System.setFallback, AList.lookup_insert_ne hkey]
  | false => rw [enterDegraded_of_disabled henabled]

/-- A check leaves every other key alone. -/
theorem check_view_of_ne {key : String} (hkey : key ≠ bucketKey) :
    (s.check bucketKey capacity refillRate call).2.view key = s.view key := by
  rcases check_cases s bucketKey capacity refillRate call with
    ⟨-, -, resp, -, hcheck⟩ | ⟨-, s', hredis, hconfig, hfallback, -, hcheck⟩
  · rw [hcheck]
    simp only [System.view, hash_store_of_ne hkey]
    rfl
  · rw [hcheck, enterDegraded_view_of_ne hkey, System.view, hredis, hconfig, hfallback]
    split
    · rw [hash_store_of_ne hkey]
      rfl
    · rfl

/-- A check keeps the connection it found only if the invocation was answered. -/
theorem check_connected :
    (s.check bucketKey capacity refillRate call).2.limiter.connected =
      (s.limiter.connected && decide (call.invocation = .replied)) := by
  rcases check_cases s bucketKey capacity refillRate call with
    ⟨hconnected, hreplied, resp, -, hcheck⟩ | ⟨-, s', -, -, -, hconnected, hcheck⟩
  · rw [hcheck, hconnected, hreplied]
    exact hconnected
  · rw [hcheck, enterDegraded_connected, hconnected]

/-- A call is decided by Redis if and only if there is a connection, the reply comes back and
it can be read. -/
theorem check_redis_iff :
    (∃ decision, (s.check bucketKey capacity refillRate call).1 = .ok decision ∧
        decision.mode = .redis) ↔
      s.limiter.connected = true ∧ call.invocation = .replied ∧
        (LuaResponse.fromStr (s.scriptRun bucketKey capacity refillRate call).reply.text).isSome
          = true := by
  rcases check_cases s bucketKey capacity refillRate call with
    ⟨hconnected, hreplied, resp, hresp, hcheck⟩ | ⟨hnot, s', -, -, -, -, hcheck⟩
  · rw [hcheck]
    constructor
    · intro _
      exact ⟨hconnected, hreplied, by rw [hresp]; rfl⟩
    · intro _
      exact ⟨_, rfl, rfl⟩
  · rw [hcheck]
    constructor
    · rintro ⟨decision, hdecision, hmode⟩
      exact absurd hmode (enterDegraded_mode hdecision)
    · intro h
      exact absurd h hnot

end Connection

/-- Whether the limiter holds a connection after an operation, from the outcome of the
operation alone: a check that is not answered loses it, and only a ping makes a new one. -/
def Op.connection (connected : Bool) : Op → Bool
  | .check _ _ _ call => connected && decide (call.invocation = .replied)
  | .ping outcome => connected && outcome.pong || outcome.reconnected

/-- Since the last operation that lost the connection, a ping has made a new one. -/
def Reconnected (connected : Bool) (ops : List Op) : Prop :=
  ops.foldl Op.connection connected = true

instance (connected : Bool) (ops : List Op) : Decidable (Reconnected connected ops) :=
  inferInstanceAs (Decidable (_ = true))

section Recovery
variable [Arithmetic]

theorem after_connected (s : System) (ops : List Op) :
    (s.after ops).limiter.connected = ops.foldl Op.connection s.limiter.connected := by
  induction ops using List.reverseRecOn with
  | nil => rfl
  | append_singleton ops op ih =>
    rw [System.after_concat, List.foldl_append, ← ih]
    cases op with
    | check bucketKey capacity refillRate call => exact check_connected
    | ping outcome => exact ping_connected _ outcome

/-- After any sequence of checks and pings, a call whose script would be answered with a
readable reply is decided by Redis if and only if a ping has made up for the last failure. -/
theorem recovers_iff_reconnected (config : RateLimitsConfig) (connected : Bool) (redis : Redis)
    (ops : List Op) (bucketKey : String) (capacity : ℕ) (refillRate : F64) (call : Call)
    (hreplied : call.invocation = .replied)
    (hread : (LuaResponse.fromStr
      ((System.after ⟨.fromConfig config connected, redis⟩ ops).scriptRun bucketKey capacity
        refillRate call).reply.text).isSome = true) :
    (∃ decision,
        ((System.after ⟨.fromConfig config connected, redis⟩ ops).check bucketKey capacity
          refillRate call).1 = .ok decision ∧ decision.mode = .redis) ↔
      Reconnected connected ops := by
  rw [check_redis_iff, after_connected]
  constructor
  · rintro ⟨hconnected, -⟩
    exact hconnected
  · intro hconnected
    exact ⟨hconnected, hreplied, hread⟩

end Recovery

/-! ### One timeout -/

section
open scoped Binary64

/-- No local buckets, and open when Redis is away. -/
def failOpenLimits : RateLimitsConfig :=
  { redisAddress := "redis:6379", redisKeyPrefix := "rl", failOpen := true
    survivabilityMode := ⟨false, 5, .finite 1⟩ }

/-- A check at some time, with the same reading of all clocks. -/
def callAt (ms : ℕ) (invocation : Invocation) : Call :=
  ⟨ms, invocation, ms * 10 ^ 6, ms * 10 ^ 6⟩

/-- One call that runs into the timeout. -/
def oneTimeout : List Op :=
  [.check "rl:api:ip:10.0.0.1" 10 (.finite 5) (callAt 1000 (.notRun none))]

theorem recovers_iff_reconnected_ping :
    ∃ decision,
      ((System.after ⟨.fromConfig failOpenLimits true, ∅⟩
          (oneTimeout ++ [.ping ⟨false, true⟩])).check "rl:api:ip:10.0.0.1" 10 (.finite 5)
        (callAt 2000 .replied)).1 = .ok decision ∧ decision.mode = .redis := by
  have hiff := recovers_iff_reconnected failOpenLimits true ∅ (oneTimeout ++ [.ping ⟨false, true⟩])
    "rl:api:ip:10.0.0.1" 10 (.finite 5) (callAt 2000 .replied) rfl (by decide +kernel)
  exact hiff.mpr (by decide)

/-- After one timeout Redis answers again, and the limiter still lets everything pass without
asking it. -/
theorem no_recovery_without_ping :
    (callAt 2000 .replied).invocation = .replied ∧
      (LuaResponse.fromStr
        ((System.after ⟨.fromConfig failOpenLimits true, ∅⟩ oneTimeout).scriptRun
          "rl:api:ip:10.0.0.1" 10 (.finite 5) (callAt 2000 .replied)).reply.text).isSome = true ∧
      ((System.after ⟨.fromConfig failOpenLimits true, ∅⟩ oneTimeout).check
        "rl:api:ip:10.0.0.1" 10 (.finite 5) (callAt 2000 .replied)).1 =
          .ok ⟨true, 10, 10, 0, .failOpen⟩ := by
  refine ⟨rfl, ?_, ?_⟩
  · decide +kernel
  · decide +kernel

end

end RateLimit
end OpenApiGateway
