import OpenApiGateway.RateLimit.Limiter

/-!
# How many calls the limiter admits

A run of checks and pings in exact arithmetic, with any outcome of any call, any clocks towards
Redis and a local clock that does not go backwards. The calls on one key all bring the same capacity
and rate. Two balances are kept along such a run: the hash of the key pays for the script runs that
were admitted (`RedisBalance`), whether or not their replies came back, and its local bucket for the
calls admitted in degraded mode (`LocalBalance`). `admissions_bounded` reads the bounds off them,
for any stretch of a run.
-/

namespace OpenApiGateway
namespace RateLimit

open Lib.TokenBucket

/-! ## Records of calls -/

/-- What is recorded of a call: its clocks, whether the script ran and took a token, and what
was returned. -/
structure CallRecord where
  nowMs : ℕ
  instant : ℕ
  admitted : Bool
  result : Except RateLimitError RateDecision
deriving DecidableEq

namespace CallRecord

/-- The call was allowed in the given mode. -/
def allowedIn (mode : RateLimitMode) (record : CallRecord) : Bool :=
  match record.result with
  | .ok decision => decision.allowed && decide (decision.mode = mode)
  | .error _ => false

end CallRecord

namespace System

section
variable [Arithmetic]

/-- The record of a check. -/
def recordOf (s : System) (bucketKey : String) (capacity : ℕ) (refillRate : F64) (call : Call) :
    CallRecord where
  nowMs := call.nowMs
  instant := call.instant
  admitted := s.ranScript call && (s.scriptRun bucketKey capacity refillRate call).reply.allowed
  result := (s.check bucketKey capacity refillRate call).1

/-- The record of an operation, if it is a check on the key. -/
def record (s : System) (key : String) : Op → Option CallRecord
  | .check bucketKey capacity refillRate call =>
    if bucketKey = key then some (s.recordOf bucketKey capacity refillRate call) else none
  | .ping _ => none

/-- The records of the checks on a key. -/
def records (key : String) : System → List Op → List CallRecord
  | _, [] => []
  | s, op :: ops => (s.record key op).toList ++ records key (s.apply op) ops

theorem records_concat (key : String) (s : System) (ops : List Op) (op : Op) :
    s.records key (ops ++ [op]) = s.records key ops ++ ((s.after ops).record key op).toList := by
  induction ops generalizing s with
  | nil => simp [records]
  | cons first ops ih =>
    rw [List.cons_append, records, records, ih, List.append_assoc]
    rfl

end

end System

/-- Times sent to Redis by the calls whose script run was admitted. -/
def admittedTimes (calls : List CallRecord) : List ℚ :=
  (calls.filter CallRecord.admitted).map fun record => (record.nowMs : ℚ)

/-- Local times, in seconds, of the calls allowed in degraded mode. -/
def localTimes (calls : List CallRecord) : List ℚ :=
  (calls.filter (CallRecord.allowedIn .degradedLocal)).map fun record =>
    (record.instant : ℚ) / 10 ^ 9

/-- A number of calls is within a capacity and a rate over the time from the first to the
last of some moments; without moments there are none. -/
def WithinRate (capacity rate : ℚ) (moments : List ℚ) (count : ℕ) : Prop :=
  (moments = [] → count = 0) ∧
    ∀ first last, moments.head? = some first → moments.getLast? = some last →
      (count : ℚ) ≤ capacity + rate * (last - first)

/-! ## The Redis side -/

open scoped ExactArithmetic

/-- The hash of a key is empty or holds between nothing and a full bucket, as of the last
admission, and pays for the admissions. -/
def RedisBalance (capacity rate : ℚ) (hash : BucketHash) (admitted : List ℚ) : Prop :=
  (hash = {} ∧ admitted = []) ∨ ∃ tokens last, hash = finiteHash tokens last ∧
    0 ≤ tokens ∧ tokens ≤ capacity ∧ Funded capacity (rate / 1000) tokens last admitted ∧
    ∀ time, admitted.getLast? = some time → time = last

section RedisSide
variable {capacity rate : ℚ} {hash : BucketHash} {admitted : List ℚ}

/-- A run of the script keeps the balance, and the caller reads from its reply no more than
it leaves. -/
theorem RedisBalance.script (h : RedisBalance capacity rate hash admitted)
    (hcapacity : 1 ≤ capacity) (now : ℚ) (ttl : F64) :
    let run := luaScript hash (.finite now) (.finite capacity) (.finite rate) (.finite 1) ttl
    RedisBalance capacity rate run.hash
        (if run.reply.allowed then admitted ++ [now] else admitted) ∧
      ∀ resp, LuaResponse.fromStr run.reply.text = some resp →
        (resp.allowed == 1) = run.reply.allowed ∧ (resp.remainingTokens : ℚ) ≤ capacity := by
  -- what is read of an admitted call's reply
  have hread : ∀ left : ℚ, left ≤ capacity → ∀ resp,
      LuaResponse.fromStr (admittedReply left).text = some resp →
      (resp.allowed == 1) = true ∧ (resp.remainingTokens : ℚ) ≤ capacity := by
    intro left hleft resp hresp
    rw [fromStr_text] at hresp
    simp only [admittedReply, if_true, Option.map_eq_some_iff, formatG14] at hresp
    obtain ⟨n, hn, rfl⟩ := hresp
    have hfloor := (of_readUnsigned_formatWhole hn).1
    rw [Int.floor_intCast] at hfloor
    refine ⟨rfl, ?_⟩
    have hle : ((⌊left⌋ : ℤ) : ℚ) ≤ left := Int.floor_le left
    rw [hfloor] at hle
    push_cast at hle
    linarith
  rcases h with ⟨rfl, rfl⟩ | ⟨tokens, last, rfl, htokens, hle, hfunded, hlast⟩
  · rw [luaScript_empty hcapacity]
    refine ⟨Or.inr ⟨capacity - 1, now, rfl, by linarith, by linarith, ?_, ?_⟩, ?_⟩
    · simp only [admittedReply, if_true]
      have hempty : Funded capacity (rate / 1000) 0 0 [] := Funded.nil
      exact hempty.after_admission (by linarith) (by simp)
    · intro time htime
      simp only [admittedReply, if_true, List.nil_append, List.getLast?_singleton,
        Option.some.injEq] at htime
      exact htime.symm
    · exact hread _ (by linarith)
  · rw [luaScript_finiteHash]
    set refilled := level capacity rate tokens ((now - last) / 1000) with hrefilled
    have hgain : refilled ≤ tokens + rate / 1000 * (now - last) := by
      have hadd : refilled ≤ tokens + rate * ((now - last) / 1000) := level_le_add
      have heq : rate * ((now - last) / 1000) = rate / 1000 * (now - last) := by ring
      rwa [heq] at hadd
    have hfull : refilled ≤ capacity := level_le_capacity
    by_cases hone : 1 ≤ refilled
    · simp only [if_pos hone]
      refine ⟨Or.inr ⟨refilled - 1, now, rfl, by linarith, by linarith, ?_, ?_⟩, ?_⟩
      · simp only [admittedReply, if_true]
        exact hfunded.after_admission (by linarith) (fun _ => by linarith)
      · intro time htime
        simp only [admittedReply, if_true, List.getLast?_concat, Option.some.injEq] at htime
        exact htime.symm
      · exact hread _ (by linarith)
    · -- a denied call leaves the hash as it was
      simp only [if_neg hone]
      refine ⟨Or.inr ⟨tokens, last, rfl, htokens, hle, hfunded, hlast⟩, ?_⟩
      intro resp hresp
      rw [fromStr_text] at hresp
      simp only [deniedReply, Bool.false_eq_true, if_false, Option.map_eq_some_iff] at hresp
      obtain ⟨n, -, rfl⟩ := hresp
      refine ⟨rfl, ?_⟩
      push_cast
      linarith

/-- A balanced hash bounds any number of calls no greater than the admissions. -/
theorem RedisBalance.withinRate (h : RedisBalance capacity rate hash admitted) {count : ℕ}
    (hcount : count ≤ admitted.length) : WithinRate capacity (rate / 1000) admitted count := by
  refine ⟨?_, ?_⟩
  · rintro rfl
    simpa using hcount
  · intro first last hfirst hlast
    rcases h with ⟨-, rfl⟩ | ⟨tokens, time, -, htokens, -, hfunded, htime⟩
    · simp at hfirst
    · have hbound := hfunded.length_le htokens hfirst
      rw [← htime last hlast] at hbound
      have hcast : (count : ℚ) ≤ admitted.length := by exact_mod_cast hcount
      linarith

/-- The balance does not depend on where the counting starts. -/
theorem RedisBalance.restart (h : RedisBalance capacity rate hash admitted) :
    RedisBalance capacity rate hash [] := by
  rcases h with ⟨rfl, -⟩ | ⟨tokens, last, rfl, htokens, hle, -, -⟩
  · exact Or.inl ⟨rfl, rfl⟩
  · exact Or.inr ⟨tokens, last, rfl, htokens, hle, Funded.nil, by simp⟩

end RedisSide

/-! ## The local side -/

/-- The local bucket of a key, if there is one, is no more than full and pays for the calls
allowed from it; up to the last of these, they are within its rate. -/
structure LocalBalance (capacity rate : ℚ) (bucket : Option LocalBucket) (times : List ℚ) :
    Prop where
  funded : (bucket = none ∧ times = []) ∨ ∃ tokens last,
    bucket = some (finiteBucket tokens capacity rate last) ∧ tokens ≤ capacity ∧
      Funded capacity rate tokens ((last : ℚ) / 10 ^ 9) times
  within : WithinRate capacity rate times times.length

section LocalSide
variable {capacity rate : ℚ} {bucket : Option LocalBucket} {times : List ℚ}

theorem LocalBalance.restart (h : LocalBalance capacity rate bucket times) :
    LocalBalance capacity rate bucket [] := by
  refine ⟨?_, fun _ => rfl, by simp⟩
  rcases h.funded with ⟨rfl, -⟩ | ⟨tokens, last, rfl, hle, -⟩
  · exact Or.inl ⟨rfl, rfl⟩
  · exact Or.inr ⟨tokens, last, rfl, hle, Funded.nil⟩

/-- A call on the bucket, made full at `created` if there is none, keeps the balance and
leaves no more than the capacity. -/
theorem LocalBalance.tryConsume (h : LocalBalance capacity rate bucket times) {created now : ℕ}
    (hcreated : created ≤ now) (hlast : ∀ b, bucket = some b → b.lastRefill ≤ now) :
    let call := (bucket.getD (.new (.finite capacity) (.finite rate) created)).tryConsume now
    LocalBalance capacity rate (some call.2)
        (if call.1.allowed then times ++ [(now : ℚ) / 10 ^ 9] else times) ∧
      ((call.1.remaining : ℚ) ≤ capacity ∨ call.1.remaining = 0) ∧ call.2.lastRefill = now := by
  -- the bucket that is used: the one that is there, or a new one
  obtain ⟨tokens, last, hbucket, hle, hfunded, hbefore⟩ :
      ∃ tokens last, bucket.getD (.new (.finite capacity) (.finite rate) created) =
          finiteBucket tokens capacity rate last ∧ tokens ≤ capacity ∧
        Funded capacity rate tokens ((last : ℚ) / 10 ^ 9) times ∧ last ≤ now := by
    rcases h.funded with ⟨rfl, rfl⟩ | ⟨tokens, last, rfl, hle, hfunded⟩
    · exact ⟨capacity, created, rfl, le_refl _, Funded.nil, hcreated⟩
    · exact ⟨tokens, last, rfl, hle, hfunded, hlast _ rfl⟩
  rw [hbucket, tryConsume_finite]
  set refilled := level capacity rate tokens (secondsSince last now) with hrefilled
  have hfull : refilled ≤ capacity := level_le_capacity
  have hgain : refilled ≤ tokens + rate * ((now : ℚ) / 10 ^ 9 - (last : ℚ) / 10 ^ 9) := by
    rw [← secondsSince_eq hbefore]
    exact level_le_add
  by_cases hone : 1 ≤ refilled
  · simp only [if_pos hone, if_true]
    have hpaid : Funded capacity rate (refilled - 1) ((now : ℚ) / 10 ^ 9)
        (times ++ [(now : ℚ) / 10 ^ 9]) :=
      hfunded.after_admission (by linarith) (fun _ => by linarith)
    refine ⟨⟨Or.inr ⟨refilled - 1, now, rfl, by linarith, hpaid⟩, ?_, ?_⟩, Or.inl ?_, rfl⟩
    · simp
    · intro first last' hfirst hlast'
      rw [List.getLast?_concat, Option.some.injEq] at hlast'
      subst hlast'
      exact hpaid.length_le (by linarith) hfirst
    · have hnat : ((⌊refilled - 1⌋.toNat : ℕ) : ℚ) = (⌊refilled - 1⌋ : ℤ) := by
        have hnonneg : 0 ≤ ⌊refilled - 1⌋ := Int.floor_nonneg.mpr (by linarith)
        exact_mod_cast Int.toNat_of_nonneg hnonneg
      have hcast : (F64.finite (refilled - 1)).floor.toU64 ≤ ⌊refilled - 1⌋.toNat := by
        rw [F64.floor_finite, F64.toU64, Int.floor_intCast]
        exact Nat.min_le_left _ _
      have hcast' : (((F64.finite (refilled - 1)).floor.toU64 : ℕ) : ℚ) ≤
          (⌊refilled - 1⌋.toNat : ℕ) := by exact_mod_cast hcast
      have hfloor : ((⌊refilled - 1⌋ : ℤ) : ℚ) ≤ refilled - 1 := Int.floor_le _
      linarith
  · simp only [if_neg hone, Bool.false_eq_true, if_false]
    refine ⟨⟨Or.inr ⟨refilled, now, rfl, hfull, hfunded.refill hgain⟩, h.within⟩,
      Or.inr trivial, rfl⟩

end LocalSide

/-! ## Runs -/

/-- The readings of the local clock in an operation. -/
def Op.instants : Op → List ℕ
  | .check _ _ _ call => [call.created, call.instant]
  | .ping _ => []

/-- A check on the key brings this capacity and rate. -/
def Op.Uses (key : String) (capacity : ℕ) (refillRate : F64) : Op → Prop
  | .check bucketKey capacity' refillRate' _ =>
    bucketKey = key → capacity' = capacity ∧ refillRate' = refillRate
  | .ping _ => True

instance (key : String) (capacity : ℕ) (refillRate : F64) (op : Op) :
    Decidable (op.Uses key capacity refillRate) :=
  match op with
  | .check bucketKey capacity' refillRate' _ =>
    inferInstanceAs (Decidable (bucketKey = key → capacity' = capacity ∧ refillRate' = refillRate))
  | .ping _ => isTrue trivial

/-- The settings of a run: the limiter's config, and what the checks on the key bring. -/
structure Setting where
  config : RateLimitsConfig
  key : String
  capacity : ℕ
  rate : ℚ
  fallbackRate : ℚ
  enabled : config.survivabilityMode.enabled = true
  fallbackRate_eq : config.survivabilityMode.fallbackRefillRatePerSec = .finite fallbackRate
  capacity_pos : 1 ≤ capacity

/-- The state of a run whose checks on the key were `calls` and whose readings of the local
clock were `seen`. -/
structure Balanced (setting : Setting) (s : System) (calls : List CallRecord) (seen : List ℕ) :
    Prop where
  config : s.limiter.config = setting.config
  redis : RedisBalance setting.capacity setting.rate (s.redis.hash setting.key)
    (admittedTimes calls)
  fallback : LocalBalance setting.config.survivabilityMode.fallbackCapacity setting.fallbackRate
    (s.limiter.fallback.lookup setting.key) (localTimes calls)
  clock : ∀ bucket, s.limiter.fallback.lookup setting.key = some bucket → bucket.lastRefill ∈ seen
  admitted : ∀ record ∈ calls, record.allowedIn .redis = true → record.admitted = true
  remaining : ∀ record ∈ calls, ∀ decision, record.result = .ok decision →
    decision.remaining ≤ decision.limit

section Steps
variable {setting : Setting} {s : System} {calls : List CallRecord} {seen : List ℕ}

/-- Nothing of the key's is touched. -/
theorem Balanced.frame (h : Balanced setting s calls seen) {s' : System} (more : List ℕ)
    (hconfig : s'.limiter.config = s.limiter.config)
    (hhash : s'.redis.hash setting.key = s.redis.hash setting.key)
    (hfallback : s'.limiter.fallback.lookup setting.key =
      s.limiter.fallback.lookup setting.key) :
    Balanced setting s' calls (seen ++ more) where
  config := hconfig.trans h.config
  redis := hhash ▸ h.redis
  fallback := hfallback ▸ h.fallback
  clock := by
    intro bucket hbucket
    rw [hfallback] at hbucket
    exact List.mem_append_left _ (h.clock bucket hbucket)
  admitted := h.admitted
  remaining := h.remaining

/-- A check on another key. -/
theorem Balanced.check_of_ne (h : Balanced setting s calls seen) {bucketKey : String}
    (hkey : bucketKey ≠ setting.key) (capacity : ℕ) (refillRate : F64) (call : Call)
    (more : List ℕ) :
    Balanced setting (s.check bucketKey capacity refillRate call).2 calls (seen ++ more) := by
  have hview : (s.check bucketKey capacity refillRate call).2.view setting.key =
      s.view setting.key := check_view_of_ne hkey.symm
  obtain ⟨hconfig, hhash, hbucket⟩ := KeyView.mk.inj hview
  exact h.frame more hconfig hhash hbucket

theorem admittedTimes_concat (record : CallRecord) :
    admittedTimes (calls ++ [record]) =
      if record.admitted then admittedTimes calls ++ [(record.nowMs : ℚ)]
      else admittedTimes calls := by
  unfold admittedTimes
  rw [List.filter_append, List.map_append]
  cases hadmitted : record.admitted with
  | true => simp [hadmitted]
  | false => simp [hadmitted]

theorem localTimes_concat (record : CallRecord) :
    localTimes (calls ++ [record]) =
      if record.allowedIn .degradedLocal then localTimes calls ++ [(record.instant : ℚ) / 10 ^ 9]
      else localTimes calls := by
  unfold localTimes
  rw [List.filter_append, List.map_append]
  cases hallowed : record.allowedIn .degradedLocal with
  | true => simp [hallowed]
  | false => simp [hallowed]

/-- The script for a call on the key, in rationals. -/
theorem scriptRun_eq (key : String) (capacity : ℕ) (rate : ℚ) (call : Call) :
    s.scriptRun key capacity (.finite rate) call =
      luaScript (s.redis.hash key) (.finite call.nowMs) (.finite capacity) (.finite rate)
        (.finite 1) (F64.ofNat (ttlSeconds capacity (.finite rate))) := by
  simp [System.scriptRun, F64.ofNat_eq]

/-- One more call is recorded. -/
theorem Balanced.concat (h : Balanced setting s calls seen) {s' : System} {record : CallRecord}
    {more : List ℕ} (hconfig : s'.limiter.config = setting.config)
    (hredis : RedisBalance setting.capacity setting.rate (s'.redis.hash setting.key)
      (admittedTimes (calls ++ [record])))
    (hfallback : LocalBalance setting.config.survivabilityMode.fallbackCapacity
      setting.fallbackRate (s'.limiter.fallback.lookup setting.key)
        (localTimes (calls ++ [record])))
    (hclock : ∀ bucket, s'.limiter.fallback.lookup setting.key = some bucket →
      bucket.lastRefill ∈ seen ++ more)
    (hadmitted : record.allowedIn .redis = true → record.admitted = true)
    (hremaining : ∀ decision, record.result = .ok decision →
      decision.remaining ≤ decision.limit) :
    Balanced setting s' (calls ++ [record]) (seen ++ more) where
  config := hconfig
  redis := hredis
  fallback := hfallback
  clock := hclock
  admitted := List.forall_mem_append.mpr ⟨h.admitted, List.forall_mem_singleton.mpr hadmitted⟩
  remaining := List.forall_mem_append.mpr ⟨h.remaining, List.forall_mem_singleton.mpr hremaining⟩

/-- Whether or not the script ran, the hash pays for what it admitted. -/
theorem Balanced.hash_concat (h : Balanced setting s calls seen) (call : Call) {redis : Redis}
    (hredis : redis = if s.ranScript call then
      (s.store setting.key
        (s.scriptRun setting.key setting.capacity (.finite setting.rate) call)).redis
      else s.redis) :
    RedisBalance setting.capacity setting.rate (redis.hash setting.key)
      (admittedTimes
        (calls ++ [s.recordOf setting.key setting.capacity (.finite setting.rate) call])) := by
  have hscript := (h.redis.script (by exact_mod_cast setting.capacity_pos) call.nowMs
    (F64.ofNat (ttlSeconds setting.capacity (.finite setting.rate)))).1
  rw [← scriptRun_eq] at hscript
  rw [hredis, admittedTimes_concat]
  have hadmitted : (s.recordOf setting.key setting.capacity (.finite setting.rate) call).admitted =
      (s.ranScript call &&
        (s.scriptRun setting.key setting.capacity (.finite setting.rate) call).reply.allowed) := rfl
  rw [hadmitted]
  cases s.ranScript call with
  | true =>
    rw [if_pos rfl, hash_store_self, Bool.true_and]
    exact hscript
  | false => simpa using h.redis

/-- A check on the key that Redis decides; the local bucket is not touched. -/
theorem Balanced.check_redis (h : Balanced setting s calls seen) {call : Call} {resp : LuaResponse}
    (more : List ℕ) (hconnected : s.limiter.connected = true)
    (hreplied : call.invocation = .replied)
    (hresp : LuaResponse.fromStr
      (s.scriptRun setting.key setting.capacity (.finite setting.rate) call).reply.text = some resp)
    (hcheck : s.check setting.key setting.capacity (.finite setting.rate) call =
      (.ok ⟨resp.allowed == 1, setting.capacity, resp.remainingTokens, resp.retryAfterMs, .redis⟩,
        s.store setting.key
          (s.scriptRun setting.key setting.capacity (.finite setting.rate) call))) :
    Balanced setting (s.check setting.key setting.capacity (.finite setting.rate) call).2
      (calls ++ [s.recordOf setting.key setting.capacity (.finite setting.rate) call])
      (seen ++ more) := by
  have hread := (h.redis.script (by exact_mod_cast setting.capacity_pos) call.nowMs
    (F64.ofNat (ttlSeconds setting.capacity (.finite setting.rate)))).2
  rw [← scriptRun_eq] at hread
  obtain ⟨hallowed, hremaining⟩ := hread resp hresp
  have hran : s.ranScript call = true := by simp [System.ranScript, hconnected, hreplied]
  have hhash := h.hash_concat call (if_pos hran).symm
  set record := s.recordOf setting.key setting.capacity (.finite setting.rate) call with hrecord
  have hresult : record.result = .ok ⟨resp.allowed == 1, setting.capacity, resp.remainingTokens,
      resp.retryAfterMs, .redis⟩ := by
    rw [hrecord, System.recordOf, hcheck]
  have hlocal : localTimes (calls ++ [record]) = localTimes calls := by
    rw [localTimes_concat, if_neg (by simp [CallRecord.allowedIn, hresult])]
  rw [hcheck]
  refine h.concat h.config hhash (hlocal ▸ h.fallback) ?_ ?_ ?_
  · intro bucket hbucket
    exact List.mem_append_left _ (h.clock bucket hbucket)
  · intro hin
    have hone : (resp.allowed == 1) = true := by
      simpa [CallRecord.allowedIn, hresult] using hin
    rw [hrecord, System.recordOf, hran, ← hallowed, hone]
    rfl
  · intro decision hdecision
    rw [hresult] at hdecision
    rw [← Except.ok.inj hdecision]
    exact_mod_cast hremaining

/-- A check on the key in degraded mode; the local bucket pays. -/
theorem Balanced.check_degraded (h : Balanced setting s calls seen) {call : Call} {s' : System}
    (hclock : ∀ time ∈ seen, time ≤ call.instant) (hcreated : call.created ≤ call.instant)
    (hredis : s'.redis = if s.ranScript call then
      (s.store setting.key
        (s.scriptRun setting.key setting.capacity (.finite setting.rate) call)).redis
      else s.redis)
    (hconfig' : s'.limiter.config = s.limiter.config)
    (hfallback : s'.limiter.fallback = s.limiter.fallback)
    (hcheck : s.check setting.key setting.capacity (.finite setting.rate) call =
      s'.enterDegraded setting.key setting.capacity call) :
    Balanced setting (s.check setting.key setting.capacity (.finite setting.rate) call).2
      (calls ++ [s.recordOf setting.key setting.capacity (.finite setting.rate) call])
      (seen ++ [call.created, call.instant]) := by
  have hhash := h.hash_concat call hredis
  set record := s.recordOf setting.key setting.capacity (.finite setting.rate) call with hrecord
  have hconfig : s'.limiter.config = setting.config := hconfig'.trans h.config
  have henabled : s'.limiter.config.survivabilityMode.enabled = true := hconfig ▸ setting.enabled
  have hbucket : s'.fallbackBucket setting.key call =
      (s.limiter.fallback.lookup setting.key).getD
        (.new (.finite setting.config.survivabilityMode.fallbackCapacity)
          (.finite setting.fallbackRate) call.created) := by
    rw [System.fallbackBucket, hfallback, hconfig, setting.fallbackRate_eq]
    rfl
  -- the local bucket pays for the call if it allows it
  have hconsume := h.fallback.tryConsume hcreated fun bucket hb => hclock _ (h.clock bucket hb)
  rw [← hbucket] at hconsume
  obtain ⟨hlocal, hremaining, hlast⟩ := hconsume
  rw [enterDegraded_of_enabled henabled] at hcheck
  set consumed := (s'.fallbackBucket setting.key call).tryConsume call.instant with hconsumed
  have hresult : record.result = .ok ⟨consumed.1.allowed,
      s'.limiter.config.survivabilityMode.fallbackCapacity, consumed.1.remaining,
      consumed.1.retryAfterMs, .degradedLocal⟩ := by
    rw [hrecord, System.recordOf, hcheck]
  rw [hcheck]
  refine h.concat hconfig hhash ?_ ?_ ?_ ?_
  · have hin : record.allowedIn .degradedLocal = consumed.1.allowed := by
      simp [CallRecord.allowedIn, hresult]
    rw [localTimes_concat, hin, setFallback_fallback, AList.lookup_insert]
    exact hlocal
  · intro bucket hb
    rw [setFallback_fallback, AList.lookup_insert, Option.some.injEq] at hb
    rw [← hb, hlast]
    simp
  · intro hin
    simp [CallRecord.allowedIn, hresult] at hin
  · intro decision hdecision
    rw [hresult] at hdecision
    rw [← Except.ok.inj hdecision, hconfig]
    rcases hremaining with hremaining | hremaining
    · exact_mod_cast hremaining
    · rw [hremaining]
      exact Nat.zero_le _

/-- A check on the key. -/
theorem Balanced.check_self (h : Balanced setting s calls seen) (call : Call)
    (hclock : ∀ time ∈ seen, time ≤ call.instant) (hcreated : call.created ≤ call.instant) :
    Balanced setting (s.check setting.key setting.capacity (.finite setting.rate) call).2
      (calls ++ [s.recordOf setting.key setting.capacity (.finite setting.rate) call])
      (seen ++ [call.created, call.instant]) := by
  rcases check_cases s setting.key setting.capacity (.finite setting.rate) call with
    ⟨hconnected, hreplied, resp, hresp, hcheck⟩ | ⟨-, s', hredis, hconfig, hfallback, -, hcheck⟩
  · exact h.check_redis _ hconnected hreplied hresp hcheck
  · exact h.check_degraded hclock hcreated hredis hconfig hfallback hcheck

/-- Every operation keeps the balances. -/
theorem Balanced.apply (h : Balanced setting s calls seen) {op : Op}
    (huses : op.Uses setting.key setting.capacity (.finite setting.rate))
    (hclock : (seen ++ op.instants).Pairwise (· ≤ ·)) :
    Balanced setting (s.apply op) (calls ++ (s.record setting.key op).toList)
      (seen ++ op.instants) := by
  cases op with
  | ping outcome =>
    obtain ⟨hconfig, hredis, hfallback⟩ := ping_frame s outcome
    simp only [System.record, Option.toList_none, List.append_nil]
    exact h.frame _ hconfig (by rw [System.apply, hredis]) (by rw [System.apply, hfallback])
  | check bucketKey capacity refillRate call =>
    by_cases hkey : bucketKey = setting.key
    · obtain ⟨rfl, rfl⟩ := huses hkey
      subst hkey
      rw [System.record, if_pos rfl]
      rw [Op.instants, List.pairwise_append] at hclock
      obtain ⟨-, hpair, hseen⟩ := hclock
      refine h.check_self call ?_ ?_
      · intro time htime
        exact hseen time htime call.instant (by simp)
      · simpa using hpair
    · rw [System.record, if_neg hkey, Option.toList_none, List.append_nil]
      exact h.check_of_ne hkey capacity refillRate call _

/-- So does every run. -/
theorem Balanced.after (h : Balanced setting s calls seen) {ops : List Op}
    (huses : ∀ op ∈ ops, op.Uses setting.key setting.capacity (.finite setting.rate))
    (hclock : (seen ++ ops.flatMap Op.instants).Pairwise (· ≤ ·)) :
    Balanced setting (s.after ops) (calls ++ s.records setting.key ops)
      (seen ++ ops.flatMap Op.instants) := by
  induction ops using List.reverseRecOn with
  | nil => simpa [System.records] using h
  | append_singleton ops op ih =>
    rw [List.flatMap_append, ← List.append_assoc] at hclock ⊢
    rw [System.after_concat, System.records_concat, ← List.append_assoc]
    have hrun := ih (fun op hop => huses op (by simp [hop])) (List.pairwise_append.mp hclock).1
    simp only [List.flatMap_singleton] at hclock ⊢
    exact hrun.apply (huses op (by simp)) hclock

/-- The balances do not depend on where the counting starts. -/
theorem Balanced.restart (h : Balanced setting s calls seen) : Balanced setting s [] seen where
  config := h.config
  redis := h.redis.restart
  fallback := h.fallback.restart
  clock := h.clock
  admitted := by simp
  remaining := by simp

end Steps

/-- A fresh limiter is balanced. -/
theorem balanced_fromConfig (setting : Setting) (connected : Bool) {redis : Redis}
    (hredis : redis.hash setting.key = {}) :
    Balanced setting ⟨.fromConfig setting.config connected, redis⟩ [] [] where
  config := rfl
  redis := Or.inl ⟨hredis, rfl⟩
  fallback := ⟨Or.inl ⟨rfl, rfl⟩, fun _ => rfl, by simp [localTimes]⟩
  clock := by simp [RateLimiter.fromConfig]
  admitted := by simp
  remaining := by simp

/-- In any stretch of any run, with any outcomes and any clocks towards Redis: the script
stores between nothing and a full bucket, the calls allowed by Redis are within the capacity
and rate of the key over the admitted script runs, those allowed in degraded mode are within
the fallback capacity and rate, and no decision promises more than its limit. -/
theorem admissions_bounded (setting : Setting) (connected : Bool) (redis : Redis)
    (hredis : redis.hash setting.key = {}) (earlier ops : List Op)
    (huses : ∀ op ∈ earlier ++ ops, op.Uses setting.key setting.capacity (.finite setting.rate))
    (hclock : ((earlier ++ ops).flatMap Op.instants).Pairwise (· ≤ ·)) :
    let s := System.after ⟨.fromConfig setting.config connected, redis⟩ earlier
    let calls := s.records setting.key ops
    (∀ tokens, ((s.after ops).redis.hash setting.key).tokens = some tokens →
        ∃ q : ℚ, tokens = .finite q ∧ 0 ≤ q ∧ q ≤ setting.capacity) ∧
      WithinRate setting.capacity (setting.rate / 1000) (admittedTimes calls)
        (calls.filter (CallRecord.allowedIn .redis)).length ∧
      WithinRate setting.config.survivabilityMode.fallbackCapacity setting.fallbackRate
        (localTimes calls) (calls.filter (CallRecord.allowedIn .degradedLocal)).length ∧
      ∀ record ∈ calls, ∀ decision, record.result = .ok decision →
        decision.remaining ≤ decision.limit := by
  intro s calls
  rw [List.flatMap_append] at hclock
  have hstart := (balanced_fromConfig setting connected hredis).after
    (fun op hop => huses op (List.mem_append_left _ hop)) (List.pairwise_append.mp hclock).1
  have hrun : Balanced setting (s.after ops) calls _ :=
    hstart.restart.after (fun op hop => huses op (List.mem_append_right _ hop)) hclock
  refine ⟨?_, ?_, ?_, hrun.remaining⟩
  · intro tokens htokens
    rcases hrun.redis with ⟨hempty, -⟩ | ⟨q, last, hhash, hnonneg, hle, -, -⟩
    · rw [hempty] at htokens
      simp at htokens
    · rw [hhash, finiteHash, Option.some.injEq] at htokens
      exact ⟨q, htokens.symm, hnonneg, hle⟩
  · -- whatever Redis allowed was admitted by the script
    refine hrun.redis.withinRate ?_
    rw [admittedTimes, List.length_map, ← List.countP_eq_length_filter,
      ← List.countP_eq_length_filter]
    exact List.countP_mono_left hrun.admitted
  · have hwithin := hrun.fallback.within
    rwa [localTimes, List.length_map] at hwithin

/-! ### A flaky connection -/

/-- Two tokens at one per second in Redis, one token at one per second locally. -/
def flakySetting : Setting where
  config :=
    { redisAddress := "redis:6379", redisKeyPrefix := "rl", failOpen := false
      survivabilityMode := ⟨true, 1, .finite 1⟩ }
  key := "rl:api:ip:10.0.0.1"
  capacity := 2
  rate := 1
  fallbackRate := 1
  enabled := rfl
  fallbackRate_eq := rfl
  capacity_pos := by decide

def flakyCheck (call : Call) : Op :=
  .check flakySetting.key flakySetting.capacity (.finite flakySetting.rate) call

/-- The reply of the second call, whose clock is half a second behind, is lost; after one more
call a ping reconnects. -/
def flakyRun : List Op :=
  [flakyCheck ⟨5000, .replied, 0, 0⟩, flakyCheck ⟨4500, .lost none, 10, 20⟩,
    flakyCheck ⟨5100, .replied, 30, 40⟩, .ping ⟨false, true⟩, flakyCheck ⟨5600, .replied, 50, 60⟩]

def flakyCalls : List CallRecord :=
  System.records flakySetting.key ⟨.fromConfig flakySetting.config true, ∅⟩ flakyRun

/-- Redis allows the first and the last call, the local bucket the second one. -/
theorem admissions_bounded_flaky :
    flakyCalls.map (CallRecord.allowedIn .redis) = [true, false, false, true] ∧
      flakyCalls.map (CallRecord.allowedIn .degradedLocal) = [false, true, false, false] ∧
      WithinRate flakySetting.capacity (flakySetting.rate / 1000) (admittedTimes flakyCalls)
        (flakyCalls.filter (CallRecord.allowedIn .redis)).length := by
  have hbounds := admissions_bounded flakySetting true ∅ rfl [] flakyRun (by decide) (by decide)
  refine ⟨?_, ?_, hbounds.2.1⟩
  · decide +kernel
  · decide +kernel

end RateLimit
end OpenApiGateway
