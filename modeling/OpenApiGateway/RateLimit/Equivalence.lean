import OpenApiGateway.RateLimit.Limiter

/-!
# The script and the local bucket side by side

The script leaves its hash alone on a denial and may lose it when the key expires; the local
bucket is brought up to date at every call. Called at the same times they give the same
answers: what the script has stored, refilled up to now, is what the bucket holds (`Synced`),
and a key lives long enough for its bucket to be full again (`full_of_expired`). The one
difference is in the numbers' types: the bucket's waiting time is a `u64` and stops at its
maximum, while Lua's number goes on.
-/

namespace OpenApiGateway
namespace RateLimit

open Lib.TokenBucket
open scoped ExactArithmetic

/-! ## Both, call by call -/

/-- A key of Redis with the time, in milliseconds, from which it may be gone. -/
structure ExpiringHash where
  hash : BucketHash := {}
  deadline : Option ℕ := none
deriving DecidableEq

/-- The key the script finds at a call. -/
def ExpiringHash.found (gone : ℕ → ℕ → Bool) (key : ExpiringHash) (now : ℕ) : ExpiringHash :=
  if key.deadline.any fun deadline => gone deadline now then {} else key

/-- One run of the script for one token. `gone` says whether a key with the first time as its
deadline is gone at the second. -/
def scriptStep (gone : ℕ → ℕ → Bool) (capacity : ℕ) (refillRate : F64) (key : ExpiringHash)
    (now : ℕ) : ScriptReply × ExpiringHash :=
  let key := key.found gone now
  let run := luaScript key.hash (F64.ofNat now) (F64.ofNat capacity) refillRate (F64.ofNat 1)
    (F64.ofNat (ttlSeconds capacity refillRate))
  (run.reply,
    { hash := run.hash
      deadline := match run.expire with
        | some ttl => some (now + 1000 * ttl.toU64)
        | none => key.deadline })

/-- The replies of the script to calls at the given times. -/
def scriptReplies (gone : ℕ → ℕ → Bool) (capacity : ℕ) (refillRate : F64) :
    ExpiringHash → List ℕ → List ScriptReply
  | _, [] => []
  | key, now :: times =>
    (scriptStep gone capacity refillRate key now).1 ::
      scriptReplies gone capacity refillRate (scriptStep gone capacity refillRate key now).2 times

/-- The instant that is a number of milliseconds on the local clock. -/
def instantOf (ms : ℕ) : ℕ := ms * 10 ^ 6

/-- The answers of a local bucket to calls at the given times. -/
def bucketAnswers : LocalBucket → List ℕ → List LocalBucket.Consumed
  | _, [] => []
  | bucket, now :: times =>
    (bucket.tryConsume (instantOf now)).1 ::
      bucketAnswers (bucket.tryConsume (instantOf now)).2 times

/-- The bucket's answer is the script's, with the waiting time cast to a `u64`. -/
structure SameAnswer (consumed : LocalBucket.Consumed) (reply : ScriptReply) : Prop where
  allowed : consumed.allowed = reply.allowed
  remaining : F64.ofNat consumed.remaining = reply.remainingTokens
  retryAfterMs : consumed.retryAfterMs = reply.retryAfterMs.toU64

/-! ## The lifetime of a key -/

section Lifetime
variable {capacity : ℕ} {rate : ℚ}

theorem ttlSeconds_eq (capacity : ℕ) (hrate : 0 < rate) :
    ttlSeconds capacity (.finite rate) = min ⌈(capacity : ℚ) / rate * 2⌉.toNat F64.u64Max := by
  have hpos : ¬ (F64.finite rate).le (.finite 0) = true := by
    simpa using hrate
  unfold ttlSeconds
  rw [if_neg hpos, F64.ofNat_eq, F64.div_finite _ hrate.ne', F64.mul_finite, F64.ceil_finite,
    F64.toU64, Int.floor_intCast]

/-- The TTL covers twice the time to fill the bucket, unless it is the longest there is. -/
theorem le_ttlSeconds (capacity : ℕ) (hrate : 0 < rate) :
    2 * (capacity : ℚ) / rate ≤ ttlSeconds capacity (.finite rate) ∨
      ttlSeconds capacity (.finite rate) = F64.u64Max := by
  rw [ttlSeconds_eq capacity hrate]
  rcases le_total ⌈(capacity : ℚ) / rate * 2⌉.toNat F64.u64Max with h | h
  · left
    have hle : (capacity : ℚ) / rate * 2 ≤ (⌈(capacity : ℚ) / rate * 2⌉ : ℤ) := Int.le_ceil _
    have hnat : (⌈(capacity : ℚ) / rate * 2⌉ : ℤ) ≤ (⌈(capacity : ℚ) / rate * 2⌉.toNat : ℤ) :=
      Int.self_le_toNat _
    have hcast : ((⌈(capacity : ℚ) / rate * 2⌉ : ℤ) : ℚ) ≤
        (⌈(capacity : ℚ) / rate * 2⌉.toNat : ℕ) := by exact_mod_cast hnat
    have hcomm : 2 * (capacity : ℚ) / rate = (capacity : ℚ) / rate * 2 := by ring
    rw [min_eq_left h, hcomm]
    linarith
  · right
    exact min_eq_right h

theorem toU64_ttlSeconds (hrate : 0 < rate) :
    (F64.ofNat (ttlSeconds capacity (.finite rate))).toU64 =
      ttlSeconds capacity (.finite rate) := by
  have hle : ttlSeconds capacity (.finite rate) ≤ F64.u64Max := by
    rw [ttlSeconds_eq capacity hrate]
    exact min_le_right _ _
  rw [F64.ofNat_eq, F64.toU64_finite_natCast]
  exact Nat.min_eq_left hle

/-- When a key may be gone, its bucket is full again. -/
theorem full_of_expired (hrate : 0 < rate) {tokens : ℚ} (htokens : 0 ≤ tokens) {last now : ℕ}
    (hexpired : last + 1000 * ttlSeconds capacity (.finite rate) ≤ now)
    (hnow : now ≤ F64.u64Max) :
    level (capacity : ℚ) rate tokens (((now : ℚ) - last) / 1000) = capacity := by
  rcases le_ttlSeconds capacity hrate with httl | httl
  · apply level_eq_capacity
    have hcast : (last : ℚ) + 1000 * ttlSeconds capacity (.finite rate) ≤ now := by
      exact_mod_cast hexpired
    have helapsed : 2 * (capacity : ℚ) / rate ≤ ((now : ℚ) - last) / 1000 := by
      rw [le_div_iff₀ (by norm_num)]
      linarith
    have hgain : 2 * (capacity : ℚ) ≤ rate * (((now : ℚ) - last) / 1000) := by
      rw [div_le_iff₀ hrate] at helapsed
      linarith
    have hnonneg : (0 : ℚ) ≤ capacity := by positivity
    linarith
  · -- a `u64` of milliseconds is never a `u64` of seconds later
    rw [httl] at hexpired
    unfold F64.u64Max at hexpired hnow
    omega

end Lifetime

/-! ## The simulation -/

/-- At time `now` the bucket holds what the script's hash refills to, or there is no key and
the bucket is full. -/
def Synced (capacity : ℕ) (rate : ℚ) (key : ExpiringHash) (bucket : LocalBucket) (now : ℕ) :
    Prop :=
  (key = {} ∧ bucket = finiteBucket capacity capacity rate (instantOf now)) ∨
    ∃ (tokens : ℚ) (last : ℕ),
      key = ⟨finiteHash tokens last, some (last + 1000 * ttlSeconds capacity (.finite rate))⟩ ∧
      0 ≤ tokens ∧ last ≤ now ∧
      bucket = finiteBucket (level capacity rate tokens (((now : ℚ) - last) / 1000)) capacity rate
        (instantOf now)

theorem secondsSince_instantOf {earlier now : ℕ} (h : earlier ≤ now) :
    secondsSince (instantOf earlier) (instantOf now) = ((now : ℚ) - earlier) / 1000 := by
  have hsub : instantOf now - instantOf earlier = (now - earlier) * 10 ^ 6 := by
    unfold instantOf
    omega
  rw [secondsSince, hsub, Nat.cast_mul, Nat.cast_sub h]
  push_cast
  ring

/-- What is left after an admitted call fits in a `u64`. -/
theorem ofNat_toU64_floor {left : ℚ} (hleft : 0 ≤ left) (hmax : left ≤ F64.u64Max) :
    F64.ofNat (F64.finite left).floor.toU64 = .finite ⌊left⌋ := by
  have hnonneg : 0 ≤ ⌊left⌋ := Int.floor_nonneg.mpr hleft
  have hle : ⌊left⌋.toNat ≤ F64.u64Max := by
    have hfloor : ((⌊left⌋ : ℤ) : ℚ) ≤ F64.u64Max := le_trans (Int.floor_le left) hmax
    have hint : ⌊left⌋ ≤ (F64.u64Max : ℤ) := by exact_mod_cast hfloor
    omega
  rw [F64.floor_finite, F64.toU64, Int.floor_intCast,
    show Nat.min ⌊left⌋.toNat F64.u64Max = ⌊left⌋.toNat from Nat.min_eq_left hle, F64.ofNat_eq]
  congr 1
  exact_mod_cast Int.toNat_of_nonneg hnonneg

section Simulation
variable {capacity : ℕ} {rate : ℚ} {gone : ℕ → ℕ → Bool} {key : ExpiringHash}
  {bucket : LocalBucket} {now : ℕ}

theorem scriptStep_of_luaScript {run : ScriptRun}
    (hrun : luaScript (key.found gone now).hash (.finite now) (.finite capacity) (.finite rate)
      (.finite 1) (F64.ofNat (ttlSeconds capacity (.finite rate))) = run) :
    scriptStep gone capacity (.finite rate) key now =
      (run.reply,
        { hash := run.hash
          deadline := match run.expire with
            | some ttl => some (now + 1000 * ttl.toU64)
            | none => (key.found gone now).deadline }) := by
  have hone : F64.ofNat 1 = .finite 1 := by simp [F64.ofNat_eq]
  unfold scriptStep
  rw [hone]
  simp only [show F64.ofNat now = .finite now from rfl,
    show F64.ofNat capacity = .finite capacity from rfl, hrun]

/-- A key with the given tokens as of the given time. -/
def storedKey (capacity : ℕ) (rate tokens : ℚ) (last : ℕ) : ExpiringHash :=
  ⟨finiteHash tokens last, some (last + 1000 * ttlSeconds capacity (.finite rate))⟩

section Stored
variable {tokens : ℚ} {last : ℕ}

theorem scriptStep_of_found_empty (hcapacity : 1 ≤ capacity) (hrate : 0 < rate)
    (hfound : key.found gone now = {}) :
    scriptStep gone capacity (.finite rate) key now =
      (admittedReply (capacity - 1), storedKey capacity rate (capacity - 1) now) := by
  have hone : (1 : ℚ) ≤ capacity := by exact_mod_cast hcapacity
  rw [scriptStep_of_luaScript (by rw [hfound, luaScript_empty hone])]
  simp only [toU64_ttlSeconds hrate, storedKey]

theorem scriptStep_of_found_stored (hrate : 0 < rate)
    (hfound : key.found gone now = storedKey capacity rate tokens last) :
    scriptStep gone capacity (.finite rate) key now =
      let refilled := level (capacity : ℚ) rate tokens (((now : ℚ) - last) / 1000)
      if 1 ≤ refilled then
        (admittedReply (refilled - 1), storedKey capacity rate (refilled - 1) now)
      else (deniedReply refilled rate, storedKey capacity rate tokens last) := by
  rw [scriptStep_of_luaScript (by rw [hfound, storedKey, luaScript_finiteHash]), hfound]
  by_cases hone : 1 ≤ level (capacity : ℚ) rate tokens (((now : ℚ) - last) / 1000)
  · simp only [if_pos hone, toU64_ttlSeconds hrate, storedKey]
  · simp only [if_neg hone, storedKey]

theorem found_storedKey :
    (storedKey capacity rate tokens last).found gone now = storedKey capacity rate tokens last ∨
      ((storedKey capacity rate tokens last).found gone now = {} ∧
        gone (last + 1000 * ttlSeconds capacity (.finite rate)) now = true) := by
  by_cases hexpired : gone (last + 1000 * ttlSeconds capacity (.finite rate)) now = true
  · exact Or.inr ⟨by simp [ExpiringHash.found, storedKey, hexpired], hexpired⟩
  · exact Or.inl (by simp [ExpiringHash.found, storedKey, hexpired])

end Stored

/-- If the script admits a call that leaves `left` tokens, so does a bucket that holds one
more. -/
theorem synced_admitted (hmax : capacity ≤ F64.u64Max) {left tokens : ℚ} {last : ℕ}
    (hstep : scriptStep gone capacity (.finite rate) key now =
      (admittedReply left, storedKey capacity rate left now))
    (hbucket : bucket = finiteBucket tokens capacity rate last)
    (hlevel : level (capacity : ℚ) rate tokens (secondsSince last (instantOf now)) = left + 1)
    (hleft : 0 ≤ left) :
    SameAnswer (bucket.tryConsume (instantOf now)).1
        (scriptStep gone capacity (.finite rate) key now).1 ∧
      Synced capacity rate (scriptStep gone capacity (.finite rate) key now).2
        (bucket.tryConsume (instantOf now)).2 now := by
  have hfull : left + 1 ≤ capacity := by
    rw [← hlevel]
    exact level_le_capacity
  have hlocal : bucket.tryConsume (instantOf now) =
      (⟨true, (F64.finite left).floor.toU64, 0⟩,
        finiteBucket left capacity rate (instantOf now)) := by
    rw [hbucket, tryConsume_finite, hlevel]
    simp only [if_pos (show (1 : ℚ) ≤ left + 1 by linarith), add_sub_cancel_right]
  rw [hstep, hlocal]
  refine ⟨⟨rfl, ?_, ?_⟩, Or.inr ⟨left, now, rfl, hleft, le_refl _, ?_⟩⟩
  · have hcast : (capacity : ℚ) ≤ F64.u64Max := by exact_mod_cast hmax
    exact ofNat_toU64_floor hleft (by linarith)
  · show 0 = (F64.finite 0).toU64
    rw [F64.toU64, Int.floor_zero]
    rfl
  · rw [sub_self, zero_div, level_zero (by linarith)]

/-- If the script denies a call it writes nothing, and the bucket only notes the refill. -/
theorem synced_denied (hrate : 0 < rate) {tokens held : ℚ} {last since : ℕ} (htokens : 0 ≤ tokens)
    (hlast : last ≤ now)
    (hstep : scriptStep gone capacity (.finite rate) key now =
      (deniedReply (level (capacity : ℚ) rate tokens (((now : ℚ) - last) / 1000)) rate,
        storedKey capacity rate tokens last))
    (hbucket : bucket = finiteBucket held capacity rate since)
    (hlevel : level (capacity : ℚ) rate held (secondsSince since (instantOf now)) =
      level (capacity : ℚ) rate tokens (((now : ℚ) - last) / 1000))
    (hdenied : ¬ 1 ≤ level (capacity : ℚ) rate tokens (((now : ℚ) - last) / 1000)) :
    SameAnswer (bucket.tryConsume (instantOf now)).1
        (scriptStep gone capacity (.finite rate) key now).1 ∧
      Synced capacity rate (scriptStep gone capacity (.finite rate) key now).2
        (bucket.tryConsume (instantOf now)).2 now := by
  rw [hstep, hbucket, tryConsume_finite, hlevel]
  simp only [if_neg hdenied, if_pos hrate]
  refine ⟨⟨rfl, ?_, rfl⟩, Or.inr ⟨tokens, last, rfl, htokens, hlast, rfl⟩⟩
  simp [deniedReply, F64.ofNat_eq]

/-- One call keeps the two in step, and is answered alike. -/
theorem Synced.step {before : ℕ} (h : Synced capacity rate key bucket before)
    (hcapacity : 1 ≤ capacity) (hmax : capacity ≤ F64.u64Max) (hrate : 0 < rate)
    (hgone : ∀ deadline now, gone deadline now = true → deadline ≤ now)
    (hnow : before ≤ now) (hnowMax : now ≤ F64.u64Max) :
    SameAnswer (bucket.tryConsume (instantOf now)).1
        (scriptStep gone capacity (.finite rate) key now).1 ∧
      Synced capacity rate (scriptStep gone capacity (.finite rate) key now).2
        (bucket.tryConsume (instantOf now)).2 now := by
  have hone : (1 : ℚ) ≤ capacity := by exact_mod_cast hcapacity
  have helapsed : (0 : ℚ) ≤ ((now : ℚ) - before) / 1000 := by
    have hcast : (before : ℚ) ≤ now := by exact_mod_cast hnow
    exact div_nonneg (by linarith) (by norm_num)
  rcases h with ⟨rfl, rfl⟩ | ⟨tokens, last, rfl, htokens, hlast, rfl⟩
  · -- no key: the bucket is full and stays full
    refine synced_admitted hmax (scriptStep_of_found_empty hcapacity hrate rfl) rfl ?_ (by linarith)
    rw [secondsSince_instantOf hnow, sub_add_cancel]
    apply level_eq_capacity
    have hgain := mul_nonneg hrate.le helapsed
    linarith
  · -- refilling the bucket at each call is refilling the hash once
    have hlevel : level (capacity : ℚ) rate
        (level capacity rate tokens (((before : ℚ) - last) / 1000))
        (secondsSince (instantOf before) (instantOf now)) =
        level (capacity : ℚ) rate tokens (((now : ℚ) - last) / 1000) := by
      rw [secondsSince_instantOf hnow, level_level hrate.le helapsed]
      congr 1
      ring
    rcases @found_storedKey capacity rate gone now tokens last with hfound | ⟨hfound, hexpired⟩
    · have hstep := scriptStep_of_found_stored hrate hfound
      by_cases hadmit : 1 ≤ level (capacity : ℚ) rate tokens (((now : ℚ) - last) / 1000)
      · simp only [if_pos hadmit] at hstep
        exact synced_admitted hmax hstep rfl (by rw [hlevel, sub_add_cancel]) (by linarith)
      · simp only [if_neg hadmit] at hstep
        exact synced_denied hrate htokens (hlast.trans hnow) hstep rfl hlevel hadmit
    · have hfull := full_of_expired hrate htokens (hgone _ _ hexpired) hnowMax
      refine synced_admitted hmax (scriptStep_of_found_empty hcapacity hrate hfound) rfl ?_
        (by linarith)
      rw [hlevel, hfull, sub_add_cancel]

/-- So does a whole sequence of calls. -/
theorem Synced.answers {before : ℕ} (h : Synced capacity rate key bucket before)
    (hcapacity : 1 ≤ capacity) (hmax : capacity ≤ F64.u64Max) (hrate : 0 < rate)
    (hgone : ∀ deadline now, gone deadline now = true → deadline ≤ now) {times : List ℕ}
    (hsorted : (before :: times).Pairwise (· ≤ ·)) (htimes : ∀ now ∈ times, now ≤ F64.u64Max) :
    List.Forall₂ SameAnswer (bucketAnswers bucket times)
      (scriptReplies gone capacity (.finite rate) key times) := by
  induction times generalizing before key bucket with
  | nil => exact List.Forall₂.nil
  | cons now times ih =>
    rw [List.pairwise_cons] at hsorted
    obtain ⟨hbefore, hrest⟩ := hsorted
    obtain ⟨hsame, hsynced⟩ := h.step hcapacity hmax hrate hgone (hbefore now (by simp))
      (htimes now (by simp))
    exact List.Forall₂.cons hsame
      (ih hsynced hrest fun later hlater => htimes later (by simp [hlater]))

end Simulation

/-- The script on a key and a bucket made at the first call answer every sequence of calls
alike, however Redis drops keys after their deadline: the same flag, the same count and, cast
to a `u64`, the same waiting time. -/
theorem script_eq_bucket {capacity : ℕ} (hcapacity : 1 ≤ capacity)
    (hmax : capacity ≤ F64.u64Max) {rate : ℚ} (hrate : 0 < rate) {gone : ℕ → ℕ → Bool}
    (hgone : ∀ deadline now, gone deadline now = true → deadline ≤ now) {first : ℕ}
    {times : List ℕ} (hsorted : (first :: times).Pairwise (· ≤ ·))
    (htimes : ∀ now ∈ first :: times, now ≤ F64.u64Max) :
    List.Forall₂ SameAnswer
      (bucketAnswers (.new (F64.ofNat capacity) (.finite rate) (instantOf first)) (first :: times))
      (scriptReplies gone capacity (.finite rate) {} (first :: times)) := by
  have hstart : Synced capacity rate {}
      (.new (F64.ofNat capacity) (.finite rate) (instantOf first)) first := Or.inl ⟨rfl, rfl⟩
  refine hstart.answers hcapacity hmax hrate hgone ?_ htimes
  rw [List.pairwise_cons]
  refine ⟨?_, hsorted⟩
  intro now hnow
  rcases List.mem_cons.mp hnow with rfl | hmem
  · exact le_refl _
  · exact (List.pairwise_cons.mp hsorted).1 now hmem

/-- Keys that are gone as soon as their deadline has come. -/
def goneAt (deadline now : ℕ) : Bool := decide (deadline ≤ now)

/-- Two tokens at one per second: a denial, and a call after the key has expired. -/
theorem script_eq_bucket_expiry :
    List.Forall₂ SameAnswer
      (bucketAnswers (.new (F64.ofNat 2) (.finite 1) (instantOf 0)) [0, 0, 500, 9000])
      (scriptReplies goneAt 2 (.finite 1) {} [0, 0, 500, 9000]) :=
  script_eq_bucket (by decide) (by decide) (by decide) (by simp [goneAt]) (by decide) (by decide)

/-- At one token in ten to the seventeenth seconds the second call is told to wait ten to the
twentieth milliseconds by the script, and the largest `u64` by the bucket. -/
theorem retry_after_differs :
    bucketAnswers (.new (F64.ofNat 1) (.finite (1 / 10 ^ 17)) (instantOf 0)) [0, 0] =
        [⟨true, 0, 0⟩, ⟨false, 0, 2 ^ 64 - 1⟩] ∧
      scriptReplies goneAt 1 (.finite (1 / 10 ^ 17)) {} [0, 0] =
        [⟨true, .finite 0, .finite 0⟩, ⟨false, .finite 0, .finite (10 ^ 20)⟩] := by
  refine ⟨?_, ?_⟩
  · decide +kernel
  · decide +kernel

end RateLimit
end OpenApiGateway
