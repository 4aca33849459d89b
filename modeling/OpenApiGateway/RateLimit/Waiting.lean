import Mathlib.Algebra.Order.Floor.Semiring
import OpenApiGateway.Lib.TransitionSystem
import OpenApiGateway.RateLimit.Equivalence

/-!
# How long a denied caller has to wait

A denial names a number of milliseconds. `retry_after_exact` says that it is the waiting time of
the bucket, in both implementations: the call at its end is allowed, the calls before it are
denied, and denied calls in between do not move its end, although the script writes nothing on a
denial and the local bucket notes the refill. The local bucket gives the number as a `u64`, and a
longer time is cut off there.
-/

namespace OpenApiGateway
namespace RateLimit

open Lib.TokenBucket Lib.TransitionSystem
open scoped ExactArithmetic

/-! ## The waiting time -/

/-- Whole milliseconds until a bucket with a part of a token has all of it. -/
def waitMs (rate tokens : ℚ) : ℕ := ⌈(1 - tokens) / rate * 1000⌉₊

section WaitMs
variable {capacity rate tokens : ℚ}

theorem waitMs_pos (hrate : 0 < rate) (htokens : tokens < 1) : 1 ≤ waitMs rate tokens := by
  have hdeficit : 0 < 1 - tokens := by linarith
  exact Nat.ceil_pos.mpr (by positivity)

/-- There is a token after a number of milliseconds exactly when the waiting time is over. -/
theorem one_le_level_iff_waitMs_le (hcapacity : 1 ≤ capacity) (hrate : 0 < rate) (k : ℕ) :
    1 ≤ level capacity rate tokens ((k : ℚ) / 1000) ↔ waitMs rate tokens ≤ k := by
  rw [one_le_level_iff hcapacity hrate, waitMs, Nat.ceil_le, le_div_iff₀ (by norm_num)]

theorem ceil_retry (hrate : 0 < rate) (htokens : tokens < 1) :
    (((F64.finite (1 - tokens)).div (.finite rate)).mul (.finite 1000)).ceil =
      F64.ofNat (waitMs rate tokens) := by
  have hdeficit : 0 ≤ (1 - tokens) / rate * 1000 := by
    have hpos : 0 < 1 - tokens := by linarith
    positivity
  rw [F64.div_finite _ hrate.ne', F64.mul_finite, F64.ceil_finite, F64.ofNat_eq, waitMs,
    natCast_ceil_eq_intCast_ceil hdeficit]

end WaitMs

/-! ## Waiting out a denial -/

/-- After a denial at `now` that left the state `s`, with any calls denied since: the call `k`
milliseconds after it is allowed if and only if `wait` is no more than `k`. A millisecond is
`tick` units of the clock, and calls are made at times the clock can show. -/
def WaitsExactly {σ : Type} (call : σ → ℕ → Bool × σ) (shown : ℕ → Prop) (tick : ℕ) (now : ℕ)
    (s : σ) (wait : ℕ) : Prop :=
  ∀ last s' k,
    Run (clocked call) (fun s time => (call s.2 time).1 = false) (now, s) (last, s') →
    last ≤ now + k * tick → shown (now + k * tick) →
    ((call s' (now + k * tick)).1 = true ↔ wait ≤ k)

/-! ## The local bucket -/

/-- A call on a local bucket: whether it is allowed, and the bucket after it. -/
def bucketCall (bucket : LocalBucket) (instant : ℕ) : Bool × LocalBucket :=
  ((bucket.tryConsume instant).1.allowed, (bucket.tryConsume instant).2)

section Local
variable {capacity rate tokens : ℚ} {last now : ℕ}

theorem bucketCall_finite :
    bucketCall (finiteBucket tokens capacity rate last) now =
      let refilled := level capacity rate tokens (secondsSince last now)
      (decide (1 ≤ refilled),
        finiteBucket (if 1 ≤ refilled then refilled - 1 else refilled) capacity rate now) := by
  unfold bucketCall
  rw [tryConsume_finite]
  by_cases hone : 1 ≤ level capacity rate tokens (secondsSince last now)
  · simp [hone]
  · simp [hone]

/-- A denied call returns the waiting time, as far as a `u64` goes. -/
theorem tryConsume_denied (hrate : 0 < rate)
    (h : ((finiteBucket tokens capacity rate last).tryConsume now).1.allowed = false) :
    let held := level capacity rate tokens (secondsSince last now)
    held < 1 ∧ (finiteBucket tokens capacity rate last).tryConsume now =
      (⟨false, 0, min (waitMs rate held) F64.u64Max⟩, finiteBucket held capacity rate now) := by
  intro held
  have hconsume := tryConsume_finite tokens capacity rate last now
  by_cases hadmit : 1 ≤ level capacity rate tokens (secondsSince last now)
  · simp only [if_pos hadmit] at hconsume
    rw [hconsume] at h
    exact absurd h (by simp)
  · have hless := not_le.mp hadmit
    simp only [if_neg hadmit, if_pos hrate, ceil_retry hrate hless, F64.ofNat_eq,
      F64.toU64_finite_natCast] at hconsume
    exact ⟨hless, hconsume⟩

/-- Along any run of calls the bucket is one of finite numbers, as of the last call. -/
theorem bucket_of_run {made : ℕ} {bucket : LocalBucket}
    (h : Run (clocked bucketCall) (fun _ _ => True)
      (made, .new (.finite capacity) (.finite rate) made) (last, bucket)) :
    ∃ tokens, bucket = finiteBucket tokens capacity rate last := by
  refine h.clocked_invariant
    (I := fun last bucket => ∃ tokens, bucket = finiteBucket tokens capacity rate last)
    ⟨capacity, rfl⟩ ?_
  rintro before bucket now ⟨tokens, rfl⟩ - -
  rw [bucketCall_finite]
  exact ⟨_, rfl⟩

/-- A bucket that held `tokens` at `moment`, refilled in parts by the calls it denied since. -/
def Waiting (capacity rate tokens : ℚ) (moment last : ℕ) (bucket : LocalBucket) : Prop :=
  moment ≤ last ∧
    bucket = finiteBucket (level capacity rate tokens (secondsSince moment last)) capacity rate last

theorem waiting_self (htokens : tokens ≤ capacity) :
    Waiting capacity rate tokens now now (finiteBucket tokens capacity rate now) := by
  have hzero : secondsSince now now = 0 := by simp [secondsSince]
  refine ⟨le_refl _, ?_⟩
  rw [hzero, level_zero htokens]

section Waiting
variable {moment : ℕ} {bucket : LocalBucket}

/-- Refilling in parts is refilling once. -/
theorem Waiting.call (h : Waiting capacity rate tokens moment last bucket) (hrate : 0 < rate)
    (hnow : last ≤ now) :
    bucketCall bucket now =
      let held := level capacity rate tokens (secondsSince moment now)
      (decide (1 ≤ held),
       finiteBucket (if 1 ≤ held then held - 1 else held) capacity rate now) := by
  obtain ⟨hmoment, rfl⟩ := h
  rw [bucketCall_finite, level_level hrate.le (secondsSince_nonneg _ _),
    secondsSince_add hmoment hnow]

theorem Waiting.of_denied (h : Waiting capacity rate tokens moment last bucket) (hrate : 0 < rate)
    (hnow : last ≤ now) (hdenied : (bucketCall bucket now).1 = false) :
    Waiting capacity rate tokens moment now (bucketCall bucket now).2 := by
  rw [h.call hrate hnow, decide_eq_false_iff_not] at hdenied
  rw [h.call hrate hnow]
  refine ⟨h.1.trans hnow, ?_⟩
  simp only [if_neg hdenied]

end Waiting

theorem bucket_waitsExactly (hcapacity : 1 ≤ capacity) (hrate : 0 < rate)
    (htokens : tokens < 1) :
    WaitsExactly bucketCall (fun _ => True) (10 ^ 6) now (finiteBucket tokens capacity rate now)
      (waitMs rate tokens) := by
  intro last bucket k hrun hlast _
  have hwaiting : Waiting capacity rate tokens now last bucket := by
    refine hrun.clocked_invariant (I := Waiting capacity rate tokens now)
      (waiting_self (by linarith)) ?_
    intro before bucket time hbefore htime hdenied
    exact hbefore.of_denied hrate htime hdenied
  have helapsed : secondsSince now (now + k * 10 ^ 6) = (k : ℚ) / 1000 := by
    rw [secondsSince_eq (Nat.le_add_right _ _)]
    push_cast
    ring
  rw [hwaiting.call hrate hlast, decide_eq_true_eq, helapsed]
  exact one_le_level_iff_waitMs_le hcapacity hrate k

end Local

/-! ## The script -/

/-- A run of the script on a key: whether it admits, and the key after it. -/
def scriptCall (gone : ℕ → ℕ → Bool) (capacity : ℕ) (rate : ℚ) (key : ExpiringHash) (nowMs : ℕ) :
    Bool × ExpiringHash :=
  ((scriptStep gone capacity (.finite rate) key nowMs).1.allowed,
    (scriptStep gone capacity (.finite rate) key nowMs).2)

section Script
variable {gone : ℕ → ℕ → Bool} {capacity : ℕ} {rate tokens : ℚ} {key : ExpiringHash} {last now : ℕ}

/-- A call on a stored key is allowed exactly when its bucket has a token: a key that is gone would
be full. -/
theorem scriptCall_storedKey (hcapacity : 1 ≤ capacity) (hrate : 0 < rate) (htokens : 0 ≤ tokens)
    (hgone : ∀ deadline now, gone deadline now = true → deadline ≤ now) (hnow : now ≤ F64.u64Max) :
    let refilled := level (capacity : ℚ) rate tokens (((now : ℚ) - last) / 1000)
    scriptCall gone capacity rate (storedKey capacity rate tokens last) now =
      if 1 ≤ refilled then (true, storedKey capacity rate (refilled - 1) now)
      else (false, storedKey capacity rate tokens last) := by
  have hone : (1 : ℚ) ≤ capacity := by exact_mod_cast hcapacity
  intro refilled
  unfold scriptCall
  rcases found_storedKey with hfound | ⟨hfound, hexpired⟩
  · rw [scriptStep_of_found_stored hrate hfound]
    by_cases hadmit : 1 ≤ refilled
    · simp only [if_pos hadmit, refilled]
      rfl
    · simp only [if_neg hadmit, refilled]
      rfl
  · have hrefilled : refilled = capacity :=
      full_of_expired hrate htokens (hgone _ _ hexpired) hnow
    rw [scriptStep_of_found_empty hcapacity hrate hfound, hrefilled, if_pos hone]
    rfl

/-- A denied call finds a key with less than a token, and leaves it as it is. -/
theorem scriptStep_denied (hcapacity : 1 ≤ capacity) (hrate : 0 < rate)
    (hdenied : (scriptStep gone capacity (.finite rate) (storedKey capacity rate tokens last)
      now).1.allowed = false) :
    let refilled := level (capacity : ℚ) rate tokens (((now : ℚ) - last) / 1000)
    refilled < 1 ∧
      scriptStep gone capacity (.finite rate) (storedKey capacity rate tokens last) now =
        (deniedReply refilled rate, storedKey capacity rate tokens last) := by
  intro refilled
  rcases found_storedKey with hfound | ⟨hfound, -⟩
  · rw [scriptStep_of_found_stored hrate hfound] at hdenied ⊢
    by_cases hadmit : 1 ≤ refilled
    · simp only [if_pos hadmit, refilled] at hdenied
      exact absurd hdenied (by simp [admittedReply])
    · exact ⟨not_le.mp hadmit, if_neg hadmit⟩
  · rw [scriptStep_of_found_empty hcapacity hrate hfound] at hdenied
    exact absurd hdenied (by simp [admittedReply])

/-- Along any run of calls there is no key, or one with tokens as of some time. -/
theorem key_of_run (hcapacity : 1 ≤ capacity) (hrate : 0 < rate)
    (hgone : ∀ deadline now, gone deadline now = true → deadline ≤ now) {start : ℕ}
    (h : Run (clocked (scriptCall gone capacity rate)) (fun _ now => now ≤ F64.u64Max) (start, {})
      (last, key)) :
    key = {} ∨ ∃ tokens since, key = storedKey capacity rate tokens since ∧ 0 ≤ tokens ∧
      since ≤ last := by
  have hone : (1 : ℚ) ≤ capacity := by exact_mod_cast hcapacity
  refine h.clocked_invariant (I := fun last key => key = {} ∨ ∃ tokens since,
    key = storedKey capacity rate tokens since ∧ 0 ≤ tokens ∧ since ≤ last) (Or.inl rfl) ?_
  rintro before key now (rfl | ⟨tokens, since, rfl, htokens, hsince⟩) hbefore hnow
  · right
    unfold scriptCall
    rw [scriptStep_of_found_empty hcapacity hrate rfl]
    exact ⟨capacity - 1, now, rfl, by linarith, le_refl _⟩
  · right
    rw [scriptCall_storedKey hcapacity hrate htokens hgone hnow]
    by_cases hadmit : 1 ≤ level (capacity : ℚ) rate tokens (((now : ℚ) - since) / 1000)
    · rw [if_pos hadmit]
      exact ⟨_, now, rfl, by linarith, le_refl _⟩
    · rw [if_neg hadmit]
      exact ⟨tokens, since, rfl, htokens, hsince.trans hbefore⟩

/-- Denied calls leave the key as it was. -/
theorem script_waitsExactly (hcapacity : 1 ≤ capacity) (hrate : 0 < rate) (htokens : 0 ≤ tokens)
    (hgone : ∀ deadline now, gone deadline now = true → deadline ≤ now) :
    WaitsExactly (scriptCall gone capacity rate) (· ≤ F64.u64Max) 1 now
      (storedKey capacity rate tokens last)
      (waitMs rate (level (capacity : ℚ) rate tokens (((now : ℚ) - last) / 1000))) := by
  have hone : (1 : ℚ) ≤ capacity := by exact_mod_cast hcapacity
  intro later key k hrun _ hshown
  obtain rfl : key = storedKey capacity rate tokens last := by
    refine hrun.clocked_invariant (I := fun _ key => key = storedKey capacity rate tokens last)
      rfl ?_
    rintro before key time rfl - hdenied
    exact congrArg Prod.snd (scriptStep_denied hcapacity hrate hdenied).2
  have hsplit : ((now + k * 1 : ℕ) - last : ℚ) / 1000 =
      ((now : ℚ) - last) / 1000 + (k : ℚ) / 1000 := by
    push_cast
    ring
  have hlevel : level (capacity : ℚ) rate tokens (((now + k * 1 : ℕ) - last : ℚ) / 1000) =
      level (capacity : ℚ) rate (level (capacity : ℚ) rate tokens (((now : ℚ) - last) / 1000))
        ((k : ℚ) / 1000) := by
    rw [hsplit, level_level hrate.le (by positivity)]
  rw [scriptCall_storedKey hcapacity hrate htokens hgone hshown,
    ← one_le_level_iff_waitMs_le hone hrate, ← hlevel]
  split
  · rename_i hadmit
    exact iff_of_true rfl hadmit
  · rename_i hadmit
    exact iff_of_false (by simp) hadmit

end Script

/-! ## Both -/

/-- The number of a denial is the waiting time of its bucket: of the script as it is, of the local
bucket as far as a `u64` goes. -/
theorem retry_after_exact (capacity : ℕ) (hcapacity : 1 ≤ capacity) (rate : ℚ) (hrate : 0 < rate) :
    (∀ gone : ℕ → ℕ → Bool, (∀ deadline now, gone deadline now = true → deadline ≤ now) →
      ∀ start last key now,
        Run (clocked (scriptCall gone capacity rate)) (fun _ now => now ≤ F64.u64Max) (start, {})
          (last, key) → last ≤ now →
        let denied := scriptStep gone capacity (.finite rate) key now
        denied.1.allowed = false → ∃ wait, 1 ≤ wait ∧ denied.1.retryAfterMs = F64.ofNat wait ∧
          WaitsExactly (scriptCall gone capacity rate) (· ≤ F64.u64Max) 1 now denied.2 wait) ∧
    (∀ made last bucket now,
      Run (clocked bucketCall) (fun _ _ => True)
        (made, .new (F64.ofNat capacity) (.finite rate) made) (last, bucket) → last ≤ now →
      let denied := bucket.tryConsume now
      denied.1.allowed = false → ∃ wait, 1 ≤ wait ∧ denied.1.retryAfterMs = min wait F64.u64Max ∧
        WaitsExactly bucketCall (fun _ => True) (10 ^ 6) now denied.2 wait) := by
  have hone : (1 : ℚ) ≤ capacity := by exact_mod_cast hcapacity
  constructor
  · intro gone hgone start last key now hrun _ denied hdenied
    rcases key_of_run hcapacity hrate hgone hrun with rfl | ⟨tokens, since, rfl, htokens, -⟩
    · -- without a key the call is admitted
      have hadmitted : denied.1 = admittedReply (capacity - 1) :=
        congrArg Prod.fst (scriptStep_of_found_empty hcapacity hrate rfl)
      rw [hadmitted] at hdenied
      exact absurd hdenied (by simp [admittedReply])
    · obtain ⟨hless, hstep⟩ := scriptStep_denied hcapacity hrate hdenied
      refine ⟨_, waitMs_pos hrate hless, ?_, ?_⟩
      · rw [show denied = _ from hstep]
        exact ceil_retry hrate hless
      · rw [show denied = _ from hstep]
        exact script_waitsExactly hcapacity hrate htokens hgone
  · intro made last bucket now hrun _ denied hdenied
    obtain ⟨tokens, rfl⟩ := bucket_of_run hrun
    obtain ⟨hless, hconsume⟩ := tryConsume_denied hrate hdenied
    refine ⟨_, waitMs_pos hrate hless, ?_, ?_⟩
    · rw [show denied = _ from hconsume]
    · rw [show denied = _ from hconsume]
      exact bucket_waitsExactly hone hrate hless

/-- A bucket of one token, after a call that took it. -/
def emptied (rate : ℚ) : LocalBucket :=
  ((LocalBucket.new (F64.ofNat 1) (.finite rate) 0).tryConsume 0).2

theorem run_emptied (rate : ℚ) :
    Run (clocked bucketCall) (fun _ _ => True)
      (0, .new (F64.ofNat 1) (.finite rate) 0) (0, emptied rate) :=
  .snoc (a := 0) .init trivial rfl

/-- At two tokens per second the next call has to wait for half a second. -/
theorem retry_after_exact_half_second :
    ((emptied 2).tryConsume 0).1 = ⟨false, 0, 500⟩ ∧ ∃ wait, 500 = min wait F64.u64Max ∧
      WaitsExactly bucketCall (fun _ => True) (10 ^ 6) 0 ((emptied 2).tryConsume 0).2 wait := by
  have hdenied : ((emptied 2).tryConsume 0).1 = ⟨false, 0, 500⟩ := by decide +kernel
  obtain ⟨wait, -, hretry, hexact⟩ := (retry_after_exact 1 (by decide) 2 (by norm_num)).2 0 0
    (emptied 2) 0 (run_emptied 2) (le_refl _) (by rw [hdenied])
  rw [hdenied] at hretry
  exact ⟨hdenied, wait, hretry, hexact⟩

/-- At one token in ten to the seventeenth seconds a call after the largest number of milliseconds
is still denied. -/
theorem retry_after_cut_off :
    Run (clocked bucketCall) (fun _ _ => True)
        (0, .new (F64.ofNat 1) (.finite (1 / 10 ^ 17)) 0) (0, emptied (1 / 10 ^ 17)) ∧
      ((emptied (1 / 10 ^ 17)).tryConsume 0).1 = ⟨false, 0, 2 ^ 64 - 1⟩ ∧
      (((emptied (1 / 10 ^ 17)).tryConsume 0).2.tryConsume ((2 ^ 64 - 1) * 10 ^ 6)).1.allowed =
        false := by
  refine ⟨run_emptied _, ?_, ?_⟩
  · decide +kernel
  · decide +kernel

end RateLimit
end OpenApiGateway
