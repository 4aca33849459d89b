import Mathlib.Tactic.IntervalCases
import OpenApiGateway.Config.Validation
import OpenApiGateway.RateLimit.Fallback

/-!
# Which replies of the script its caller can read

The script writes its numbers with `%.14g`, and its caller reads unsigned integers. Whole numbers
of fifteen digits and more come out with an exponent, and what is not a number comes out as a
word; and the script returns nothing at all if Redis refuses the time to live it is given. The
caller then drops the decision that was made in Redis and asks the local bucket.
`reply_readable_iff` says for which routes and clocks this does not happen, in the arithmetic of
doubles and with the fourteen digits that Redis keeps of a number.
-/

namespace OpenApiGateway
namespace RateLimit

open Lib.Text
open scoped Binary64
open Binary64 (IsDouble isDouble_zero isDouble_one isDouble_natCast isDouble_of_round le_round
  round_le ofNat_eq_of_le)

/-! ## Numbers that are read -/

/-- Digits do not start with a zero, except for the number zero. -/
theorem head?_toDigits_ne_zero {n : ℕ} (hn : 0 < n) : (Nat.toDigits 10 n).head? ≠ some '0' := by
  induction n using Nat.strong_induction_on with
  | _ n ih =>
    by_cases hsmall : n < 10
    · rw [Nat.toDigits_of_lt_base hsmall]
      interval_cases n <;> decide
    · have hquotient := ih (n / 10) (by omega) (by omega)
      rw [Nat.toDigits_of_base_le (by omega) (by omega),
        List.head?_append_of_ne_nil _ Nat.toDigits_ne_nil]
      exact hquotient

theorem readUnsigned_toString {n : ℕ} (hn : n < 10 ^ 14) :
    readUnsigned 64 (toString n).toList = some n := by
  have htext : (toString n).toList = Nat.toDigits 10 n := by
    rw [Nat.toString_eq_repr, Nat.toList_repr]
  have hdigits : (Nat.toDigits 10 n).all Char.isDigit = true :=
    List.all_eq_true.mpr fun c hc => Nat.isDigit_of_mem_toDigits (by omega) (by omega) hc
  have hzero : (Nat.toDigits 10 n).head? = some '0' → (Nat.toDigits 10 n).length = 1 := by
    intro hhead
    rcases Nat.eq_zero_or_pos n with rfl | hpos
    · rfl
    · exact absurd hhead (head?_toDigits_ne_zero hpos)
  have hbound : digitsValue (Nat.toDigits 10 n) < 2 ^ 64 := by
    rw [digitsValue_toDigits]
    omega
  rw [htext, readUnsigned, if_pos ⟨Nat.toDigits_ne_nil, hdigits, hzero, hbound⟩,
    digitsValue_toDigits]

/-- The caller reads whole numbers from zero to fourteen digits. -/
theorem isSome_readUnsigned_iff (z : ℤ) :
    (readUnsigned 64 (formatWhole z).toList).isSome = true ↔ 0 ≤ z ∧ z < 10 ^ 14 := by
  constructor
  · intro h
    obtain ⟨n, hn⟩ := Option.isSome_iff_exists.mp h
    obtain ⟨hz, hsmall⟩ := of_readUnsigned_formatWhole hn
    omega
  · rintro ⟨hnonneg, hsmall⟩
    obtain ⟨n, rfl⟩ := Int.eq_ofNat_of_zero_le hnonneg
    have hn : n < 10 ^ 14 := by omega
    have htext : formatWhole (n : ℤ) = toString n := by
      unfold formatWhole
      simp only [Int.natAbs_natCast]
      rw [if_neg (by omega), if_pos hn]
    rw [htext, readUnsigned_toString hn]
    rfl

/-- Of the texts of numbers the caller reads those from zero to fourteen digits. -/
theorem isSome_readUnsigned_formatG14_iff (x : F64) :
    (readUnsigned 64 (formatG14 x).toList).isSome = true ↔
      (F64.finite 0).le x = true ∧ x.lt (.finite (10 ^ 14)) = true := by
  cases x with
  | finite q =>
    rw [formatG14, isSome_readUnsigned_iff, Int.floor_nonneg, Int.floor_lt]
    norm_num
  | nan => decide
  | negInf => decide
  | posInf => decide

/-! ## What a run of the script returns -/

section Returned
variable (accepts : F64 → Bool)

/-- The text a run returns. There is none if Redis refuses the time to live: `redis.call` then
raises an error, with the hash already written. -/
def ScriptRun.returned (run : ScriptRun) : Option String :=
  if run.expire.all accepts then some run.reply.text else none

/-- The caller can read what a run returns. -/
def ScriptRun.isRead (run : ScriptRun) : Bool :=
  ((run.returned accepts).bind LuaResponse.fromStr).isSome

/-- How the invocation of a run goes that reaches Redis and is answered in time. -/
def ScriptRun.invocation (message : String) (run : ScriptRun) : Invocation :=
  if run.expire.all accepts then .replied else .lost (some message)

/-- A run of the script for a route. -/
def routeRun (hash : BucketHash) (capacity : ℕ) (rate : F64) (now : ℕ) : ScriptRun :=
  luaScript hash (F64.ofNat now) (F64.ofNat capacity) rate (F64.ofNat 1)
    (F64.ofNat (ttlSeconds capacity rate))

theorem ofNat_one : F64.ofNat 1 = .finite 1 := by decide +kernel

variable {accepts}

theorem isRead_iff (run : ScriptRun) :
    run.isRead accepts = true ↔
      run.expire.all accepts = true ∧ (LuaResponse.fromStr run.reply.text).isSome = true := by
  unfold ScriptRun.isRead ScriptRun.returned
  cases run.expire.all accepts <;> simp

/-- An admitted call's reply is read if the time to live is accepted and few enough tokens are
left, a denied one's if the wait is short enough. -/
theorem isRead_routeRun_iff (hash : BucketHash) (capacity : ℕ) (rate : F64) (now : ℕ) :
    (routeRun hash capacity rate now).isRead accepts = true ↔
      let held := refilledTokens hash (F64.ofNat now) (F64.ofNat capacity) rate
      if (F64.finite 1).le held = true then
        accepts (F64.ofNat (ttlSeconds capacity rate)) = true ∧
          (F64.finite 0).le (held.sub (.finite 1)).floor = true ∧
          (held.sub (.finite 1)).floor.lt (.finite (10 ^ 14)) = true
      else (F64.finite 0).le (refillMs held rate).ceil = true ∧
        (refillMs held rate).ceil.lt (.finite (10 ^ 14)) = true := by
  rw [isRead_iff, routeRun, ofNat_one, luaScript_eq, fromStr_text]
  simp only
  split
  · simp [isSome_readUnsigned_formatG14_iff]
  · simp [isSome_readUnsigned_formatG14_iff]

end Returned

/-! ## What Redis keeps of a number -/

section Stored
variable {a b q : ℚ}

theorem stored_mono (h : a ≤ b) :
    (Arithmetic.stored (.finite a)).le (Arithmetic.stored (.finite b)) = true :=
  Binary64.overflow_mono (Binary64.format.round_mono (Binary64.textFormat.round_mono h))

theorem exists_stored (hq : 0 ≤ q) (hle : q ≤ 2 ^ 64) :
    ∃ x, Arithmetic.stored (.finite q) = .finite x ∧ 0 ≤ x := by
  have hzero : Arithmetic.stored (.finite 0) = .finite 0 := by decide +kernel
  have hmax : Arithmetic.stored (.finite (10 ^ 20)) = .finite (10 ^ 20) := by decide +kernel
  have hlow := stored_mono hq
  have hhigh := stored_mono (hle.trans (by norm_num : (2 ^ 64 : ℚ) ≤ 10 ^ 20))
  rw [hzero] at hlow
  rw [hmax] at hhigh
  obtain ⟨x, hx, hnonneg, -⟩ := F64.exists_finite hlow hhigh
  exact ⟨x, hx, hnonneg⟩

/-- Whole numbers of fourteen digits are kept. -/
theorem stored_natCast {n : ℕ} (h : n ≤ 10 ^ 14) :
    Arithmetic.stored (.finite n) = .finite n := by
  have htext : Binary64.textFormat.round n = n := by
    have habs : |(n : ℤ)| ≤ (Binary64.textFormat.radix : ℤ) ^ Binary64.textFormat.precision := by
      rw [abs_of_nonneg (by positivity)]
      show (n : ℤ) ≤ 10 ^ 14
      exact_mod_cast h
    exact_mod_cast Binary64.textFormat.round_intCast (by decide) habs
  show Binary64.overflow (Binary64.format.round (Binary64.textFormat.round n)) = _
  rw [htext]
  exact isDouble_natCast (by omega)

theorem exists_ofNat {n : ℕ} (h : n < 2 ^ 64) :
    ∃ x, F64.ofNat n = .finite x ∧ IsDouble x ∧ 0 ≤ x ∧ x ≤ 2 ^ 64 := by
  have hmax : IsDouble (2 ^ 64) := by decide +kernel
  obtain ⟨x, hx, hlow, hhigh⟩ := F64.exists_finite
    (le_round isDouble_zero (Nat.cast_nonneg (α := ℚ) n))
    (round_le hmax (by exact_mod_cast h.le))
  exact ⟨x, hx, isDouble_of_round hx, hlow, hhigh⟩

end Stored

/-! ## What earlier runs leave in a hash -/

/-- Hashes left by any runs of the script, of any routes; a key that is gone leaves none. -/
inductive Left : BucketHash → Prop
  | gone : Left {}
  | run {hash : BucketHash} (now capacity : ℕ) (rate ttl : F64) : now < 2 ^ 64 →
      capacity < 2 ^ 64 → Left hash →
      Left (luaScript hash (F64.ofNat now) (F64.ofNat capacity) rate (F64.ofNat 1) ttl).hash

/-- The hash of a bucket that was last written at a time. -/
def StoredAt (last : ℕ) (hash : BucketHash) : Prop :=
  hash = {} ∨ hash.lastRefillMs = some (Arithmetic.stored (F64.ofNat last))

/-- What is at least one and at most the capacity is a number. -/
theorem exists_of_one_le_luaMin {a : F64} {capacity : ℚ}
    (h : (F64.finite 1).le (a.luaMin (.finite capacity)) = true) :
    ∃ q, a.luaMin (.finite capacity) = .finite q ∧ 1 ≤ q ∧ q ≤ capacity := by
  have hle : (a.luaMin (.finite capacity)).le (.finite capacity) = true := by
    cases a with
    | nan => simp [F64.luaMin, F64.lt, F64.le] at h
    | negInf => rfl
    | posInf => simp [F64.luaMin, F64.lt]
    | finite q => simp [F64.luaMin_finite]
  exact F64.exists_finite h hle

/-- The script writes a hash only when it admits, and then finite numbers. -/
theorem luaScript_hash (hash : BucketHash) (now : ℕ) {capacity : ℕ} (hcapacity : capacity < 2 ^ 64)
    (rate ttl : F64) :
    let run := luaScript hash (F64.ofNat now) (F64.ofNat capacity) rate (F64.ofNat 1) ttl
    (run.reply.allowed = false ∧ run.hash = hash) ∨
      (run.reply.allowed = true ∧ ∃ tokens : ℚ, 0 ≤ tokens ∧
        run.hash = ⟨some (.finite tokens), some (Arithmetic.stored (F64.ofNat now))⟩) := by
  obtain ⟨full, hfull, -, -, hmax⟩ := exists_ofNat hcapacity
  intro run
  simp only [run, ofNat_one, luaScript_eq, hfull]
  split
  · rename_i hadmit
    obtain ⟨held, hheld, hone, hle⟩ := exists_of_one_le_luaMin hadmit
    obtain ⟨left, hleft, hnonneg, hless⟩ := F64.exists_finite
      (le_round isDouble_zero (by linarith : 0 ≤ held + -1))
      (round_le (by decide +kernel : IsDouble (2 ^ 64)) (by linarith : held + -1 ≤ 2 ^ 64))
    obtain ⟨tokens, htokens, hpos⟩ := exists_stored hnonneg hless
    refine Or.inr ⟨rfl, tokens, hpos, ?_⟩
    have hsub : (F64.finite held).sub (.finite 1) = .finite left := hleft
    rw [refilledTokens, hheld, hsub, htokens]
  · exact Or.inl ⟨rfl, rfl⟩

/-- The tokens and the time of a hash are numbers. -/
theorem Left.cases {hash : BucketHash} (h : Left hash) :
    hash = {} ∨ ∃ (tokens : ℚ) (last : ℕ), 0 ≤ tokens ∧ last < 2 ^ 64 ∧
      hash = ⟨some (.finite tokens), some (Arithmetic.stored (F64.ofNat last))⟩ := by
  induction h with
  | gone => exact Or.inl rfl
  | run now capacity rate ttl hnow hcapacity _ ih =>
    rcases luaScript_hash _ now hcapacity rate ttl with
      ⟨-, hsame⟩ | ⟨-, tokens, hpos, hstored⟩
    · rw [hsame]
      exact ih
    · exact Or.inr ⟨tokens, now, hpos, hnow, hstored⟩

/-- The hash of a key after a check on it. -/
theorem hash_check_self (s : System) (key : String) (capacity : ℕ) (rate : F64) (call : Call) :
    (s.check key capacity rate call).2.redis.hash key =
      if s.ranScript call then (s.scriptRun key capacity rate call).hash else s.redis.hash key := by
  have hdegraded : ∀ s' : System, (s'.enterDegraded key capacity call).2.redis = s'.redis := by
    intro s'
    unfold System.enterDegraded
    split
    · rfl
    · split <;> rfl
  rcases check_cases s key capacity rate call with
    ⟨hconnected, hreplied, resp, -, hcheck⟩ | ⟨-, s', hredis, -, -, -, hcheck⟩
  · rw [hcheck, hash_store_self, if_pos (by simp [System.ranScript, hconnected, hreplied])]
  · rw [hcheck, hdegraded, hredis]
    split
    · exact hash_store_self _
    · rfl

/-- The numbers of an operation are of the type `u64`. -/
def Op.Fits : Op → Prop
  | .check _ capacity _ call => capacity < 2 ^ 64 ∧ call.nowMs < 2 ^ 64
  | .ping _ => True

instance (op : Op) : Decidable op.Fits := by
  cases op <;> unfold Op.Fits <;> infer_instance

/-- In a run of checks and pings every hash is left by runs of the script. -/
theorem left_after {s : System} {key : String} (h : Left (s.redis.hash key)) {ops : List Op}
    (hfits : ∀ op ∈ ops, op.Fits) : Left ((s.after ops).redis.hash key) := by
  induction ops using List.reverseRecOn with
  | nil => exact h
  | append_singleton ops op ih =>
    have hbefore := ih fun op hop => hfits op (List.mem_append_left _ hop)
    have hop : op.Fits := hfits op (by simp)
    rw [System.after_concat]
    cases op with
    | ping outcome =>
      rw [System.apply, (ping_frame _ outcome).2.1]
      exact hbefore
    | check bucketKey capacity rate call =>
      by_cases hkey : key = bucketKey
      · subst hkey
        rw [System.apply, hash_check_self]
        split
        · exact Left.run _ _ _ _ hop.2 hop.1 hbefore
        · exact hbefore
      · have hview : ((s.after ops).check bucketKey capacity rate call).2.redis.hash key =
            (s.after ops).redis.hash key := congrArg KeyView.hash (check_view_of_ne hkey)
        rw [System.apply, hview]
        exact hbefore

/-! ## Routes and clocks whose replies are read -/

/-- The hash of a bucket emptied at a time. -/
def emptyHash (last : ℕ) : BucketHash :=
  ⟨some (.finite 0), some (Arithmetic.stored (F64.ofNat last))⟩

/-- A route whose replies are read at `now` if its buckets were last written at `last`: the
capacity has fourteen digits or is the next number, the rate is finite, Redis accepts the time to
live, and an empty bucket has a token again or has to wait a number of milliseconds of fourteen
digits. -/
structure Tame (accepts : F64 → Bool) (capacity : ℕ) (rate : F64) (last now : ℕ) : Prop where
  capacity_le : capacity ≤ 10 ^ 14
  rate_finite : rate.lt .posInf = true
  expire : accepts (F64.ofNat (ttlSeconds capacity rate)) = true
  wait : let held := refilledTokens (emptyHash last) (F64.ofNat now) (F64.ofNat capacity) rate
    (F64.finite 1).le held = true ∨ (refillMs held rate).ceil.lt (.finite (10 ^ 14)) = true

/-- Every reply at `now` to a bucket last written at `last` is read, whatever runs left it. -/
def AlwaysRead (accepts : F64 → Bool) (capacity : ℕ) (rate : F64) (last now : ℕ) : Prop :=
  ∀ hash, Left hash → StoredAt last hash → (routeRun hash capacity rate now).isRead accepts = true

section Read
variable {accepts : F64 → Bool} {capacity last now : ℕ} {rate : F64} {hash : BucketHash}

/-- No time passes between a moment and itself. -/
theorem elapsed_self (n : ℚ) :
    ((F64.finite n).sub (.finite n)).div (.finite 1000) = .finite 0 := by
  have hsub : (F64.finite n).sub (.finite n) = .finite 0 := by
    show Arithmetic.round (n + -n) = _
    rw [add_neg_cancel]
    exact isDouble_zero
  rw [hsub, F64.div, if_neg (by norm_num), zero_div]
  exact isDouble_zero

/-- A refill at the stored time changes nothing. -/
theorem refilledTokens_same {tokens full n : ℚ} (htokens : IsDouble tokens) (hle : tokens ≤ full)
    (r : ℚ) :
    refilledTokens (finiteHash tokens n) (.finite n) (.finite full) (.finite r) =
      .finite tokens := by
  have hadd : (F64.finite tokens).add (.finite 0) = .finite tokens := by
    rw [F64.add, add_zero]
    exact htokens
  simp only [refilledTokens, finiteHash, Option.getD_some, elapsed_self, mul_no_time, hadd,
    F64.luaMin_finite, min_eq_left hle]

/-- Without a hash a bucket is full. -/
theorem refilledTokens_gone {full n : ℚ} (hfull : IsDouble full) (r : ℚ) :
    refilledTokens {} (.finite n) (.finite full) (.finite r) = .finite full :=
  refilledTokens_same (n := n) hfull (le_refl _) r

/-! ### Tame routes are read -/

/-- What an admitted call leaves of a bucket of at most ten to the fourteenth tokens. -/
theorem floor_left_lt {held : ℚ} (hone : 1 ≤ held) (hle : held ≤ 10 ^ 14) :
    (F64.finite 0).le ((F64.finite held).sub (.finite 1)).floor = true ∧
      ((F64.finite held).sub (.finite 1)).floor.lt (.finite (10 ^ 14)) = true := by
  obtain ⟨left, hleft, hnonneg, hless⟩ := F64.exists_finite
    (le_round isDouble_zero (by linarith : 0 ≤ held + -1))
    (round_le (by decide +kernel : IsDouble (10 ^ 14 - 1)) (by linarith : held + -1 ≤ 10 ^ 14 - 1))
  have hsub : (F64.finite held).sub (.finite 1) = .finite left := hleft
  have hfloor : ((⌊left⌋ : ℤ) : ℚ) ≤ left := Int.floor_le left
  rw [hsub, F64.floor_finite, F64.le_finite, F64.lt_finite, decide_eq_true_eq, decide_eq_true_eq]
  exact ⟨by exact_mod_cast Int.floor_nonneg.mpr hnonneg, by linarith⟩

/-- A bucket that holds no more waits no shorter. -/
theorem refillMs_anti {held held' : F64} {r : ℚ} (hr : 0 < r) (h : held.le held' = true) :
    (refillMs held' (.finite r)).le (refillMs held (.finite r)) = true :=
  F64.mul_le_mul_right (by norm_num) (F64.div_le_div_right hr (F64.sub_le_sub_left 1 h))

theorem refillMs_nonneg {held : F64} {r : ℚ} (hr : 0 < r)
    (h : held.le (.finite 1) = true) :
    (F64.finite 0).le (refillMs held (.finite r)).ceil = true := by
  have hnone : (refillMs (.finite 1) (.finite r)) = .finite 0 := by
    have hsub : (F64.finite 1).sub (.finite 1) = .finite 0 := by decide +kernel
    rw [refillMs, hsub, F64.div, if_neg hr.ne', zero_div, isDouble_zero]
    decide +kernel
  have hanti := F64.ceil_le_ceil (refillMs_anti hr h)
  rw [hnone] at hanti
  simpa [F64.ceil] using hanti

/-- More tokens are more tokens after a refill. -/
theorem refilledTokens_mono {tokens tokens' full : ℚ} {r : ℚ} (hr : 0 < r) {last now : F64}
    (h : tokens ≤ tokens') (hlast : last.le last = true) (hnow : ∃ n, now = .finite n) :
    (refilledTokens ⟨some (.finite tokens), some last⟩ now (.finite full) (.finite r)).le
      (refilledTokens ⟨some (.finite tokens'), some last⟩ now
        (.finite full) (.finite r)) = true := by
  obtain ⟨n, rfl⟩ := hnow
  have hgain := F64.mul_le_mul_left hr
    (F64.div_le_div_right (d := 1000) (by norm_num) (F64.sub_le_sub_left n hlast))
  refine F64.luaMin_le_luaMin full ?_
  simp only [Option.getD_some]
  cases hmul : (F64.finite r).mul (((F64.finite n).sub last).div (.finite 1000)) with
  | nan => simp [hmul, F64.le] at hgain
  | negInf => rfl
  | posInf => rfl
  | finite g => exact Arithmetic.round_mono (by linarith)

/-- The reply to a call on a full bucket, which admits. -/
theorem Tame.isRead_gone {r : ℚ} (h : Tame accepts capacity (.finite r) last now)
    (hcapacity : 1 ≤ capacity) (hnow : now < 2 ^ 64) :
    (routeRun {} capacity (.finite r) now).isRead accepts = true := by
  have hsmall : capacity ≤ 2 ^ 53 := h.capacity_le.trans (by norm_num)
  have hcast : (capacity : ℚ) ≤ 10 ^ 14 := by exact_mod_cast h.capacity_le
  have hone : (1 : ℚ) ≤ capacity := by exact_mod_cast hcapacity
  obtain ⟨n, hn, -⟩ := exists_ofNat hnow
  rw [isRead_routeRun_iff, hn, ofNat_eq_of_le hsmall, refilledTokens_gone (isDouble_natCast hsmall)]
  simp only [F64.le_finite, decide_eq_true_eq, if_pos hone]
  exact ⟨h.expire, by simpa using floor_left_lt hone hcast⟩

/-- The reply to a call on a stored bucket: it holds no less than an empty one, and waits no
longer. -/
theorem Tame.isRead_stored {r : ℚ} (h : Tame accepts capacity (.finite r) last now) (hr : 0 < r)
    (hlast : last < 2 ^ 64) (hnow : now < 2 ^ 64) {tokens : ℚ} (htokens : 0 ≤ tokens) :
    (routeRun ⟨some (.finite tokens), some (Arithmetic.stored (F64.ofNat last))⟩ capacity
      (.finite r) now).isRead accepts = true := by
  have hsmall : capacity ≤ 2 ^ 53 := h.capacity_le.trans (by norm_num)
  have hcast : (capacity : ℚ) ≤ 10 ^ 14 := by exact_mod_cast h.capacity_le
  obtain ⟨n, hn, -⟩ := exists_ofNat hnow
  obtain ⟨l, hl, -, hlpos, hlmax⟩ := exists_ofNat hlast
  obtain ⟨time, htime, -⟩ := exists_stored hlpos hlmax
  have hmore := @refilledTokens_mono 0 tokens capacity r hr (Arithmetic.stored (F64.ofNat last))
    (F64.ofNat now) htokens (by rw [hl, htime]; simp) ⟨n, hn⟩
  have hwait := h.wait
  rw [emptyHash, ofNat_eq_of_le hsmall] at hwait
  rw [isRead_routeRun_iff, ofNat_eq_of_le hsmall]
  simp only
  split
  · rename_i hadmit
    obtain ⟨held, hheld, hone, hle⟩ := exists_of_one_le_luaMin hadmit
    rw [refilledTokens, hheld]
    exact ⟨h.expire, floor_left_lt hone (hle.trans hcast)⟩
  · rename_i hdenied
    rw [Bool.not_eq_true] at hdenied
    have hless := F64.lt_of_not_le (by simp) (F64.le_refl_of_ge hmore) hdenied
    refine ⟨refillMs_nonneg hr (F64.le_of_lt hless), ?_⟩
    rcases hwait with hheld | hshort
    · -- the empty bucket has no token either
      exact absurd (F64.le_trans hheld hmore) (by simp [hdenied])
    · exact F64.lt_of_le_of_lt (F64.ceil_le_ceil (refillMs_anti hr hmore)) hshort

theorem Tame.isRead (h : Tame accepts capacity rate last now) (hcapacity : 1 ≤ capacity)
    (hrate : (F64.finite 0).lt rate = true) (hlast : last < 2 ^ 64) (hnow : now < 2 ^ 64)
    (hleft : Left hash) (hstored : StoredAt last hash) :
    (routeRun hash capacity rate now).isRead accepts = true := by
  obtain ⟨r, rfl⟩ : ∃ r, rate = .finite r := by
    have hfinite := h.rate_finite
    cases rate <;> simp_all [F64.lt]
  rcases hleft.cases with rfl | ⟨tokens, last', htokens, -, rfl⟩
  · exact h.isRead_gone hcapacity hnow
  · have htime : Arithmetic.stored (F64.ofNat last') = Arithmetic.stored (F64.ofNat last) := by
      rcases hstored with hgone | htime
      · simp at hgone
      · simpa using htime
    rw [htime]
    exact h.isRead_stored (by simpa using hrate) hlast hnow htokens

/-! ### Routes that are read are tame -/

/-- A call that finds a whole number of tokens takes one of them. -/
theorem Left.take (h : Left hash) (hsmall : capacity ≤ 10 ^ 14) (hlast : last ≤ 10 ^ 14) {k : ℕ}
    (hk : k < capacity)
    (hheld : refilledTokens hash (F64.ofNat last) (F64.ofNat capacity) (.finite 1) =
      .finite (k + 1 : ℕ)) : Left (finiteHash k last) := by
  have hrun := Left.run last capacity (.finite 1) (.finite 1) (by omega) (by omega) h
  have hsub : (F64.finite ((k + 1 : ℕ) : ℚ)).sub (.finite 1) = .finite k := by
    show Arithmetic.round (((k + 1 : ℕ) : ℚ) + -1) = _
    rw [Nat.cast_add_one, add_neg_cancel_right]
    exact isDouble_natCast (by omega)
  have hone : (F64.finite 1).le (.finite ((k + 1 : ℕ) : ℚ)) = true := by simp
  have hlast' : F64.ofNat last = .finite last := ofNat_eq_of_le (hlast.trans (by norm_num))
  rw [ofNat_one, luaScript_eq, hheld] at hrun
  simp only [if_pos hone, hsub, hlast', stored_natCast hlast,
    stored_natCast (show k ≤ 10 ^ 14 by omega)] at hrun
  exact hrun

/-- Calls at one moment empty a bucket. -/
theorem left_drained (hsmall : capacity ≤ 10 ^ 14) (hlast : last ≤ 10 ^ 14) (tokens : ℕ)
    (htokens : tokens < capacity) : Left (finiteHash tokens last) := by
  have hcapacity : capacity ≤ 2 ^ 53 := hsmall.trans (by norm_num)
  have hlast' : F64.ofNat last = .finite last := ofNat_eq_of_le (hlast.trans (by norm_num))
  -- by induction on the number of calls made so far
  induction hleft : capacity - (tokens + 1) generalizing tokens with
  | zero =>
    refine Left.gone.take hsmall hlast htokens ?_
    rw [hlast', ofNat_eq_of_le hcapacity, refilledTokens_gone (isDouble_natCast hcapacity),
      show tokens + 1 = capacity by omega]
  | succ k ih =>
    refine (ih (tokens + 1) (by omega) (by omega)).take hsmall hlast htokens ?_
    rw [hlast', ofNat_eq_of_le hcapacity]
    exact refilledTokens_same (isDouble_natCast (by omega)) (by exact_mod_cast htokens) 1

/-- A call on a full bucket leaves fourteen digits of tokens. -/
theorem capacity_le_of_floor_lt {full : ℚ} (hfull : F64.ofNat capacity = .finite full)
    (h : ((F64.finite full).sub (.finite 1)).floor.lt (.finite (10 ^ 14)) = true) :
    capacity ≤ 10 ^ 14 := by
  by_contra hlarge
  have hcast : (10 ^ 14 + 1 : ℚ) ≤ capacity := by exact_mod_cast not_le.mp hlarge
  have hmore := le_round (by decide +kernel : IsDouble (10 ^ 14 + 1)) hcast
  rw [show Arithmetic.round (capacity : ℚ) = _ from hfull, F64.le_finite,
    decide_eq_true_eq] at hmore
  have hleft := le_round (by decide +kernel : IsDouble (10 ^ 14))
    (by linarith : (10 ^ 14 : ℚ) ≤ full + -1)
  have hfloor := F64.floor_le_floor (b := (F64.finite full).sub (.finite 1)) hleft
  have hwhole : (F64.finite (10 ^ 14)).floor = .finite (10 ^ 14) := by decide +kernel
  rw [hwhole] at hfloor
  exact absurd h (by simp [F64.not_lt_of_ge hfloor])

/-- At an infinite rate the first reply is not read: infinity times no time is not a number. -/
theorem isRead_gone_posInf (hfits : capacity < 2 ^ 64) (hnow : now < 2 ^ 64) :
    (routeRun {} capacity .posInf now).isRead accepts = false := by
  obtain ⟨n, hn, -⟩ := exists_ofNat hnow
  obtain ⟨full, hfull, -⟩ := exists_ofNat hfits
  have hheld : refilledTokens {} (F64.ofNat now) (F64.ofNat capacity) .posInf = .nan := by
    simp [refilledTokens, hn, hfull, elapsed_self, F64.mul, F64.infTimes, F64.add, F64.luaMin,
      F64.lt]
  rw [← Bool.not_eq_true, isRead_routeRun_iff, hheld]
  simp [F64.le, refillMs, F64.sub, F64.neg, F64.add, F64.div, F64.mul, F64.ceil]

theorem AlwaysRead.tame (h : AlwaysRead accepts capacity rate last now) (hcapacity : 1 ≤ capacity)
    (hfits : capacity < 2 ^ 64) (hrate : (F64.finite 0).lt rate = true) (hlast : last ≤ 10 ^ 14)
    (hnow : now < 2 ^ 64) : Tame accepts capacity rate last now := by
  have hfirst := h {} Left.gone (Or.inl rfl)
  cases rate with
  | nan => simp [F64.lt] at hrate
  | negInf => simp [F64.lt] at hrate
  | posInf => simp [isRead_gone_posInf hfits hnow] at hfirst
  | finite r =>
    obtain ⟨n, hn, -⟩ := exists_ofNat hnow
    obtain ⟨full, hfull, hdouble, -⟩ := exists_ofNat hfits
    have hone : (F64.finite 1).le (F64.ofNat capacity) = true :=
      le_round isDouble_one (by exact_mod_cast hcapacity)
    rw [hfull] at hone
    rw [isRead_routeRun_iff, hn, hfull, refilledTokens_gone hdouble] at hfirst
    simp only [if_pos hone] at hfirst
    obtain ⟨hexpire, -, hshort⟩ := hfirst
    have hsmall := capacity_le_of_floor_lt hfull hshort
    refine ⟨hsmall, rfl, hexpire, ?_⟩
    -- the wait of a bucket that calls at one moment have emptied
    have hempty : finiteHash (0 : ℕ) last = emptyHash last := by
      rw [emptyHash, ofNat_eq_of_le (hlast.trans (by norm_num)), stored_natCast hlast]
      rfl
    have hdrained := left_drained hsmall hlast 0 hcapacity
    rw [hempty] at hdrained
    have hread := h _ hdrained (Or.inr rfl)
    rw [isRead_routeRun_iff] at hread
    simp only at hread ⊢
    split at hread
    · rename_i hheld
      exact Or.inl hheld
    · exact Or.inr hread.2

end Read

/-- If a route is tame, then every reply to it is read: at every state that earlier runs of the
script leave, and in every run of checks and pings a check that reaches Redis is decided there.
If every reply is read, then the route is tame. -/
theorem reply_readable_iff (accepts : F64 → Bool) (capacity : ℕ) (hcapacity : 1 ≤ capacity)
    (hfits : capacity < 2 ^ 64) (rate : F64) (hrate : (F64.finite 0).lt rate = true) (last now : ℕ)
    (hlast : last < 2 ^ 64) (hnow : now < 2 ^ 64) :
    (Tame accepts capacity rate last now → AlwaysRead accepts capacity rate last now ∧
      ∀ config connected ops, (∀ op ∈ ops, op.Fits) → ∀ key call message,
        let s := ranFrom config connected ∅ ops
        s.limiter.connected = true → call.nowMs = now → StoredAt last (s.redis.hash key) →
        call.invocation = (s.scriptRun key capacity rate call).invocation accepts message →
          ∃ decision, (s.check key capacity rate call).1 = .ok decision ∧ decision.mode = .redis) ∧
    (last ≤ 10 ^ 14 → AlwaysRead accepts capacity rate last now →
      Tame accepts capacity rate last now) := by
  refine ⟨fun h => ⟨fun hash hleft hstored => ?_, ?_⟩, fun hdigits h => ?_⟩
  · exact h.isRead hcapacity hrate hlast hnow hleft hstored
  · intro config connected ops hops key call message s hconnected hcall hstored hinvocation
    have hleft : Left (s.redis.hash key) :=
      @left_after ⟨.fromConfig config connected, ∅⟩ key Left.gone ops hops
    have hread := h.isRead hcapacity hrate hlast hnow hleft hstored
    rw [isRead_iff, routeRun, ← hcall] at hread
    obtain ⟨hexpire, htext⟩ := hread
    rw [check_redis_iff, hinvocation]
    exact ⟨hconnected, if_pos hexpire, htext⟩
  · exact h.tame hcapacity hfits hrate hdigits hnow

/-! ### A route that is read, and two that are not -/

/-- Redis accepts a time to live that is a whole number of seconds, if the time it makes of it and
the current time in milliseconds is a signed integer of 64 bits. -/
def acceptsExpire (nowMs : ℕ) : F64 → Bool
  | .finite q => decide (q = ⌊q⌋ ∧ 0 ≤ q ∧ nowMs + 1000 * q < 2 ^ 63)
  | _ => false

/-- A bucket of ten tokens, five a second, a second after it was written. -/
theorem reply_readable_iff_full :
    (F64.finite 0).lt (.finite 5) = true ∧
      Tame (acceptsExpire 2000) 10 (.finite 5) 1000 2000 ∧
      AlwaysRead (acceptsExpire 2000) 10 (.finite 5) 1000 2000 := by
  have htame : Tame (acceptsExpire 2000) 10 (.finite 5) 1000 2000 :=
    ⟨by decide, rfl, by decide +kernel, Or.inl (by decide +kernel)⟩
  have hiff := reply_readable_iff (acceptsExpire 2000) 10 (by decide) (by decide) (.finite 5) rfl
    1000 2000 (by decide) (by decide)
  exact ⟨rfl, htame, (hiff.1 htame).1⟩

/-- Two routes that validation accepts: a bucket of more than ten to the fourteenth tokens, and one
token in two to the fortieth seconds. -/
def vastRoute : RouteConfig :=
  { Validation.minimalRoute "vast" ["*"] "/vast" with rateLimit := ⟨10 ^ 14 + 1, .finite 1, "ip"⟩ }

def slowRoute : RouteConfig :=
  { Validation.minimalRoute "slow" ["*"] "/slow" with
    rateLimit := ⟨1, .finite (1 / 2 ^ 40), "ip"⟩ }

/-- The first call on the one, which Redis admits, and the second on the other, which Redis denies,
are both decided over by the local bucket. -/
theorem replies_dropped :
    Validation.validate (fun _ => true) (Validation.minimalConfig [vastRoute, slowRoute]) = .ok () ∧
    (let s : System := ⟨.fromConfig flakySetting.config true, ∅⟩
      let call := callAt 1000 .replied
      let run := s.scriptRun "vast" (10 ^ 14 + 1) (.finite 1) call
      run.reply = ⟨true, .finite (10 ^ 14), .finite 0⟩ ∧
      run.returned (acceptsExpire 1000) = some run.reply.text ∧
      LuaResponse.fromStr run.reply.text = none ∧
      (s.check "vast" (10 ^ 14 + 1) (.finite 1) call).1 = .ok ⟨true, 1, 0, 0, .degradedLocal⟩) ∧
    (let s := System.after ⟨.fromConfig flakySetting.config true, ∅⟩
        [.check "slow" 1 (.finite (1 / 2 ^ 40)) (callAt 1000 .replied)]
      let call := callAt 1000 .replied
      let run := s.scriptRun "slow" 1 (.finite (1 / 2 ^ 40)) call
      run.reply = ⟨false, .finite 0, .finite (1000 * 2 ^ 40)⟩ ∧
      run.returned (acceptsExpire 1000) = some run.reply.text ∧
      LuaResponse.fromStr run.reply.text = none ∧
      (s.check "slow" 1 (.finite (1 / 2 ^ 40)) call).1 = .ok ⟨true, 1, 0, 0, .degradedLocal⟩) := by
  refine ⟨?_, ⟨?_, ?_, ?_, ?_⟩, ?_, ?_, ?_, ?_⟩
  · decide +kernel
  · decide +kernel
  · decide +kernel
  · decide +kernel
  · decide +kernel
  · decide +kernel
  · decide +kernel
  · decide +kernel
  · decide +kernel

end RateLimit
end OpenApiGateway
