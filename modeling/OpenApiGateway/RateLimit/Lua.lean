import OpenApiGateway.Lib.Text
import OpenApiGateway.Lib.TokenBucket
import OpenApiGateway.RateLimit.Arithmetic

/-!
# The Redis script

`controlplane/src/ratelimit/lua.rs`: the script that runs the bucket of one key in Redis, the
JSON text it returns, and how its caller reads that text.

`luaScript_finiteHash` gives the script in exact arithmetic in terms of the library's token
bucket, and `fromStr_text` says what a caller reads from its reply.
-/

namespace OpenApiGateway
namespace RateLimit

open Lib.Text Lib.TokenBucket

/-! ## The script -/

/-- The hash of a bucket in Redis; a field that is not there reads as nil. -/
structure BucketHash where
  tokens : Option F64 := none
  lastRefillMs : Option F64 := none
deriving DecidableEq

/-- The numbers of a reply, before they are written as text. -/
structure ScriptReply where
  allowed : Bool
  remainingTokens : F64
  retryAfterMs : F64
deriving DecidableEq

/-- What a run of the script leaves: the hash, the argument of `EXPIRE` if it was called, and
the reply. -/
structure ScriptRun where
  hash : BucketHash
  expire : Option F64
  reply : ScriptReply
deriving DecidableEq

/-- `LUA_SCRIPT`. What comes back from Redis later is what `tostring` has kept of a number. -/
def luaScript [Arithmetic] (hash : BucketHash)
    (nowMs capacity refillRate requested ttlSeconds : F64) : ScriptRun :=
  let tokens := hash.tokens.getD capacity
  let lastRefill := hash.lastRefillMs.getD nowMs
  let elapsedS := (nowMs.sub lastRefill).div (.finite 1000)
  let refilled := refillRate.mul elapsedS
  let newTokens := (tokens.add refilled).luaMin capacity
  if requested.le newTokens then
    let newTokens := newTokens.sub requested
    -- `HSET` with `tostring`, and then `EXPIRE`
    { hash := ⟨some (Arithmetic.stored newTokens), some (Arithmetic.stored nowMs)⟩
      expire := some ttlSeconds
      reply := ⟨true, newTokens.floor, .finite 0⟩ }
  else
    let deficit := requested.sub newTokens
    -- a denied call writes nothing, and does not renew the time to live
    { hash := hash
      expire := none
      reply := ⟨false, .finite 0, ((deficit.div refillRate).mul (.finite 1000)).ceil⟩ }

/-- The tokens a run of the script finds: the stored ones, refilled up to the capacity. -/
def refilledTokens [Arithmetic] (hash : BucketHash) (nowMs capacity refillRate : F64) : F64 :=
  ((hash.tokens.getD capacity).add (refillRate.mul
    ((nowMs.sub (hash.lastRefillMs.getD nowMs)).div (.finite 1000)))).luaMin capacity

/-- The milliseconds until the rest of a token is refilled, before they are rounded up. -/
def refillMs [Arithmetic] (tokens refillRate : F64) : F64 :=
  (((F64.finite 1).sub tokens).div refillRate).mul (.finite 1000)

/-- The script in terms of these two, for one token. -/
theorem luaScript_eq [Arithmetic] (hash : BucketHash) (nowMs capacity refillRate ttl : F64) :
    luaScript hash nowMs capacity refillRate (.finite 1) ttl =
      let tokens := refilledTokens hash nowMs capacity refillRate
      if (F64.finite 1).le tokens then
        ⟨⟨some (Arithmetic.stored (tokens.sub (.finite 1))), some (Arithmetic.stored nowMs)⟩,
          some ttl, ⟨true, (tokens.sub (.finite 1)).floor, .finite 0⟩⟩
      else ⟨hash, none, ⟨false, .finite 0, (refillMs tokens refillRate).ceil⟩⟩ :=
  rfl

/-- The JSON text of a reply. -/
def ScriptReply.text (reply : ScriptReply) : String :=
  if reply.allowed then
    "\x7b\"allowed\":1,\"remaining_tokens\":" ++ formatG14 reply.remainingTokens
      ++ ",\"retry_after_ms\":0\x7d"
  else
    "\x7b\"allowed\":0,\"remaining_tokens\":0,\"retry_after_ms\":" ++ formatG14 reply.retryAfterMs
      ++ "\x7d"

/-! ## Reading the reply -/

/-- Deserialised response from the Lua script. -/
structure LuaResponse where
  allowed : ℕ
  remainingTokens : ℕ
  retryAfterMs : ℕ
deriving DecidableEq

/-- A JSON number read as an unsigned integer of some width: digits only, no leading zero. -/
def readUnsigned (width : ℕ) (digits : List Char) : Option ℕ :=
  if digits ≠ [] ∧ digits.all Char.isDigit = true ∧ (digits.head? = some '0' → digits.length = 1) ∧
      digitsValue digits < 2 ^ width then some (digitsValue digits)
  else none

/-- The text of a member's value, up to the end of the member, and the text after it. -/
def readMember (start : String) (text : List Char) : Option (List Char × List Char) :=
  if start.toList.isPrefixOf text = true then
    some ((text.drop start.toList.length).span fun c => c != ',' && c != '}')
  else none

/-- `serde_json::from_str::<LuaResponse>`, on texts laid out as the script's. -/
def LuaResponse.fromStr (text : String) : Option LuaResponse := do
  let (allowed, rest) ← readMember "\x7b\"allowed\":" text.toList
  let (remainingTokens, rest) ← readMember ",\"remaining_tokens\":" rest
  let (retryAfterMs, rest) ← readMember ",\"retry_after_ms\":" rest
  if rest = ['}'] then
    return ⟨← readUnsigned 8 allowed, ← readUnsigned 64 remainingTokens,
      ← readUnsigned 64 retryAfterMs⟩
  else none

example : LuaResponse.fromStr (ScriptReply.text ⟨true, .finite 9, .finite 0⟩) =
    some ⟨1, 9, 0⟩ := by decide +kernel

example : LuaResponse.fromStr (ScriptReply.text ⟨false, .finite 0, .finite 180⟩) =
    some ⟨0, 0, 180⟩ := by decide +kernel

/-- The text of a number: no character in it ends a JSON member. -/
def PlainText (text : List Char) : Prop := ∀ c ∈ text, c ≠ ',' ∧ c ≠ '}'

theorem plainText_digits {digits : List Char} (h : ∀ c ∈ digits, c.isDigit = true) :
    PlainText digits := by
  intro c hc
  have hdigit := h c hc
  constructor
  · rintro rfl
    simp at hdigit
  · rintro rfl
    simp at hdigit

theorem PlainText.append {text text' : List Char} (h : PlainText text) (h' : PlainText text') :
    PlainText (text ++ text') := by
  intro c hc
  rcases List.mem_append.mp hc with hc | hc
  · exact h c hc
  · exact h' c hc

theorem isDigit_of_mem_toString {n : ℕ} {c : Char} (hc : c ∈ (toString n).toList) :
    c.isDigit = true := by
  rw [Nat.toString_eq_repr, Nat.toList_repr] at hc
  exact Nat.isDigit_of_mem_toDigits (by omega) (by omega) hc

theorem plainText_mantissaText (m : ℕ) : PlainText (mantissaText m) := by
  have hdigit : ∀ c ∈ ((Nat.toDigits 10 m).reverse.dropWhile (· = '0')).reverse,
      c.isDigit = true := by
    intro c hc
    rw [List.mem_reverse] at hc
    have hmem := List.mem_reverse.mp ((List.dropWhile_sublist _).subset hc)
    exact Nat.isDigit_of_mem_toDigits (by omega) (by omega) hmem
  unfold mantissaText
  refine PlainText.append ?_ ?_
  · exact plainText_digits fun c hc => hdigit c (List.mem_of_mem_take hc)
  · split
    · simp [PlainText]
    · intro c hc
      rcases List.mem_cons.mp hc with rfl | hc
      · decide
      · exact plainText_digits (fun c hc => hdigit c (List.mem_of_mem_tail hc)) c hc

/-- A number in scientific form has an exponent mark. -/
theorem exists_formatScientific (n : ℕ) :
    ∃ m e : ℕ, formatScientific n = String.ofList (mantissaText m) ++ "e+" ++ toString e :=
  ⟨_, _, rfl⟩

theorem plainText_formatScientific (n : ℕ) : PlainText (formatScientific n).toList := by
  obtain ⟨m, e, htext⟩ := exists_formatScientific n
  rw [htext, String.toList_append, String.toList_append, String.toList_ofList]
  refine ((plainText_mantissaText m).append ?_).append ?_
  · simp [PlainText]
  · exact plainText_digits fun c hc => isDigit_of_mem_toString hc

theorem plainText_formatG14 (x : F64) : PlainText (formatG14 x).toList := by
  have hwhole : ∀ z : ℤ, PlainText (formatWhole z).toList := by
    intro z
    have hdigits : PlainText
        (if z.natAbs < 10 ^ 14 then toString z.natAbs else formatScientific z.natAbs).toList := by
      split
      · exact plainText_digits fun c hc => isDigit_of_mem_toString hc
      · exact plainText_formatScientific _
    unfold formatWhole
    simp only
    split
    · rw [String.toList_append]
      refine PlainText.append ?_ hdigits
      simp [PlainText]
    · exact hdigits
  cases x with
  | finite q => exact hwhole _
  | nan => simp [PlainText, formatG14]
  | negInf => simp [PlainText, formatG14]
  | posInf => simp [PlainText, formatG14]

/-- A member is read up to the character that ends it. -/
theorem readMember_append (start : String) {value rest : List Char} (hvalue : PlainText value)
    (hrest : ∀ c, rest.head? = some c → c = ',' ∨ c = '}') :
    readMember start (start.toList ++ (value ++ rest)) = some (value, rest) := by
  have hprefix : start.toList.isPrefixOf (start.toList ++ (value ++ rest)) = true :=
    List.isPrefixOf_iff_prefix.mpr (List.prefix_append _ _)
  have hplain : ∀ c ∈ value, (c != ',' && c != '}') = true := by
    intro c hc
    obtain ⟨hcomma, hbrace⟩ := hvalue c hc
    simp [hcomma, hbrace]
  rw [readMember, if_pos hprefix, List.drop_left, List.span_eq_takeWhile_dropWhile,
    List.takeWhile_append_of_pos hplain, List.dropWhile_append_of_pos hplain]
  cases rest with
  | nil => simp
  | cons c rest =>
    have hstop : (c != ',' && c != '}') = false := by
      rcases hrest c rfl with rfl | rfl
      · decide
      · decide
    rw [List.takeWhile_cons_of_neg (by simp [hstop]), List.dropWhile_cons_of_neg (by simp [hstop]),
      List.append_nil]

/-- A text laid out as the script's is read member by member. -/
theorem fromStr_members {text : String} {a b c : List Char}
    (htext : text.toList = "\x7b\"allowed\":".toList ++ (a ++ (",\"remaining_tokens\":".toList ++
      (b ++ (",\"retry_after_ms\":".toList ++ (c ++ ['}']))))))
    (ha : PlainText a) (hb : PlainText b) (hc : PlainText c) :
    LuaResponse.fromStr text = (do
      return ⟨← readUnsigned 8 a, ← readUnsigned 64 b, ← readUnsigned 64 c⟩) := by
  unfold LuaResponse.fromStr
  rw [htext, readMember_append _ ha (by simp)]
  simp only [Option.bind_eq_bind, Option.bind_some]
  rw [readMember_append _ hb (by simp)]
  simp only [Option.bind_some]
  rw [readMember_append _ hc (by simp)]
  simp

/-- What the caller reads from a reply: the one number that is not fixed. -/
theorem fromStr_text (reply : ScriptReply) :
    LuaResponse.fromStr reply.text =
      if reply.allowed then
        (readUnsigned 64 (formatG14 reply.remainingTokens).toList).map fun n => ⟨1, n, 0⟩
      else (readUnsigned 64 (formatG14 reply.retryAfterMs).toList).map fun n => ⟨0, 0, n⟩ := by
  have hzero : PlainText ['0'] := by simp [PlainText]
  have hone : PlainText ['1'] := by simp [PlainText]
  have hread0 : readUnsigned 64 ['0'] = some 0 := by decide
  have hread0' : readUnsigned 8 ['0'] = some 0 := by decide
  have hread1 : readUnsigned 8 ['1'] = some 1 := by decide
  unfold ScriptReply.text
  by_cases hallowed : reply.allowed = true
  · rw [if_pos hallowed, if_pos hallowed]
    rw [fromStr_members (a := ['1']) (b := (formatG14 reply.remainingTokens).toList) (c := ['0'])
      (by simp [String.toList_append]) hone (plainText_formatG14 _) hzero, hread0, hread1]
    cases readUnsigned 64 (formatG14 reply.remainingTokens).toList <;> rfl
  · rw [if_neg hallowed, if_neg hallowed]
    rw [fromStr_members (a := ['0']) (b := ['0']) (c := (formatG14 reply.retryAfterMs).toList)
      (by simp [String.toList_append]) hzero hzero (plainText_formatG14 _), hread0, hread0']
    cases readUnsigned 64 (formatG14 reply.retryAfterMs).toList <;> rfl

/-- Only the decimal text of a natural number of at most fourteen digits is read, and as that
number. -/
theorem of_readUnsigned_formatWhole {width n : ℕ} {z : ℤ}
    (h : readUnsigned width (formatWhole z).toList = some n) : z = n ∧ n < 10 ^ 14 := by
  unfold readUnsigned at h
  split at h
  · rename_i hread
    obtain ⟨-, hdigits, -, -⟩ := hread
    have hall : ∀ c ∈ (formatWhole z).toList, c.isDigit = true := by
      simpa using hdigits
    -- a sign or an exponent would not be a digit
    have hpos : ¬ z < 0 := by
      intro hneg
      have hsign : '-' ∈ (formatWhole z).toList := by simp [formatWhole, hneg]
      simpa using hall _ hsign
    have hsmall : z.natAbs < 10 ^ 14 := by
      by_contra hlarge
      have hexp : 'e' ∈ (formatWhole z).toList := by
        obtain ⟨m, e, htext⟩ := exists_formatScientific z.natAbs
        rw [formatWhole]
        simp only [if_neg hpos, if_neg hlarge]
        rw [htext]
        simp
      simpa using hall _ hexp
    have htext : (formatWhole z).toList = Nat.toDigits 10 z.natAbs := by
      rw [formatWhole]
      simp only [if_neg hpos, if_pos hsmall]
      rw [Nat.toString_eq_repr, Nat.toList_repr]
    rw [htext, digitsValue_toDigits, Option.some.injEq] at h
    omega
  · simp at h

/-! ## In exact arithmetic -/

section Exact
open scoped ExactArithmetic

/-- A stored hash of finite numbers. -/
def finiteHash (tokens lastRefillMs : ℚ) : BucketHash :=
  ⟨some (.finite tokens), some (.finite lastRefillMs)⟩

/-- The reply to an admitted call that leaves `left` tokens. -/
def admittedReply (left : ℚ) : ScriptReply := ⟨true, .finite ⌊left⌋, .finite 0⟩

/-- The reply to a denied call that finds `tokens` tokens. -/
def deniedReply (tokens rate : ℚ) : ScriptReply :=
  ⟨false, .finite 0, (((F64.finite (1 - tokens)).div (.finite rate)).mul (.finite 1000)).ceil⟩

/-- On a stored hash the script takes a token from the refilled bucket if there is one, and
otherwise writes nothing. -/
theorem luaScript_finiteHash (tokens last now capacity rate : ℚ) (ttl : F64) :
    luaScript (finiteHash tokens last) (.finite now) (.finite capacity) (.finite rate) (.finite 1)
        ttl =
      let refilled := level capacity rate tokens ((now - last) / 1000)
      if 1 ≤ refilled then
        ⟨finiteHash (refilled - 1) now, some ttl, admittedReply (refilled - 1)⟩
      else ⟨finiteHash tokens last, none, deniedReply refilled rate⟩ := by
  unfold luaScript finiteHash admittedReply deniedReply level
  simp only [Option.getD_some, F64.sub_finite, F64.div_finite _ (show (1000 : ℚ) ≠ 0 by norm_num),
    F64.mul_finite, F64.add_finite, F64.luaMin_finite, F64.le_finite, decide_eq_true_eq,
    F64.floor_finite, ExactArithmetic.stored_eq]

/-- On an empty hash the script admits and leaves a full bucket less one token. -/
theorem luaScript_empty {capacity : ℚ} (hcapacity : 1 ≤ capacity) (now rate : ℚ) (ttl : F64) :
    luaScript {} (.finite now) (.finite capacity) (.finite rate) (.finite 1) ttl =
      ⟨finiteHash (capacity - 1) now, some ttl, admittedReply (capacity - 1)⟩ := by
  unfold luaScript finiteHash admittedReply
  simp only [Option.getD_none, F64.sub_finite,
    F64.div_finite _ (show (1000 : ℚ) ≠ 0 by norm_num), F64.mul_finite, F64.add_finite,
    F64.luaMin_finite, F64.le_finite, decide_eq_true_eq, F64.floor_finite, sub_self, zero_div,
    mul_zero, add_zero, min_self]
  rw [if_pos hcapacity, ExactArithmetic.stored_eq, ExactArithmetic.stored_eq]

end Exact

end RateLimit
end OpenApiGateway
