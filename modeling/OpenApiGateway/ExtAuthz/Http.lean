import Mathlib.Data.List.AList
import OpenApiGateway.Lib.Text

/-!
# Requests and responses

What the check service uses of the `http` crate. Header names and values are made and read
by that crate's parsers, which are the parameters collected in `HttpLib` together with the
documented facts about them that proofs need. A header value is of an abstract type `ν`,
since the bytes of a request header need not be text.
-/

namespace OpenApiGateway

open Lib.Text

/-- A character that `HeaderValue::to_str` and `HeaderValue::from_str` both document as fine. -/
def isVisibleAscii (c : Char) : Bool := decide (32 ≤ c.toNat) && decide (c.toNat < 127)

/-- The header parsers of the `http` crate. -/
structure HttpLib (ν : Type) where
  /-- `name.parse::<HeaderName>()`, giving the name's canonical text. -/
  parseName : String → Option String
  /-- `value.parse::<HeaderValue>()`. -/
  parseValue : String → Option ν
  /-- `value.to_str().ok()`. -/
  toStr : ν → Option String
  /-- Header names are kept in lower case. -/
  parseName_eq : ∀ {s name}, parseName s = some name → name = toAsciiLowercase s
  /-- Visible ASCII text is a header value, and reads back. -/
  parseValue_visible : ∀ {s : String}, s.toList.all isVisibleAscii = true →
    ∃ v, parseValue s = some v ∧ toStr v = some s
  /-- A value reads back as the text it was made from, when it reads as text at all. -/
  toStr_parseValue : ∀ {s v t}, parseValue s = some v → toStr v = some t → t = s

/-- The digits of a number, in any base up to sixteen, are visible. -/
theorem toDigits_visible {b : ℕ} (hb : 1 < b) (hle : b ≤ 16) (n : ℕ) :
    (Nat.toDigits b n).all isVisibleAscii = true := by
  have hdigit : ∀ d : Fin 16, isVisibleAscii (Nat.digitChar d) = true := by decide
  induction n using Nat.strong_induction_on with
  | _ n ih =>
    rw [Nat.toDigits_eq_if hb]
    split
    · rename_i hlt
      have hn : n < 16 := by omega
      simpa using hdigit ⟨n, hn⟩
    · rename_i hge
      have hdiv : n / b < n := Nat.div_lt_self (by omega) hb
      have hmod : n % b < 16 := lt_of_lt_of_le (Nat.mod_lt n (by omega)) hle
      simpa [ih (n / b) hdiv] using hdigit ⟨n % b, hmod⟩

theorem toString_visible (n : ℕ) : (toString n).toList.all isVisibleAscii = true := by
  have hdigits : toString n = String.ofList (Nat.toDigits 10 n) := rfl
  rw [hdigits, String.toList_ofList]
  exact toDigits_visible (by omega) (by omega) n

/-- Response headers: at most one value per name, as `HeaderMap::insert` leaves them. -/
abbrev HeaderMap (ν : Type) := AList fun _ : String => ν

/-- Request headers, in the order of `HeaderMap::iter`; a name may repeat. -/
abbrev RequestHeaders (ν : Type) := List (String × ν)

/-- `headers.get(name)`: the first value of that name. -/
def RequestHeaders.get {ν : Type} (headers : RequestHeaders ν) (name : String) : Option ν :=
  (headers.find? fun h => h.1 == name).map Prod.snd

/-- `headers.get_all(name)`: all values of that name. -/
def RequestHeaders.getAll {ν : Type} (headers : RequestHeaders ν) (name : String) : List ν :=
  (headers.filter fun h => h.1 == name).map Prod.snd

theorem RequestHeaders.get_eq_head? {ν : Type} (headers : RequestHeaders ν) (name : String) :
    headers.get name = (headers.getAll name).head? := by
  rw [RequestHeaders.get, RequestHeaders.getAll, List.head?_map, List.head?_filter]

namespace HttpLib
variable {ν : Type} (http : HttpLib ν)

/-- `if let Ok(v) = text.parse() { headers.insert(name, v); }` for a fixed name. -/
def insertText (headers : HeaderMap ν) (name text : String) : HeaderMap ν :=
  match http.parseValue text with
  | some value => headers.insert name value
  | none => headers

/-- The same for a name that is itself parsed. -/
def insertParsed (headers : HeaderMap ν) (entry : String × String) : HeaderMap ν :=
  match http.parseName entry.1, http.parseValue entry.2 with
  | some name, some value => headers.insert name value
  | _, _ => headers

theorem lookup_insertText_ne {name other : String} (hne : name ≠ other) (headers : HeaderMap ν)
    (text : String) : (http.insertText headers other text).lookup name = headers.lookup name := by
  unfold insertText
  split
  · exact AList.lookup_insert_ne hne
  · rfl

/-- Text that makes a header value ends up under its name, whatever was there before. -/
theorem lookup_insertText {text : String} {value : ν} (hvalue : http.parseValue text = some value)
    (headers : HeaderMap ν) (name : String) :
    (http.insertText headers name text).lookup name = some value := by
  unfold insertText
  rw [hvalue]
  exact AList.lookup_insert headers

/-- What an insertion leaves under a name depends only on what was under it. -/
theorem lookup_insertText_congr {headers headers' : HeaderMap ν} {name : String}
    (h : headers.lookup name = headers'.lookup name) (other text : String) :
    (http.insertText headers other text).lookup name =
      (http.insertText headers' other text).lookup name := by
  unfold insertText
  split
  · by_cases hname : name = other
    · subst hname
      rw [AList.lookup_insert, AList.lookup_insert]
    · rw [AList.lookup_insert_ne hname, AList.lookup_insert_ne hname, h]
  · exact h

end HttpLib

namespace StatusCode

/-- `StatusCode::from_u16`, documented to accept 100 to 999. -/
def fromU16 (status : ℕ) : Option ℕ :=
  if 100 ≤ status ∧ status < 1000 then some status else none

end StatusCode

/-- A response body. -/
inductive Body where
  | empty
  | text (content : String)
  | json (fields : List (String × String))
deriving DecidableEq

/-- A response of the check service. -/
structure Response (ν : Type) where
  status : ℕ
  headers : HeaderMap ν
  body : Body

/-- A header library whose values are their own text: names and values of visible ASCII. -/
def HttpLib.plain : HttpLib String where
  parseName s :=
    if s ≠ "" ∧ (s.toList.all fun c => c.isAlphanum || c == '-' || c == '_') = true then
      some (toAsciiLowercase s)
    else none
  parseValue s := if s.toList.all isVisibleAscii = true then some s else none
  toStr v := if v.toList.all isVisibleAscii = true then some v else none
  parseName_eq := by
    intro s name h
    split at h
    · simpa using h.symm
    · simp at h
  parseValue_visible := by
    intro s h
    exact ⟨s, if_pos h, if_pos h⟩
  toStr_parseValue := by
    intro s v t hv ht
    split at hv
    · split at ht
      · rw [← Option.some.inj hv] at ht
        exact (Option.some.inj ht).symm
      · simp at ht
    · simp at hv

/-- A character of one byte that is not visible ASCII. -/
def isControl (c : Char) : Bool := decide (c.toNat < 32) || decide (c.toNat = 127)

/-- A header library whose values are any text without control characters; text beyond ASCII is
kept, but does not read back. -/
def HttpLib.octets : HttpLib String where
  parseName := HttpLib.plain.parseName
  parseValue s := if s.toList.any isControl = true then none else some s
  toStr v := if v.toList.all isVisibleAscii = true then some v else none
  parseName_eq := HttpLib.plain.parseName_eq
  parseValue_visible := by
    intro s h
    have hnot : ¬ s.toList.any isControl = true := by
      rw [List.any_eq_true]
      rintro ⟨c, hc, hcontrol⟩
      have hvisible := List.all_eq_true.mp h c hc
      simp only [isVisibleAscii, isControl, Bool.and_eq_true, Bool.or_eq_true,
        decide_eq_true_eq] at hvisible hcontrol
      omega
    exact ⟨s, if_neg hnot, if_pos h⟩
  toStr_parseValue := by
    intro s v t hv ht
    split at hv
    · simp at hv
    · split at ht
      · rw [← Option.some.inj hv] at ht
        exact (Option.some.inj ht).symm
      · simp at ht

theorem HttpLib.toStr_octets {v : String} (h : v.toList.all isVisibleAscii = true) :
    HttpLib.octets.toStr v = some v := if_pos h

end OpenApiGateway
