import OpenApiGateway.Auth.Lifecycle
import OpenApiGateway.Lib.Fallible
import OpenApiGateway.Plugins.Types

/-!
# Reading a JWKS document

`fetch_and_store` reads the body of the key server into a `JwksDocument` before
`parse_jwks_keys` skips what is no RSA key. The readers are the ones derived for the two records of
`controlplane/src/auth/types.rs`: `kid`, `kty`, `n` and `e` are required of every entry, `alg` is
optional, other members are ignored. `foreign_keys_ignored_iff` says which documents are read as
if the keys of other types were not there.
-/

namespace OpenApiGateway
namespace Auth

open Lib.KeyedLoop Lib.Fallible Plugins

/-! ## The derived readers -/

/-- Why a value is not read. -/
inductive DeError where
  | duplicateField (field : String)
  | missingField (field : String)
  | invalidType (expected : String)
  | invalidLength (length : ℕ) (expected : String)
  | trailingCharacters
deriving DecidableEq

/-- Read a `String`. -/
def readString : JsonValue → Except DeError String
  | .string s => .ok s
  | _ => .error (.invalidType "a string")

/-- Read an `Option<String>`. -/
def readOption : JsonValue → Except DeError (Option String)
  | .null => .ok none
  | .string s => .ok (some s)
  | _ => .error (.invalidType "a string")

/-- Read a `Vec`, up to the first item that fails. -/
def readVec {α : Type} (readItem : JsonValue → Except DeError α) :
    JsonValue → Except DeError (List α)
  | .array items => items.mapM readItem
  | _ => .error (.invalidType "a sequence")

/-- The field at a position of a record that is given as an array. -/
def readAt {α : Type} (read : JsonValue → Except DeError α) (expected : String)
    (items : List JsonValue) (i : ℕ) : Except DeError α :=
  match items[i]? with
  | none => .error (.invalidLength i expected)
  | some item => read item

namespace JwksRawKey

def isField (name : String) : Bool := name ∈ ["kid", "kty", "alg", "n", "e"]

/-- Read a field, `alg` as an option and the others as text. -/
def readField (name : String) (value : JsonValue) : Except DeError (Option String) :=
  if name = "alg" then readOption value else (readString value).map some

/-- A field without a default. -/
def required (fields : AList fun _ : String => Option String) (name : String) :
    Except DeError String :=
  match fields.lookup name with
  | some (some s) => .ok s
  | _ => .error (.missingField name)

def visitMap (members : List (String × JsonValue)) : Except DeError JwksRawKey := do
  let fields ← insertOnce isField readField .duplicateField members ∅
  let kid ← required fields "kid"
  let kty ← required fields "kty"
  let n ← required fields "n"
  let e ← required fields "e"
  return ⟨kid, kty, n, e⟩

/-- A derived reader also takes an array, with the fields in their order. -/
def visitSeq (items : List JsonValue) : Except DeError JwksRawKey := do
  let expected := "struct JwksRawKey with 5 elements"
  let kid ← readAt readString expected items 0
  let kty ← readAt readString expected items 1
  let _alg ← match items[2]? with
    | none => .ok none
    | some item => readOption item
  let n ← readAt readString expected items 3
  let e ← readAt readString expected items 4
  if 5 < items.length then .error .trailingCharacters else return ⟨kid, kty, n, e⟩

def deserialize : JsonValue → Except DeError JwksRawKey
  | .object members => visitMap members
  | .array items => visitSeq items
  | _ => .error (.invalidType "struct JwksRawKey")

end JwksRawKey

namespace JwksDocument

def visitMap (members : List (String × JsonValue)) : Except DeError JwksDocument := do
  let fields ← insertOnce (fun name => name = "keys")
    (fun _ => readVec JwksRawKey.deserialize) .duplicateField members ∅
  match fields.lookup "keys" with
  | none => .error (.missingField "keys")
  | some keys => .ok ⟨keys⟩

def visitSeq (items : List JsonValue) : Except DeError JwksDocument := do
  let keys ← readAt (readVec JwksRawKey.deserialize) "struct JwksDocument with 1 element" items 0
  if 1 < items.length then .error .trailingCharacters else return ⟨keys⟩

def deserialize : JsonValue → Except DeError JwksDocument
  | .object members => visitMap members
  | .array items => visitSeq items
  | _ => .error (.invalidType "struct JwksDocument")

end JwksDocument

/-- Deserialise a body and parse its keys. -/
def readKeys {κ : Type} (source : KeySource κ) (body : JsonValue) :
    Except DeError (Except AuthError (List (JwksKey κ))) :=
  (JwksDocument.deserialize body).map fun doc => parseJwksKeys source doc.keys

/-! ## One entry -/

theorem readString_eq_ok {value : JsonValue} {s : String} (h : readString value = .ok s) :
    value = .string s := by
  cases value with
  | string t => rw [Except.ok.inj h]
  | _ => simp [readString] at h

/-- The object has text under the name. -/
def HasText (members : List (String × JsonValue)) (name : String) : Prop :=
  ∃ s, (name, .string s) ∈ members

namespace JwksRawKey
variable {members : List (String × JsonValue)} {fields : AList fun _ : String => Option String}
  {raw : JwksRawKey} {name s : String}

/-- The members have the required fields of the entry. -/
structure Gives (members : List (String × JsonValue)) (raw : JwksRawKey) : Prop where
  kid : ("kid", .string raw.kid) ∈ members
  kty : ("kty", .string raw.kty) ∈ members
  n : ("n", .string raw.n) ∈ members
  e : ("e", .string raw.e) ∈ members

theorem required_eq_ok : required fields name = .ok s ↔ fields.lookup name = some (some s) := by
  unfold required
  split
  · rename_i t hlookup
    rw [hlookup, Except.ok.injEq, Option.some.injEq, Option.some.injEq]
  · rename_i hnone
    exact iff_of_false (by simp) (hnone s)

theorem readField_text (hname : name ≠ "alg") : readField name (.string s) = .ok (some s) := by
  rw [readField, if_neg hname]
  rfl

theorem readField_eq_ok (hname : name ≠ "alg") {value : JsonValue}
    (h : readField name value = .ok (some s)) : value = .string s := by
  rw [readField, if_neg hname] at h
  obtain ⟨t, ht, hs⟩ := map_eq_ok h
  rw [readString_eq_ok ht, Option.some.inj hs]

section Unique
variable (hunique : (members.map Prod.fst).Nodup)
include hunique

theorem nodup_fields :
    ((members.filter fun member => isField member.1).map Prod.fst).Nodup :=
  hunique.sublist (List.filter_sublist.map Prod.fst)

/-- With distinct names, reading the members is a plain loop over the fields. -/
theorem insertOnce_fields :
    insertOnce isField readField .duplicateField members ∅ =
      insertEach Prod.fst (fun member => readField member.1 member.2)
        (members.filter fun member => isField member.1) ∅ :=
  insertOnce_eq_insertEach (nodup_fields hunique) fun member _ => AList.notMem_empty member.1

/-- A required field is found exactly if it is a member with text. -/
theorem required_iff_mem
    (hfields : insertOnce isField readField .duplicateField members ∅ = .ok fields)
    (hfield : isField name = true) (hname : name ≠ "alg") :
    required fields name = .ok s ↔ (name, .string s) ∈ members := by
  rw [required_eq_ok]
  rw [insertOnce_fields hunique] at hfields
  constructor
  · intro hlookup
    rcases mem_or_of_lookup_insertEach hfields hlookup with hbefore | ⟨member, hmem, hkey, hread⟩
    · exact absurd hbefore (by simp)
    · obtain ⟨key, value⟩ := member
      obtain rfl : key = name := hkey
      rw [← readField_eq_ok hname hread]
      exact List.mem_of_mem_filter hmem
  · intro hmem
    obtain ⟨value, hread, hlookup⟩ := lookup_insertEach hfields (nodup_fields hunique)
      (List.mem_filter.mpr ⟨hmem, hfield⟩)
    rw [readField_text hname] at hread
    rw [hlookup, Except.ok.inj hread]

/-- The reader gives the entry whose fields it finds, unless a field cannot be read. -/
theorem visitMap_eq_ok_iff :
    visitMap members = .ok raw ↔
      (∃ fields, insertOnce isField readField .duplicateField members ∅ = .ok fields) ∧
        Gives members raw := by
  rw [visitMap, bind_eq_ok_iff, ← exists_and_right]
  refine exists_congr fun fields => and_congr_right fun hfields => ?_
  have hmem := fun {name s} => @required_iff_mem members fields name s hunique hfields
  simp only [bind_eq_ok_iff]
  constructor
  · rintro ⟨kid, hkid, kty, hkty, n, hn, e, he, hraw⟩
    rw [← Except.ok.inj hraw]
    exact {
      kid := (hmem (by decide) (by decide)).mp hkid
      kty := (hmem (by decide) (by decide)).mp hkty
      n := (hmem (by decide) (by decide)).mp hn
      e := (hmem (by decide) (by decide)).mp he }
  · intro h
    exact ⟨raw.kid, (hmem (by decide) (by decide)).mpr h.kid,
      raw.kty, (hmem (by decide) (by decide)).mpr h.kty,
      raw.n, (hmem (by decide) (by decide)).mpr h.n,
      raw.e, (hmem (by decide) (by decide)).mpr h.e, rfl⟩

/-- Two members of one name are one. -/
theorem eq_of_mem {value : JsonValue} (hmem : (name, .string s) ∈ members)
    (hvalue : (name, value) ∈ members) : value = .string s :=
  congrArg Prod.snd (List.inj_on_of_nodup_map hunique hvalue hmem rfl)

/-- Nothing stops the reader of an entry that has its fields and a readable `alg`. -/
theorem readField_of_gives (hgives : Gives members raw)
    (halg : ∀ value, ("alg", value) ∈ members → ∃ s, value = .string s) {value : JsonValue}
    (hmember : (name, value) ∈ members) (hfield : isField name = true) :
    ∃ read, readField name value = .ok read := by
  by_cases hname : name = "alg"
  · subst hname
    obtain ⟨s, rfl⟩ := halg value hmember
    exact ⟨some s, rfl⟩
  · have hnames : name = "kid" ∨ name = "kty" ∨ name = "n" ∨ name = "e" := by
      simpa [isField, hname] using hfield
    have htext : HasText members name := by
      rcases hnames with rfl | rfl | rfl | rfl
      · exact ⟨_, hgives.kid⟩
      · exact ⟨_, hgives.kty⟩
      · exact ⟨_, hgives.n⟩
      · exact ⟨_, hgives.e⟩
    -- there is no second member of that name
    obtain ⟨s, hs⟩ := htext
    rw [eq_of_mem hunique hs hmember]
    exact ⟨some s, readField_text hname⟩

theorem visitMap_of_gives (hgives : Gives members raw)
    (halg : ∀ value, ("alg", value) ∈ members → ∃ s, value = .string s) :
    visitMap members = .ok raw := by
  refine (visitMap_eq_ok_iff hunique).mpr ⟨?_, hgives⟩
  rw [insertOnce_fields hunique, insertEach_isOk_iff]
  intro member hmember
  obtain ⟨hmem, hfield⟩ := List.mem_filter.mp hmember
  exact readField_of_gives hunique hgives halg hmem hfield

end Unique

end JwksRawKey

/-! ## Documents of keys of any type -/

/-- An entry as the standard has it: an object with distinct names and a type, in which `kid` and
`alg` are text if they are there. An RSA key has `kid`, `n` and `e`; what a key of another type has
besides is up to the type. -/
structure Jwk where
  members : List (String × JsonValue)
  kty : String
  unique : (members.map Prod.fst).Nodup
  hasKty : ("kty", .string kty) ∈ members
  text : ∀ name ∈ ["kid", "alg"], ∀ value, (name, value) ∈ members → ∃ s, value = .string s
  rsa : kty = "RSA" → HasText members "kid" ∧ HasText members "n" ∧ HasText members "e"

namespace Jwk
variable {jwk : Jwk}

def json (jwk : Jwk) : JsonValue := .object jwk.members

/-- The entry has the fields that are required of every entry, whatever its type. -/
def Complete (jwk : Jwk) : Prop :=
  HasText jwk.members "kid" ∧ HasText jwk.members "n" ∧ HasText jwk.members "e"

theorem kty_of_deserialize {raw : JwksRawKey} (h : JwksRawKey.deserialize jwk.json = .ok raw) :
    raw.kty = jwk.kty := by
  have hkty := ((JwksRawKey.visitMap_eq_ok_iff jwk.unique).mp h).2.kty
  have hsame := JwksRawKey.eq_of_mem jwk.unique jwk.hasKty hkty
  exact JsonValue.string.inj hsame

theorem deserialize_isOk_iff :
    (∃ raw, JwksRawKey.deserialize jwk.json = .ok raw) ↔ jwk.Complete := by
  constructor
  · intro h
    obtain ⟨raw, hraw⟩ := h
    have hgives := ((JwksRawKey.visitMap_eq_ok_iff jwk.unique).mp hraw).2
    exact ⟨⟨_, hgives.kid⟩, ⟨_, hgives.n⟩, ⟨_, hgives.e⟩⟩
  · intro h
    obtain ⟨⟨kid, hkid⟩, ⟨n, hn⟩, ⟨e, he⟩⟩ := h
    have hgives : JwksRawKey.Gives jwk.members ⟨kid, jwk.kty, n, e⟩ :=
      ⟨hkid, jwk.hasKty, hn, he⟩
    exact ⟨_, JwksRawKey.visitMap_of_gives jwk.unique hgives (jwk.text "alg" (by decide))⟩

end Jwk

/-- A document with such entries under `keys`, and any other members. -/
structure Jwks where
  before : List (String × JsonValue)
  entries : List Jwk
  after : List (String × JsonValue)
  before_keys : "keys" ∉ before.map Prod.fst
  after_keys : "keys" ∉ after.map Prod.fst

namespace Jwks

def json (doc : Jwks) : JsonValue :=
  .object (doc.before ++ ("keys", .array (doc.entries.map Jwk.json)) :: doc.after)

/-- The document without the keys of other types. -/
def onlyRsa (doc : Jwks) : Jwks :=
  { doc with entries := doc.entries.filter fun jwk => jwk.kty = "RSA" }

theorem filter_eq_nil {members : List (String × JsonValue)} (h : "keys" ∉ members.map Prod.fst) :
    members.filter (fun member => decide (member.1 = "keys")) = [] := by
  rw [List.filter_eq_nil_iff]
  intro member hmember hkeys
  exact h (List.mem_map.mpr ⟨member, hmember, by simpa using hkeys⟩)

theorem deserialize_json (doc : Jwks) :
    JwksDocument.deserialize doc.json =
      (doc.entries.mapM fun jwk => JwksRawKey.deserialize jwk.json).map JwksDocument.mk := by
  have hkept : (doc.before ++ ("keys", .array (doc.entries.map Jwk.json)) :: doc.after).filter
      (fun member => decide (member.1 = "keys")) =
        [("keys", .array (doc.entries.map Jwk.json))] := by
    rw [List.filter_append, filter_eq_nil doc.before_keys, List.nil_append,
      List.filter_cons_of_pos (by simp), filter_eq_nil doc.after_keys]
  -- the other members are not known to the reader, so they may even repeat each other
  have hloop := @insertOnce_eq_insertEach JsonValue (List JwksRawKey) String DeError _
    (fun name => decide (name = "keys")) (fun _ => readVec JwksRawKey.deserialize) .duplicateField
    (doc.before ++ ("keys", .array (doc.entries.map Jwk.json)) :: doc.after) ∅
    (by rw [hkept]; simp) (fun member _ => AList.notMem_empty member.1)
  have hitems : readVec JwksRawKey.deserialize (.array (doc.entries.map Jwk.json)) =
      doc.entries.mapM fun jwk => JwksRawKey.deserialize jwk.json := by
    rw [readVec, List.mapM_map]
    rfl
  change JwksDocument.visitMap _ = _
  unfold JwksDocument.visitMap
  rw [hloop, hkept, insertEach, hitems]
  cases doc.entries.mapM fun jwk => JwksRawKey.deserialize jwk.json with
  | error e => rfl
  | ok keys => rfl

end Jwks

/-! ## Leaving the other keys out -/

section Keys
variable {κ : Type} (source : KeySource κ)

theorem parseJwksKeys_filter (raws : List JwksRawKey) :
    parseJwksKeys source (raws.filter fun raw => raw.kty = "RSA") = parseJwksKeys source raws := by
  induction raws with
  | nil => rfl
  | cons raw raws ih =>
    by_cases hrsa : raw.kty = "RSA"
    · rw [List.filter_cons_of_pos (by simpa using hrsa), parseJwksKeys, parseJwksKeys, ih]
    · rw [List.filter_cons_of_neg (by simpa using hrsa), parseJwksKeys, if_pos hrsa, ih]

theorem readKeys_json (doc : Jwks) :
    readKeys source doc.json =
      (doc.entries.mapM fun jwk => JwksRawKey.deserialize jwk.json).map (parseJwksKeys source) := by
  rw [readKeys, Jwks.deserialize_json]
  cases doc.entries.mapM fun jwk => JwksRawKey.deserialize jwk.json with
  | error e => rfl
  | ok keys => rfl

/-- The RSA keys alone are always read. -/
theorem readKeys_onlyRsa (doc : Jwks) : ∃ keys, readKeys source doc.onlyRsa.json = .ok keys := by
  have hread : ∀ jwk ∈ doc.onlyRsa.entries, ∃ raw, JwksRawKey.deserialize jwk.json = .ok raw := by
    intro jwk hjwk
    have hrsa : jwk.kty = "RSA" := by simpa using (List.mem_filter.mp hjwk).2
    exact Jwk.deserialize_isOk_iff.mpr (jwk.rsa hrsa)
  obtain ⟨raws, hraws⟩ := mapM_ok hread
  rw [readKeys_json, hraws]
  exact ⟨_, rfl⟩

/-- A document is read as a whole or not at all. -/
theorem complete_of_readKeys {doc : Jwks} {keys : Except AuthError (List (JwksKey κ))}
    (h : readKeys source doc.json = .ok keys) : ∀ jwk ∈ doc.entries, jwk.Complete := by
  rw [readKeys_json] at h
  obtain ⟨raws, hraws, -⟩ := map_eq_ok h
  intro jwk hjwk
  exact Jwk.deserialize_isOk_iff.mp (ok_of_mapM_ok hraws jwk hjwk)

/-- A document is read as if the keys of other types were not there exactly if each of those has
the text members `kid`, `n` and `e` of an RSA key. -/
theorem foreign_keys_ignored_iff (doc : Jwks) :
    readKeys source doc.json = readKeys source doc.onlyRsa.json ↔
      ∀ jwk ∈ doc.entries, jwk.kty ≠ "RSA" → jwk.Complete := by
  constructor
  · intro hsame jwk hjwk _
    obtain ⟨keys, hkeys⟩ := readKeys_onlyRsa source doc
    exact complete_of_readKeys source (hsame.trans hkeys) jwk hjwk
  · intro hcomplete
    have hread : ∀ jwk ∈ doc.entries, ∃ raw, JwksRawKey.deserialize jwk.json = .ok raw := by
      intro jwk hjwk
      rw [Jwk.deserialize_isOk_iff]
      by_cases hrsa : jwk.kty = "RSA"
      · exact jwk.rsa hrsa
      · exact hcomplete jwk hjwk hrsa
    obtain ⟨raws, hraws⟩ := mapM_ok hread
    -- leaving out entries before reading them leaves out the same keys as after it
    have hkept : doc.onlyRsa.entries.mapM (fun jwk => JwksRawKey.deserialize jwk.json) =
        .ok (raws.filter fun raw => raw.kty = "RSA") := by
      apply mapM_filter_ok _ hraws
      intro jwk raw hraw
      rw [Jwk.kty_of_deserialize hraw]
    rw [readKeys_json, readKeys_json, hraws, hkept]
    change Except.ok _ = Except.ok _
    rw [parseJwksKeys_filter]

/-! ## The cache of such a document -/

/-- The key server as it answers with a JSON body; the HTTP client words the reader's error. -/
def KeySource.answering (message : DeError → String) (body : JsonValue) : KeySource κ :=
  source.replying ((JwksDocument.deserialize body).mapError message)

theorem fetchKeys_answering (message : DeError → String) (body : JsonValue) (now : ℕ)
    (uri : String) :
    fetchKeys (source.answering message body) now uri =
      match readKeys source body with
      | .error e => .error (.jwksFetch (message e))
      | .ok keys => keys := by
  rw [KeySource.answering, fetchKeys_replying, readKeys]
  cases JwksDocument.deserialize body with
  | error e => rfl
  | ok doc => rfl

/-- While one key of another type is there, the cache keeps the keys it has: no new RSA key is
taken over. -/
theorem fetchAndStore_of_incomplete (message : DeError → String) {doc : Jwks} {jwk : Jwk}
    (hjwk : jwk ∈ doc.entries) (hmissing : ¬ jwk.Complete) (now : ℕ) (cache : JwksCache κ) :
    cache.fetchAndStore (source.answering message doc.json) now = cache := by
  rw [JwksCache.fetchAndStore, fetchKeys_answering]
  cases hread : readKeys source doc.json with
  | error e => rfl
  | ok keys => exact absurd (complete_of_readKeys source hread jwk hjwk) hmissing

end Keys

/-! ## A key server with an elliptic-curve key -/

/-- An RSA key. -/
def rsaJwk : Jwk where
  members := [("kty", .string "RSA"), ("kid", .string "rsa-1"), ("alg", .string "RS256"),
    ("n", .string "0vx7"), ("e", .string "AQAB")]
  kty := "RSA"
  unique := by decide
  hasKty := by simp
  text := by simp
  rsa := fun _ => ⟨⟨"rsa-1", by simp⟩, ⟨"0vx7", by simp⟩, ⟨"AQAB", by simp⟩⟩

/-- A key of the curve P-256: coordinates, and neither `n` nor `e`. -/
def ecJwk : Jwk where
  members := [("kty", .string "EC"), ("kid", .string "ec-1"), ("crv", .string "P-256"),
    ("x", .string "MKBC"), ("y", .string "4Etl")]
  kty := "EC"
  unique := by decide
  hasKty := by simp
  text := by simp
  rsa := fun h => absurd h (by decide)

def mixedJwks : Jwks := ⟨[], [ecJwk, rsaJwk], [], by decide, by decide⟩

/-- With the elliptic-curve key the document is refused, without it the RSA key is read. -/
theorem ec_key_refuses_document :
    readKeys sampleSource mixedJwks.json = .error (.missingField "n") ∧
    readKeys sampleSource mixedJwks.onlyRsa.json = .ok (.ok [⟨"rsa-1", "0vx7"⟩]) ∧
    readKeys sampleSource mixedJwks.json ≠ readKeys sampleSource mixedJwks.onlyRsa.json := by
  have hmixed : readKeys sampleSource mixedJwks.json = .error (.missingField "n") := rfl
  have hrsa : readKeys sampleSource mixedJwks.onlyRsa.json = .ok (.ok [⟨"rsa-1", "0vx7"⟩]) := rfl
  refine ⟨hmixed, hrsa, ?_⟩
  rw [hmixed, hrsa]
  simp

end Auth
end OpenApiGateway
