import Mathlib.Tactic.NormNum.Basic

/-!
# The protocol buffer wire format

A message on the wire is a list of fields, each a number with a value: an integer of up to 64 bits,
or a run of bytes that holds a text or another message. `readFields_encodeFields` says that such a
list can be read back.

A `Codec` ties a type to its list of fields and back. Fields that have their default value are left
out, a text or number that is missing has its default, a message that comes in pieces is read from
all of them, and what a reader does not know it skips. `Codec.Lawful` is the law of a codec at one
value; the law of a message is put together from the laws of its parts.
-/

namespace Lib.WireFormat

/-! ## Integers -/

/-- Seven bits a byte, the lowest first, the high bit set on all but the last. -/
def varintLoop : ℕ → ℕ → List UInt8
  | 0, _ => []
  | fuel + 1, n =>
    if n < 128 then [UInt8.ofNat n] else UInt8.ofNat (n % 128 + 128) :: varintLoop fuel (n / 128)

/-- A 64-bit number takes ten bytes at most. -/
def varint (n : ℕ) : List UInt8 := varintLoop 10 n

/-- Read a varint of at most `fuel` bytes; every byte but the last has its high bit set. -/
def readVarintLoop : ℕ → List UInt8 → Option (ℕ × List UInt8)
  | 0, _ => none
  | _ + 1, [] => none
  | fuel + 1, b :: rest =>
    if b.toNat < 128 then some (b.toNat, rest)
    else (readVarintLoop fuel rest).map fun read => (b.toNat - 128 + 128 * read.1, read.2)

/-- A varint that does not fit 64 bits is refused. -/
def readVarint (bytes : List UInt8) : Option (ℕ × List UInt8) :=
  (readVarintLoop 10 bytes).filter fun read => read.1 < 2 ^ 64

theorem toNat_ofNat_of_lt {n : ℕ} (h : n < 256) : (UInt8.ofNat n).toNat = n := by
  rw [UInt8.toNat_ofNat']
  exact Nat.mod_eq_of_lt h

/-- Reading takes off exactly the bytes that were written. -/
theorem readVarintLoop_varintLoop (fuel : ℕ) {n : ℕ} (h : n < 128 ^ (fuel + 1))
    (rest : List UInt8) :
    readVarintLoop (fuel + 1) (varintLoop (fuel + 1) n ++ rest) = some (n, rest) := by
  induction fuel generalizing n with
  | zero =>
    have hlt : n < 128 := by simpa using h
    have hbyte : (UInt8.ofNat n).toNat = n := toNat_ofNat_of_lt (by omega)
    simp [varintLoop, readVarintLoop, hlt, hbyte]
  | succ fuel ih =>
    rw [varintLoop]
    by_cases hlt : n < 128
    · have hbyte : (UInt8.ofNat n).toNat = n := toNat_ofNat_of_lt (by omega)
      simp [readVarintLoop, hlt, hbyte]
    · have hbyte : (UInt8.ofNat (n % 128 + 128)).toNat = n % 128 + 128 :=
        toNat_ofNat_of_lt (by omega)
      have hdiv : n / 128 < 128 ^ (fuel + 1) := by
        rw [Nat.div_lt_iff_lt_mul (by omega)]
        rw [Nat.pow_succ] at h
        exact h
      have hsum : n % 128 + 128 * (n / 128) = n := Nat.mod_add_div n 128
      rw [if_neg hlt, List.cons_append, readVarintLoop, hbyte, if_neg (by omega), ih hdiv]
      simp only [Option.map_some, Nat.add_sub_cancel, hsum]

/-- A number is read back, whatever follows it. -/
theorem readVarint_varint {n : ℕ} (h : n < 2 ^ 64) (rest : List UInt8) :
    readVarint (varint n ++ rest) = some (n, rest) := by
  have hfits : n < 128 ^ (9 + 1) := Nat.lt_trans h (by decide)
  rw [readVarint, varint, readVarintLoop_varintLoop 9 hfits, Option.filter_some]
  exact if_pos (decide_eq_true h)

/-- Every number takes at least one byte, so reading a field makes progress. -/
theorem varint_ne_nil (n : ℕ) : varint n ≠ [] := by
  unfold varint varintLoop
  split
  · exact List.cons_ne_nil _ _
  · exact List.cons_ne_nil _ _

/-! ## Fields -/

/-- What a field carries: a number, or a run of bytes with its length in front. -/
inductive Value where
  | number (n : ℕ)
  | bytes (content : List UInt8)
deriving DecidableEq

/-- A value with the number of its field. -/
structure Field where
  number : ℕ
  value : Value
deriving DecidableEq

/-- The key of a field has its number and, in the low three bits, the kind of its value. -/
def encodeField : Field → List UInt8
  | ⟨k, .number n⟩ => varint (8 * k) ++ varint n
  | ⟨k, .bytes content⟩ => varint (8 * k + 2) ++ (varint content.length ++ content)

/-- The bytes of a message: those of its fields, one after the other. -/
def encodeFields (fields : List Field) : List UInt8 := fields.flatMap encodeField

/-- Read the key and what follows it; the low three bits of the key say which kind it is. -/
def readField (bytes : List UInt8) : Option (Field × List UInt8) :=
  (readVarint bytes).bind fun key =>
    (readVarint key.2).bind fun read =>
      if key.1 % 8 = 0 then some (⟨key.1 / 8, .number read.1⟩, read.2)
      else if key.1 % 8 = 2 ∧ read.1 ≤ read.2.length then
        some (⟨key.1 / 8, .bytes (read.2.take read.1)⟩, read.2.drop read.1)
      else none

/-- Read fields until no bytes are left, `fuel` of them at most. -/
def readFieldsLoop : ℕ → List UInt8 → Option (List Field)
  | _, [] => some []
  | 0, _ :: _ => none
  | fuel + 1, b :: bytes =>
    (readField (b :: bytes)).bind fun read =>
      (readFieldsLoop fuel read.2).map fun fields => read.1 :: fields

/-- A field takes at least one byte. -/
def readFields (bytes : List UInt8) : Option (List Field) := readFieldsLoop bytes.length bytes

/-- The numbers of a field are what its encoding can hold. -/
def Field.Small : Field → Prop
  | ⟨k, .number n⟩ => k < 2 ^ 29 ∧ n < 2 ^ 64
  | ⟨k, .bytes _⟩ => k < 2 ^ 29

/-- A field is read back, whatever follows it. -/
theorem readField_encodeField {field : Field} (hsmall : field.Small)
    (hlength : (encodeField field).length < 2 ^ 64) (rest : List UInt8) :
    readField (encodeField field ++ rest) = some (field, rest) := by
  obtain ⟨k, n | content⟩ := field
  · obtain ⟨hk, hn⟩ := hsmall
    have hkey : 8 * k < 2 ^ 64 := by omega
    have hkind : 8 * k % 8 = 0 := by omega
    have hnumber : 8 * k / 8 = k := by omega
    rw [encodeField, List.append_assoc, readField, readVarint_varint hkey, Option.bind_some]
    rw [readVarint_varint hn, Option.bind_some, if_pos hkind, hnumber]
  · have hk : k < 2 ^ 29 := hsmall
    have hcontent : content.length < 2 ^ 64 := by
      rw [encodeField, List.length_append, List.length_append] at hlength
      omega
    have hkey : 8 * k + 2 < 2 ^ 64 := by omega
    have hkind : (8 * k + 2) % 8 = 2 := by omega
    have hnumber : (8 * k + 2) / 8 = k := by omega
    have hroom : content.length ≤ (content ++ rest).length := by simp
    rw [encodeField, List.append_assoc, readField, readVarint_varint hkey, Option.bind_some]
    rw [List.append_assoc, readVarint_varint hcontent, Option.bind_some]
    rw [if_neg (by omega), if_pos ⟨hkind, hroom⟩, hnumber, List.take_left, List.drop_left]

theorem encodeField_ne_nil (field : Field) : encodeField field ≠ [] := by
  obtain ⟨k, n | content⟩ := field
  · exact List.append_ne_nil_of_left_ne_nil (varint_ne_nil _) _
  · exact List.append_ne_nil_of_left_ne_nil (varint_ne_nil _) _

/-- Fields are read back if there is fuel for each of them. -/
theorem readFieldsLoop_encodeFields {fuel : ℕ} {fields : List Field} (hfuel : fields.length ≤ fuel)
    (hsmall : ∀ field ∈ fields, field.Small) (hlength : (encodeFields fields).length < 2 ^ 64) :
    readFieldsLoop fuel (encodeFields fields) = some fields := by
  induction fields generalizing fuel with
  | nil => cases fuel <;> rfl
  | cons field fields ih =>
    obtain ⟨fuel, rfl⟩ : ∃ n, fuel = n + 1 := Nat.exists_eq_add_one.mpr (by simp at hfuel; omega)
    have hbytes : encodeFields (field :: fields) = encodeField field ++ encodeFields fields := by
      simp [encodeFields]
    rw [hbytes, List.length_append] at hlength
    have hfield := readField_encodeField (hsmall field List.mem_cons_self) (by omega)
      (encodeFields fields)
    have hrest : readFieldsLoop fuel (encodeFields fields) = some fields := by
      refine ih ?_ (fun f hf => hsmall f (List.mem_cons_of_mem _ hf)) (by omega)
      rw [List.length_cons] at hfuel
      omega
    obtain ⟨b, bytes, hcons⟩ := List.exists_cons_of_ne_nil
      (List.append_ne_nil_of_left_ne_nil (encodeField_ne_nil field) (encodeFields fields))
    rw [hbytes]
    rw [hcons] at hfield ⊢
    rw [readFieldsLoop, hfield, Option.bind_some, hrest, Option.map_some]

/-- The length of a message is fuel enough for its fields. -/
theorem length_le_length_encodeFields (fields : List Field) :
    fields.length ≤ (encodeFields fields).length := by
  induction fields with
  | nil => exact Nat.le_refl _
  | cons field fields ih =>
    have hpos : 0 < (encodeField field).length :=
      List.length_pos_iff.mpr (encodeField_ne_nil field)
    simp only [encodeFields, List.flatMap_cons, List.length_append, List.length_cons] at ih ⊢
    omega

/-- A list of fields is read back from its bytes. -/
theorem readFields_encodeFields {fields : List Field} (hsmall : ∀ field ∈ fields, field.Small)
    (hlength : (encodeFields fields).length < 2 ^ 64) :
    readFields (encodeFields fields) = some fields :=
  readFieldsLoop_encodeFields (length_le_length_encodeFields fields) hsmall hlength

/-- What a field holds is shorter than the whole. -/
theorem length_content_le {fields : List Field} {k : ℕ} {content : List UInt8}
    (h : ⟨k, .bytes content⟩ ∈ fields) : content.length ≤ (encodeFields fields).length := by
  have hfield : content.length ≤ (encodeField ⟨k, .bytes content⟩).length := by
    rw [encodeField, List.length_append, List.length_append]
    omega
  refine Nat.le_trans hfield ?_
  exact List.Sublist.length_le (List.sublist_flatten_of_mem (List.mem_map_of_mem h))

/-! ## Texts -/

/-- The bytes of a text in UTF-8. -/
def textBytes (s : String) : List UInt8 := s.toByteArray.data.toList

/-- The text of a run of bytes, unless it is not UTF-8. -/
def readTextBytes (content : List UInt8) : Option String := String.fromUTF8? ⟨content.toArray⟩

theorem readTextBytes_textBytes (s : String) : readTextBytes (textBytes s) = some s := by
  rw [readTextBytes, textBytes, Array.toArray_toList, String.fromUTF8?, dif_pos s.isValidUTF8]
  rfl

/-! ## What a message holds under a number -/

/-- The numbers under a field number, in order. -/
def numbersAt (k : ℕ) (fields : List Field) : List ℕ :=
  fields.filterMap fun field =>
    match field.value with
    | .number n => if field.number = k then some n else none
    | .bytes _ => none

/-- The byte runs under a field number, in order. -/
def contentsAt (k : ℕ) (fields : List Field) : List (List UInt8) :=
  fields.filterMap fun field =>
    match field.value with
    | .number _ => none
    | .bytes content => if field.number = k then some content else none

/-- A number, left out where it is zero. -/
def numberField (k n : ℕ) : List Field := if n = 0 then [] else [⟨k, .number n⟩]

/-- A text, left out where it is empty. -/
def textField (k : ℕ) (s : String) : List Field :=
  if s = "" then [] else [⟨k, .bytes (textBytes s)⟩]

/-- A byte run, left out where it is empty. -/
def bytesField (k : ℕ) (content : List UInt8) : List Field :=
  if content = [] then [] else [⟨k, .bytes content⟩]

/-- One field for each byte run. -/
def contentFields (k : ℕ) (contents : List (List UInt8)) : List Field :=
  contents.map fun content => ⟨k, .bytes content⟩

section At
variable {k j n : ℕ}

@[simp] theorem numbersAt_nil : numbersAt k [] = [] := rfl

@[simp] theorem contentsAt_nil : contentsAt k [] = [] := rfl

@[simp]
theorem numbersAt_append (fields more : List Field) :
    numbersAt k (fields ++ more) = numbersAt k fields ++ numbersAt k more :=
  List.filterMap_append

@[simp]
theorem contentsAt_append (fields more : List Field) :
    contentsAt k (fields ++ more) = contentsAt k fields ++ contentsAt k more :=
  List.filterMap_append

@[simp]
theorem numbersAt_numberField :
    numbersAt k (numberField j n) = if j = k ∧ n ≠ 0 then [n] else [] := by
  unfold numberField
  by_cases hn : n = 0
  · simp [hn]
  · by_cases hj : j = k <;> simp [hn, hj, numbersAt]

@[simp]
theorem contentsAt_numberField : contentsAt k (numberField j n) = [] := by
  unfold numberField
  by_cases hn : n = 0
  · simp [hn]
  · simp [hn, contentsAt]

/-- Repeated fields are found under their own number only. -/
@[simp]
theorem contentsAt_contentFields (contents : List (List UInt8)) :
    contentsAt k (contentFields j contents) = if j = k then contents else [] := by
  induction contents with
  | nil => simp [contentFields]
  | cons content contents ih =>
    by_cases hj : j = k
    · simp only [contentFields, hj, if_true, contentsAt, List.map_cons,
        List.filterMap_cons] at ih ⊢
      rw [ih]
    · simp only [contentFields, hj, if_false, contentsAt, List.map_cons,
        List.filterMap_cons] at ih ⊢
      exact ih

@[simp]
theorem numbersAt_contentFields (contents : List (List UInt8)) :
    numbersAt k (contentFields j contents) = [] := by
  induction contents with
  | nil => rfl
  | cons content contents ih => exact ih

@[simp]
theorem contentsAt_textField (s : String) :
    contentsAt k (textField j s) = if j = k ∧ s ≠ "" then [textBytes s] else [] := by
  unfold textField
  by_cases hs : s = ""
  · simp [hs]
  · by_cases hj : j = k <;> simp [hs, hj, contentsAt]

@[simp]
theorem numbersAt_textField (s : String) : numbersAt k (textField j s) = [] := by
  unfold textField
  by_cases hs : s = ""
  · simp [hs]
  · simp [hs, numbersAt]

@[simp]
theorem contentsAt_bytesField (content : List UInt8) :
    contentsAt k (bytesField j content) = if j = k ∧ content ≠ [] then [content] else [] := by
  unfold bytesField
  by_cases hcontent : content = []
  · simp [hcontent]
  · by_cases hj : j = k <;> simp [hcontent, hj, contentsAt]

@[simp]
theorem numbersAt_bytesField (content : List UInt8) : numbersAt k (bytesField j content) = [] := by
  unfold bytesField
  split
  · rfl
  · simp [numbersAt]

end At

section Small
variable {k n : ℕ}

/-- A number of 64 bits makes a small field. -/
theorem small_numberField (hk : k < 2 ^ 29) (hn : n < 2 ^ 64) :
    ∀ field ∈ numberField k n, field.Small := by
  unfold numberField
  split
  · simp
  · exact List.forall_mem_singleton.mpr ⟨hk, hn⟩

/-- Byte runs make small fields, whatever their lengths. -/
theorem small_contentFields (hk : k < 2 ^ 29) (contents : List (List UInt8)) :
    ∀ field ∈ contentFields k contents, field.Small := by
  intro field hfield
  obtain ⟨content, -, rfl⟩ := List.mem_map.mp hfield
  exact hk

theorem small_textField (hk : k < 2 ^ 29) (s : String) : ∀ field ∈ textField k s, field.Small := by
  unfold textField
  split
  · simp
  · exact List.forall_mem_singleton.mpr hk

theorem small_bytesField (hk : k < 2 ^ 29) (content : List UInt8) :
    ∀ field ∈ bytesField k content, field.Small := by
  unfold bytesField
  split
  · simp
  · exact List.forall_mem_singleton.mpr hk

end Small

/-! ## Readers -/

/-- The last number counts; one that is missing is 0. -/
def readNumber (k : ℕ) (fields : List Field) : ℕ := (numbersAt k fields).getLastD 0

/-- All texts under a number, unless one of them is not UTF-8. -/
def readTexts (k : ℕ) (fields : List Field) : Option (List String) :=
  (contentsAt k fields).mapM readTextBytes

/-- The last text counts; one that is missing is empty. -/
def readText (k : ℕ) (fields : List Field) : Option String :=
  (readTexts k fields).map fun texts => texts.getLastD ""

/-- The last byte run counts; one that is missing is empty. -/
def readBytes (k : ℕ) (fields : List Field) : List UInt8 := (contentsAt k fields).getLastD []

/-- A number is read back from any message that has under `k` what `numberField` puts there. -/
theorem readNumber_numberField {k n : ℕ} {fields : List Field}
    (h : numbersAt k fields = numbersAt k (numberField k n)) : readNumber k fields = n := by
  rw [readNumber, h, numbersAt_numberField]
  by_cases hn : n = 0
  · simp [hn]
  · simp [hn]

/-- The same for a text. -/
theorem readText_textField {k : ℕ} {s : String} {fields : List Field}
    (h : contentsAt k fields = contentsAt k (textField k s)) : readText k fields = some s := by
  rw [readText, readTexts, h, contentsAt_textField]
  by_cases hs : s = ""
  · simp [hs]
  · simp [hs, readTextBytes_textBytes]

/-- The same for a byte run. -/
theorem readBytes_bytesField {k : ℕ} {content : List UInt8} {fields : List Field}
    (h : contentsAt k fields = contentsAt k (bytesField k content)) :
    readBytes k fields = content := by
  rw [readBytes, h, contentsAt_bytesField]
  by_cases hcontent : content = []
  · simp [hcontent]
  · simp [hcontent]

/-- The same for a list of texts. -/
theorem readTexts_contentFields {k : ℕ} {texts : List String} {fields : List Field}
    (h : contentsAt k fields = contentsAt k (contentFields k (texts.map textBytes))) :
    readTexts k fields = some texts := by
  rw [readTexts, h, contentsAt_contentFields, if_pos rfl]
  clear h
  induction texts with
  | nil => rfl
  | cons text texts ih =>
    rw [List.map_cons, List.mapM_cons, readTextBytes_textBytes, ih]
    rfl

/-- One field after the other. -/
theorem bind_eq_some {α β : Type} {x : Option α} {f : α → Option β} {a : α} {b : β}
    (hx : x = some a) (hf : f a = some b) : (x >>= f) = some b := by
  rw [hx]
  exact hf

/-- A part is not longer than the whole. -/
theorem length_le_of_mem_contentsAt {k : ℕ} {content : List UInt8} {fields : List Field}
    (h : content ∈ contentsAt k fields) : content.length ≤ (encodeFields fields).length := by
  obtain ⟨⟨j, n | bytes⟩, hfield, hcontent⟩ := List.mem_filterMap.mp h
  · simp at hcontent
  · by_cases hj : j = k
    · simp only [hj, if_true, Option.some.injEq] at hcontent
      have hle := length_content_le hfield
      rw [hcontent] at hle
      exact hle
    · simp [hj] at hcontent

/-! ## Alternatives -/

/-- The byte runs under some field numbers, in order and with their numbers. -/
def variantsAt (ks : List ℕ) (fields : List Field) : List (ℕ × List UInt8) :=
  fields.filterMap fun field =>
    match field.value with
    | .number _ => none
    | .bytes content => if field.number ∈ ks then some (field.number, content) else none

/-- A `oneof` with these field numbers. The last alternative counts, with all pieces of it that came
after the last of another one. -/
def readVariant (ks : List ℕ) (fields : List Field) : Option (ℕ × List UInt8) :=
  match (variantsAt ks fields).reverse with
  | [] => none
  | (k, content) :: rest =>
    some (k,
      (((k, content) :: rest).takeWhile fun variant => variant.1 = k).reverse.flatMap Prod.snd)

/-- A variant that was written alone is the one that is read. -/
theorem readVariant_contentFields {ks : List ℕ} {k : ℕ} (hk : k ∈ ks) (content : List UInt8) :
    readVariant ks (contentFields k [content]) = some (k, content) := by
  simp [readVariant, variantsAt, contentFields, hk]

/-! ## Codecs -/

/-- A type of messages: the fields of a message, and the message of a list of fields. -/
structure Codec (α : Type) where
  fields : α → List Field
  read : List Field → Option α

namespace Codec
variable {α : Type} (codec : Codec α)

/-- The bytes of a value. -/
def encode (a : α) : List UInt8 := encodeFields (codec.fields a)

/-- The value that bytes stand for, if they are those of a message. -/
def decode (bytes : List UInt8) : Option α := (readFields bytes).bind codec.read

/-- A message that may be missing. It may come in several pieces. -/
def readOptional (k : ℕ) (fields : List Field) : Option (Option α) :=
  match contentsAt k fields with
  | [] => some none
  | contents => (codec.decode contents.flatten).map some

/-- A message that has to be there. -/
def readMessage (k : ℕ) (fields : List Field) : Option α := (codec.readOptional k fields).bind id

/-- All messages under a number, unless one of them cannot be read. -/
def readMessages (k : ℕ) (fields : List Field) : Option (List α) :=
  (contentsAt k fields).mapM codec.decode

/-- A message, or nothing where there is none. -/
def optionalField (k : ℕ) (a : Option α) : List Field :=
  contentFields k (a.toList.map codec.encode)

/-- A message inside another, written even where it is empty. -/
def messageField (k : ℕ) (a : α) : List Field := contentFields k [codec.encode a]

/-- One field for each message of a list. -/
def messageFields (k : ℕ) (as : List α) : List Field := contentFields k (as.map codec.encode)

section At
variable {codec : Codec α} {j k : ℕ}

@[simp]
theorem contentsAt_messageField (a : α) :
    contentsAt k (codec.messageField j a) = if j = k then [codec.encode a] else [] :=
  contentsAt_contentFields _

@[simp]
theorem contentsAt_messageFields (as : List α) :
    contentsAt k (codec.messageFields j as) = if j = k then as.map codec.encode else [] :=
  contentsAt_contentFields _

@[simp]
theorem contentsAt_optionalField (a : Option α) :
    contentsAt k (codec.optionalField j a) = if j = k then a.toList.map codec.encode else [] :=
  contentsAt_contentFields _

@[simp]
theorem numbersAt_messageField (a : α) : numbersAt k (codec.messageField j a) = [] :=
  numbersAt_contentFields _

@[simp]
theorem numbersAt_messageFields (as : List α) : numbersAt k (codec.messageFields j as) = [] :=
  numbersAt_contentFields _

@[simp]
theorem numbersAt_optionalField (a : Option α) : numbersAt k (codec.optionalField j a) = [] :=
  numbersAt_contentFields _

end At

/-- Every field is small, and as long as the whole is not too long it is read back. -/
structure Lawful (a : α) : Prop where
  small : ∀ field ∈ codec.fields a, field.Small
  read : (codec.encode a).length < 2 ^ 64 → codec.read (codec.fields a) = some a

variable {codec} {k : ℕ} {fields : List Field}

/-- The round trip of a lawful value. -/
theorem Lawful.decode_encode {a : α} (h : codec.Lawful a)
    (hlength : (codec.encode a).length < 2 ^ 64) : codec.decode (codec.encode a) = some a := by
  rw [decode, encode, readFields_encodeFields h.small hlength, Option.bind_some]
  exact h.read hlength

/-! ### Reading a message as part of another -/

section Parts
variable (hlength : (encodeFields fields).length < 2 ^ 64)
include hlength

/-- A part of a message that is not too long is not too long. -/
theorem length_part {a : α} (hpart : codec.encode a ∈ contentsAt k fields) :
    (codec.encode a).length < 2 ^ 64 :=
  Nat.lt_of_le_of_lt (length_le_of_mem_contentsAt hpart) hlength

/-- A message is read back from any message that has it under `k`. -/
theorem readMessage_messageField {a : α} (h : codec.Lawful a)
    (hcontents : contentsAt k fields = contentsAt k (codec.messageField k a)) :
    codec.readMessage k fields = some a := by
  rw [contentsAt_messageField, if_pos rfl] at hcontents
  have hpart : codec.encode a ∈ contentsAt k fields := by simp [hcontents]
  simp [readMessage, readOptional, hcontents, h.decode_encode (length_part hlength hpart)]

/-- The same for a message that may be missing. -/
theorem readOptional_optionalField {a : Option α} (h : ∀ b ∈ a, codec.Lawful b)
    (hcontents : contentsAt k fields = contentsAt k (codec.optionalField k a)) :
    codec.readOptional k fields = some a := by
  rw [contentsAt_optionalField, if_pos rfl] at hcontents
  cases a with
  | none => simp [readOptional, hcontents]
  | some b =>
    have hpart : codec.encode b ∈ contentsAt k fields := by simp [hcontents]
    simp [readOptional, hcontents, (h b rfl).decode_encode (length_part hlength hpart)]

/-- The same for a list of messages. -/
theorem readMessages_messageFields {as : List α} (h : ∀ a ∈ as, codec.Lawful a)
    (hcontents : contentsAt k fields = contentsAt k (codec.messageFields k as)) :
    codec.readMessages k fields = some as := by
  rw [contentsAt_messageFields, if_pos rfl] at hcontents
  have hdecode : ∀ a ∈ as, codec.decode (codec.encode a) = some a := by
    intro a ha
    have hpart : codec.encode a ∈ contentsAt k fields := by
      rw [hcontents]
      exact List.mem_map_of_mem ha
    exact (h a ha).decode_encode (length_part hlength hpart)
  rw [readMessages, hcontents]
  clear hcontents h
  induction as with
  | nil => rfl
  | cons a as ih =>
    rw [List.map_cons, List.mapM_cons, hdecode a List.mem_cons_self,
      ih fun b hb => hdecode b (List.mem_cons_of_mem _ hb)]
    rfl

end Parts

/-- A message as an alternative of another one. -/
theorem decode_of_readVariant (ks : List ℕ) (hk : k ∈ ks) {a : α} (h : codec.Lawful a)
    (hlength : (encodeFields (codec.messageField k a)).length < 2 ^ 64) :
    readVariant ks (codec.messageField k a) = some (k, codec.encode a) ∧
      codec.decode (codec.encode a) = some a := by
  refine ⟨readVariant_contentFields hk _, h.decode_encode ?_⟩
  exact length_part hlength (k := k) (by simp)

/-! ### Messages with one field -/

/-- A message that only holds another one. -/
def wrapped (codec : Codec α) : Codec α where
  fields := codec.messageField 1
  read := codec.readMessage 1

/-- Wrapping keeps the round trip. -/
theorem Lawful.wrapped {a : α} (h : codec.Lawful a) : codec.wrapped.Lawful a where
  small := small_contentFields (by omega) _
  read hlength := readMessage_messageField hlength h rfl

/-- A message that only holds a list of others. -/
def listed (codec : Codec α) : Codec (List α) where
  fields := codec.messageFields 1
  read := codec.readMessages 1

/-- A list round-trips when each of its values does. -/
theorem Lawful.listed {as : List α} (h : ∀ a ∈ as, codec.Lawful a) : codec.listed.Lawful as where
  small := small_contentFields (by omega) _
  read hlength := readMessages_messageFields hlength h rfl

/-- A message without fields. -/
def empty : Codec Unit where
  fields _ := []
  read _ := some ()

/-- The message without fields round-trips. -/
theorem Lawful.empty : Codec.empty.Lawful () where
  small := by simp [Codec.empty]
  read _ := rfl

/-- A message that only holds a text. -/
def text : Codec String where
  fields := textField 1
  read := readText 1

/-- The message with one text round-trips. -/
theorem Lawful.text (s : String) : Codec.text.Lawful s where
  small := small_textField (by omega) s
  read _ := readText_textField rfl

end Codec

end Lib.WireFormat
