import PgpCard.Proofs.Text.Base64
import PgpCard.Proofs.Text.Json
import PgpCard.Record.DataObjects
import PgpCard.Record.Key
import PgpCard.Record.Secret

/-!
# Records are read back as they were written

* `Json.unquote?_ascii`     : a plain ASCII text needs no decoding;
* `Json.fields?_ofFields`   : the fields of a written object are found under their names;
* `Record.Lawful`           : what a record type owes to be read back, field by field;
* `Record.decode?_encode`   : a record of a lawful type is read back from its text.

Secret records, algorithm attributes, key components, key records and the record of data objects
are lawful for arbitrary contents of their fields.
-/

set_option autoImplicit false

namespace PgpCard

namespace Json

/-! ## Plain ASCII text -/

/-- A text of printable ASCII characters that need no escape. -/
def IsPlainAscii (text : Bytes) : Prop := ∀ b ∈ text, IsPlainByte b ∧ b.toNat < 128

instance (b : UInt8) : Decidable (IsPlainByte b) :=
  inferInstanceAs (Decidable (¬ b < 32 ∧ b ≠ 34 ∧ b ≠ 92))

instance (text : Bytes) : Decidable (IsPlainAscii text) :=
  List.decidableBAll (fun b => IsPlainByte b ∧ b.toNat < 128) text

theorem IsPlainAscii.isPlainText {text : Bytes} (h : IsPlainAscii text) : IsPlainText text :=
  fun b hb => (h b hb).1

theorem unescape?_plain {raw : Bytes} (h : IsPlainText raw) : unescape? raw = some raw := by
  induction raw with
  | nil => rw [unescape?]
  | cons b raw ih =>
    have no_backslash := (h b List.mem_cons_self).2.2
    rw [unescape?, ih fun c hc => h c (List.mem_cons_of_mem _ hc)]
    · rfl
    · intro _ _ _ _ _ slash
      exact absurd slash no_backslash
    · intro _ _ slash
      exact absurd slash no_backslash

theorem isSome_decode?_ascii {text : Bytes} (h : ∀ b ∈ text, b.toNat < 128) :
    (Utf8.decode? text).isSome := by
  induction text with
  | nil => rfl
  | cons b text ih =>
    have small := h b List.mem_cons_self
    obtain ⟨chars, tail⟩ := Option.isSome_iff_exists.mp
      (ih fun c hc => h c (List.mem_cons_of_mem _ hc))
    have valid : b.toNat.isValidChar := Or.inl (by omega)
    unfold Utf8.decode?
    rw [if_pos small, Utf8.char?, dif_pos valid, if_pos (Nat.zero_le _), tail]
    rfl

/-- A plain ASCII text needs no decoding. -/
theorem unquote?_ascii {text : Bytes} (h : IsPlainAscii text) : unquote? text = some text := by
  rw [unquote?, unescape?_plain h.isPlainText]
  exact if_pos (isSome_decode?_ascii fun b hb => (h b hb).2)

theorem isPlainAscii_base64 (bytes : Bytes) : IsPlainAscii (Base64.encode bytes) := by
  intro b hb
  have symbol := Base64.isSymbol_of_mem bytes b hb
  simp only [Base64.isSymbol, Bool.and_eq_true, decide_eq_true_eq] at symbol
  obtain ⟨⟨low, high⟩, no_backslash⟩ := symbol
  rw [UInt8.le_iff_toNat_le] at low high
  have low : 43 ≤ b.toNat := low
  have high : b.toNat ≤ 122 := high
  refine ⟨⟨?_, ?_, no_backslash⟩, by omega⟩
  · intro control
    have : b.toNat < 32 := UInt8.lt_iff_toNat_lt.mp control
    omega
  · rintro rfl
    exact absurd low (by decide)

/-! ## Fields -/

theorem namedMembers?_plain {members : List (Bytes × Json)}
    (h : ∀ member ∈ members, IsPlainAscii member.1) : namedMembers? members = some members := by
  induction members with
  | nil => rfl
  | cons member members ih =>
    obtain ⟨name, value⟩ := member
    rw [namedMembers?, unquote?_ascii (h _ List.mem_cons_self),
      ih fun other hm => h other (List.mem_cons_of_mem _ hm)]

theorem filter_name {members : List (Bytes × Json)} (distinct : (members.map (·.1)).Nodup)
    {name : Bytes} {value : Json} (h : (name, value) ∈ members) :
    members.filter (·.1 == name) = [(name, value)] := by
  induction members with
  | nil => cases h
  | cons member members ih =>
    rw [List.map_cons, List.nodup_cons] at distinct
    have others : ∀ other ∈ members, other.1 = member.1 → False := fun other hm same =>
      distinct.1 (List.mem_map.mpr ⟨other, hm, same⟩)
    rcases List.mem_cons.mp h with rfl | h
    · rw [List.filter_cons_of_pos (by simp), List.filter_eq_nil_iff.mpr]
      intro other hm same
      exact others other hm (eq_of_beq same)
    · rw [List.filter_cons_of_neg, ih distinct.2 h]
      intro same
      exact others (name, value) h (eq_of_beq same).symm

theorem members?_of_mem {all : List (Bytes × Json)} (distinct : (all.map (·.1)).Nodup)
    {fields : List (String × Json)} (h : ∀ field ∈ fields, (Bytes.ascii field.1, field.2) ∈ all) :
    members? (fields.map (·.1)) all = some (fields.map fun field => some field.2) := by
  induction fields with
  | nil => rfl
  | cons field fields ih =>
    have found := filter_name distinct (h field List.mem_cons_self)
    rw [List.map_cons, members?, member?, found, ih fun other hm =>
      h other (List.mem_cons_of_mem _ hm)]
    rfl

/-- The fields of a written object are found under their names. -/
theorem fields?_ofFields (names : List String) {fields : List (String × Json)}
    (hn : names = fields.map (·.1)) (plain : ∀ name ∈ names, IsPlainAscii (Bytes.ascii name))
    (distinct : (names.map Bytes.ascii).Nodup) :
    fields? names (ofFields fields) = some (fields.map fun field => some field.2) := by
  subst hn
  have names_plain : ∀ member ∈ fields.map fun field => (Bytes.ascii field.1, field.2),
      IsPlainAscii member.1 := by
    intro member hm
    obtain ⟨field, hf, rfl⟩ := List.mem_map.mp hm
    exact plain field.1 (List.mem_map.mpr ⟨field, hf, rfl⟩)
  rw [ofFields, fields?, namedMembers?_plain names_plain, Option.bind_some]
  refine members?_of_mem ?_ fun field hf => List.mem_map.mpr ⟨field, hf, rfl⟩
  rwa [List.map_map] at distinct ⊢

/-- An object is plain if the names and values of its fields are. -/
theorem isPlain_ofFields {fields : List (String × Json)}
    (h : ∀ field ∈ fields, IsPlainAscii (Bytes.ascii field.1) ∧ IsPlain field.2) :
    IsPlain (ofFields fields) := by
  rw [ofFields, IsPlain]
  induction fields with
  | nil => simp [HavePlain]
  | cons field fields ih =>
    obtain ⟨name, value⟩ := h field List.mem_cons_self
    exact ⟨name.isPlainText, value, ih fun other hf => h other (List.mem_cons_of_mem _ hf)⟩

/-! ## Values of fields -/

theorem isPlain_ofBytes (bytes : Bytes) : IsPlain (ofBytes bytes) :=
  (isPlainAscii_base64 bytes).isPlainText

theorem isPlain_natural (n : Nat) : IsPlain (natural n) := by simp [IsPlain]

@[simp] theorem bytes?_ofBytes (bytes : Bytes) : bytes? (some (ofBytes bytes)) = some bytes := by
  rw [bytes?, Option.bind_some, ofBytes, text?, unquote?_ascii (isPlainAscii_base64 bytes),
    Option.bind_some, Base64.decode?_encode]

@[simp] theorem byte?_natural (n : UInt8) : byte? (some (natural n.toNat)) = some n := by
  rw [byte?, below?, if_pos n.toNat_lt, Option.map_some, UInt8.ofNat_toNat]

@[simp] theorem uint16?_natural (n : UInt16) : uint16? (some (natural n.toNat)) = some n := by
  rw [uint16?, below?, if_pos n.toNat_lt, Option.map_some, UInt16.ofNat_toNat]

@[simp] theorem uint32?_natural (n : UInt32) : uint32? (some (natural n.toNat)) = some n := by
  rw [uint32?, below?, if_pos n.toNat_lt, Option.map_some, UInt32.ofNat_toNat]

end Json

/-! ## Records -/

namespace Record

open Json

/-- The records of a type are written as plain documents and read back from them. -/
class Lawful (α : Type) [Recorded α] : Prop where
  isPlain : ∀ record : α, IsPlain (Recorded.toJson record)
  ofJson?_toJson : ∀ record : α, Recorded.ofJson? (Recorded.toJson record) = some record

/-- A record of a lawful type is read back from its text. -/
theorem decode?_encode {α : Type} [Recorded α] [Lawful α] (record : α) :
    decode? (encode record) = some record := by
  rw [decode?, encode, parse?_print (Lawful.isPlain record), Option.bind_some,
    Lawful.ofJson?_toJson]

end Record

open Json

/-! ## The records of the card -/

instance : Record.Lawful SecretRecord where
  isPlain record := by
    refine isPlain_ofFields ?_
    simp only [List.forall_mem_cons]
    exact ⟨⟨by decide, isPlain_natural _⟩, ⟨by decide, isPlain_natural _⟩,
      ⟨by decide, isPlain_natural _⟩, ⟨by decide, isPlain_ofBytes _⟩, by simp⟩
  ofJson?_toJson record := by
    simp only [Recorded.ofJson?, Recorded.toJson, SecretRecord.ofJson?, SecretRecord.toJson]
    rw [fields?_ofFields SecretRecord.fieldNames (by rfl) (by decide) (by decide)]
    simp

instance : Record.Lawful AlgorithmAttributes where
  isPlain record := by
    refine isPlain_ofFields ?_
    simp only [List.forall_mem_cons]
    exact ⟨⟨by decide, isPlain_natural _⟩, ⟨by decide, isPlain_natural _⟩,
      ⟨by decide, isPlain_natural _⟩, ⟨by decide, isPlain_natural _⟩, by simp⟩
  ofJson?_toJson record := by
    simp only [Recorded.ofJson?, Recorded.toJson, AlgorithmAttributes.ofJson?,
      AlgorithmAttributes.toJson]
    rw [fields?_ofFields AlgorithmAttributes.fieldNames (by rfl) (by decide) (by decide)]
    simp

instance : Record.Lawful Rsa.Components where
  isPlain record := by
    refine isPlain_ofFields ?_
    simp only [List.forall_mem_cons]
    exact ⟨⟨by decide, isPlain_ofBytes _⟩, ⟨by decide, isPlain_ofBytes _⟩,
      ⟨by decide, isPlain_ofBytes _⟩, ⟨by decide, isPlain_ofBytes _⟩,
      ⟨by decide, isPlain_ofBytes _⟩, ⟨by decide, isPlain_ofBytes _⟩,
      ⟨by decide, isPlain_ofBytes _⟩, ⟨by decide, isPlain_ofBytes _⟩, by simp⟩
  ofJson?_toJson record := by
    simp only [Recorded.ofJson?, Recorded.toJson, Rsa.Components.ofJson?, Rsa.Components.toJson]
    rw [fields?_ofFields Rsa.Components.fieldNames (by rfl) (by decide) (by decide)]
    simp

namespace Json

/-- A record inside another one is read back. -/
@[simp] theorem record?_toJson {α : Type} [Recorded α] [Record.Lawful α] (record : α) :
    record? (some (Recorded.toJson record)) = some record := by
  rw [record?, Option.bind_some, Record.Lawful.ofJson?_toJson]

end Json

/-- The components of a key are read back where they may be missing. -/
@[simp] theorem optional?_components (components : Rsa.Components) :
    optional? (some (Recorded.toJson components)) = some (some components) := by
  have read := Record.Lawful.ofJson?_toJson components
  simp only [Recorded.toJson, Rsa.Components.toJson, ofFields] at read ⊢
  rw [optional?, read]
  · rfl
  · intro is_null
    cases is_null

instance : Record.Lawful KeyRecord where
  isPlain record := by
    refine isPlain_ofFields ?_
    simp only [List.forall_mem_cons]
    refine ⟨⟨by decide, Record.Lawful.isPlain record.attributes⟩,
      ⟨by decide, isPlain_ofBytes _⟩, ⟨by decide, isPlain_ofBytes _⟩,
      ⟨by decide, isPlain_natural _⟩, ⟨by decide, ?_⟩, by simp⟩
    cases record.components with
    | none => simp [IsPlain]
    | some components => exact Record.Lawful.isPlain components
  ofJson?_toJson record := by
    obtain ⟨attributes, fingerprint, caFingerprint, generationTime, components⟩ := record
    change KeyRecord.ofJson? (KeyRecord.toJson _) = _
    rw [KeyRecord.ofJson?, KeyRecord.toJson,
      fields?_ofFields KeyRecord.fieldNames (by rfl) (by decide) (by decide)]
    cases components with
    | none => simp [optional?]
    | some components => simp

instance : Record.Lawful DataObjects where
  isPlain record := by
    refine isPlain_ofFields ?_
    simp only [List.forall_mem_cons]
    exact ⟨⟨by decide, isPlain_ofBytes _⟩, ⟨by decide, isPlain_ofBytes _⟩,
      ⟨by decide, isPlain_natural _⟩, ⟨by decide, isPlain_ofBytes _⟩,
      ⟨by decide, isPlain_ofBytes _⟩, ⟨by decide, isPlain_ofBytes _⟩,
      ⟨by decide, isPlain_ofBytes _⟩, ⟨by decide, isPlain_ofBytes _⟩,
      ⟨by decide, isPlain_ofBytes _⟩, ⟨by decide, isPlain_ofBytes _⟩, by simp⟩
  ofJson?_toJson record := by
    simp only [Recorded.ofJson?, Recorded.toJson, DataObjects.ofJson?, DataObjects.toJson]
    rw [fields?_ofFields DataObjects.fieldNames (by rfl) (by decide) (by decide)]
    simp

end PgpCard
