import PgpCard.Record.Codec
import PgpCard.Rsa.Key

/-!
# Key records

A key slot is kept as one record: the attributes of its algorithm, two fingerprints, the time
the key was made, and the components of the private key if there is one.

* `AlgorithmAttributes.toBytes` is the form in which the card shows attributes.
* `KeyRecord.fingerprintPadded` and `KeyRecord.caFingerprintPadded` are the fingerprints on
  exactly twenty bytes.
-/

set_option autoImplicit false

namespace PgpCard

/-- The algorithm of a key slot. -/
structure AlgorithmAttributes where
  algorithm : UInt8
  modulusBits : UInt16
  exponentBits : UInt16
  importFormat : UInt8
  deriving DecidableEq, Repr

namespace AlgorithmAttributes

/-- RSA with 2048 bits, imported with both factors and the modulus. -/
def rsa2048 : AlgorithmAttributes :=
  { algorithm := 1, modulusBits := 2048, exponentBits := 17, importFormat := 3 }

/-- The attributes as the card shows them. -/
def toBytes (a : AlgorithmAttributes) : Bytes :=
  a.algorithm :: Bytes.ofNat 2 a.modulusBits.toNat ++ Bytes.ofNat 2 a.exponentBits.toNat
    ++ [a.importFormat]

/-- The fields of algorithm attributes. -/
def fieldNames : List String :=
  ["algorithm_id", "modulus_bits", "exponent_bits", "import_format"]

/-- Algorithm attributes as a document. -/
def toJson (a : AlgorithmAttributes) : Json :=
  .ofFields [
    ("algorithm_id", .natural a.algorithm.toNat),
    ("modulus_bits", .natural a.modulusBits.toNat),
    ("exponent_bits", .natural a.exponentBits.toNat),
    ("import_format", .natural a.importFormat.toNat)]

/-- The algorithm attributes that a document holds. -/
def ofJson? (document : Json) : Option AlgorithmAttributes :=
  match document.fields? fieldNames with
  | some [algorithm, modulusBits, exponentBits, importFormat] => do
    return {
      algorithm := ← Json.byte? algorithm
      modulusBits := ← Json.uint16? modulusBits
      exponentBits := ← Json.uint16? exponentBits
      importFormat := ← Json.byte? importFormat }
  | _ => none

instance : Recorded AlgorithmAttributes := ⟨toJson, ofJson?⟩

end AlgorithmAttributes

namespace Rsa.Components

/-- The fields of key components. -/
def fieldNames : List String := ["n", "e", "d", "p", "q", "dp", "dq", "qinv"]

/-- Key components as a document. -/
def toJson (c : Components) : Json :=
  .ofFields [
    ("n", .ofBytes c.n), ("e", .ofBytes c.e), ("d", .ofBytes c.d), ("p", .ofBytes c.p),
    ("q", .ofBytes c.q), ("dp", .ofBytes c.dp), ("dq", .ofBytes c.dq),
    ("qinv", .ofBytes c.qinv)]

/-- The key components that a document holds. -/
def ofJson? (document : Json) : Option Components :=
  match document.fields? fieldNames with
  | some [n, e, d, p, q, dp, dq, qinv] => do
    return {
      n := ← Json.bytes? n
      e := ← Json.bytes? e
      d := ← Json.bytes? d
      p := ← Json.bytes? p
      q := ← Json.bytes? q
      dp := ← Json.bytes? dp
      dq := ← Json.bytes? dq
      qinv := ← Json.bytes? qinv }
  | _ => none

instance : Recorded Components := ⟨toJson, ofJson?⟩

end Rsa.Components

/-- What is kept of a key slot. -/
structure KeyRecord where
  attributes : AlgorithmAttributes
  fingerprint : Bytes
  caFingerprint : Bytes
  generationTime : UInt32
  components : Option Rsa.Components
  deriving DecidableEq, Repr

namespace KeyRecord

/-- The length of a fingerprint. -/
def fingerprintLength : Nat := 20

/-- A fingerprint that says nothing. -/
def blankFingerprint : Bytes := List.replicate fingerprintLength 0

/-- A slot without a key. -/
def empty : KeyRecord where
  attributes := .rsa2048
  fingerprint := blankFingerprint
  caFingerprint := blankFingerprint
  generationTime := 0
  components := none

/-- The slot has no key. -/
def isEmpty (record : KeyRecord) : Bool := record.components.isNone

/-- The fingerprint on exactly twenty bytes. -/
def fingerprintPadded (record : KeyRecord) : Bytes :=
  Bytes.fitRight fingerprintLength record.fingerprint

/-- The fingerprint of the certifying key on exactly twenty bytes. -/
def caFingerprintPadded (record : KeyRecord) : Bytes :=
  Bytes.fitRight fingerprintLength record.caFingerprint

/-- The fields of a key record. -/
def fieldNames : List String :=
  ["attributes", "fingerprint", "ca_fingerprint", "generation_time", "components"]

/-- A key record as a document. -/
def toJson (record : KeyRecord) : Json :=
  .ofFields [
    ("attributes", Recorded.toJson record.attributes),
    ("fingerprint", .ofBytes record.fingerprint),
    ("ca_fingerprint", .ofBytes record.caFingerprint),
    ("generation_time", .natural record.generationTime.toNat),
    ("components", match record.components with
      | none => .null
      | some components => Recorded.toJson components)]

/-- The key record that a document holds. -/
def ofJson? (document : Json) : Option KeyRecord :=
  match document.fields? fieldNames with
  | some [attributes, fingerprint, caFingerprint, generationTime, components] => do
    return {
      attributes := ← Json.record? attributes
      fingerprint := ← Json.bytes? fingerprint
      caFingerprint := ← Json.bytes? caFingerprint
      generationTime := ← Json.uint32? generationTime
      components := ← Json.optional? components }
  | _ => none

instance : Recorded KeyRecord := ⟨toJson, ofJson?⟩

end KeyRecord

end PgpCard
