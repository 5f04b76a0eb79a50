import PgpCard.Record.Codec

/-!
# Secret records

A secret is kept as the SHA-256 digest of its value with the length of the value, together with
how many attempts are left and how many there are at most.  Length zero says that no value is
set.
-/

set_option autoImplicit false

namespace PgpCard

/-- What is kept of a secret. -/
structure SecretRecord where
  /-- The attempts given with a new value. -/
  limit : UInt8
  /-- The attempts left. -/
  remaining : UInt8
  /-- The length of the value. -/
  length : UInt8
  /-- The digest of the value. -/
  digest : Bytes
  deriving DecidableEq, Repr

namespace SecretRecord

/-- A secret without a value. -/
def unset (limit : UInt8) : SecretRecord :=
  { limit, remaining := 0, length := 0, digest := [] }

/-- The secret has a value. -/
def isSet (record : SecretRecord) : Bool := 0 < record.length

/-- No attempt is left. -/
def isBlocked (record : SecretRecord) : Bool := record.remaining == 0

/-- The fields of a secret record. -/
def fieldNames : List String := ["limit", "remaining", "length", "digest"]

/-- A secret record as a document. -/
def toJson (record : SecretRecord) : Json :=
  .ofFields [
    ("limit", .natural record.limit.toNat),
    ("remaining", .natural record.remaining.toNat),
    ("length", .natural record.length.toNat),
    ("digest", .ofBytes record.digest)]

/-- The secret record that a document holds. -/
def ofJson? (document : Json) : Option SecretRecord :=
  match document.fields? fieldNames with
  | some [limit, remaining, length, digest] => do
    return {
      limit := ← Json.byte? limit
      remaining := ← Json.byte? remaining
      length := ← Json.byte? length
      digest := ← Json.bytes? digest }
  | _ => none

instance : Recorded SecretRecord := ⟨toJson, ofJson?⟩

end SecretRecord

end PgpCard
