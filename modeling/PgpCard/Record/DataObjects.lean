import PgpCard.Record.Codec

/-!
# The record of stored data objects

The data objects that are plain byte strings, and the one-byte object for the sex of the
cardholder, are kept together in one record.
-/

set_option autoImplicit false

namespace PgpCard

/-- The stored data objects. -/
structure DataObjects where
  name : Bytes := []
  language : Bytes := []
  /-- `31`, `32`, or `39` for not announced. -/
  sex : UInt8 := 0x39
  login : Bytes := []
  url : Bytes := []
  certificate : Bytes := []
  private1 : Bytes := []
  private2 : Bytes := []
  private3 : Bytes := []
  private4 : Bytes := []
  deriving DecidableEq, Repr

namespace DataObjects

/-- The fields of the record. -/
def fieldNames : List String :=
  ["name", "language", "sex", "login", "url", "certificate", "private_do_1", "private_do_2",
    "private_do_3", "private_do_4"]

/-- The data objects as a document. -/
def toJson (objects : DataObjects) : Json :=
  .ofFields [
    ("name", .ofBytes objects.name),
    ("language", .ofBytes objects.language),
    ("sex", .natural objects.sex.toNat),
    ("login", .ofBytes objects.login),
    ("url", .ofBytes objects.url),
    ("certificate", .ofBytes objects.certificate),
    ("private_do_1", .ofBytes objects.private1),
    ("private_do_2", .ofBytes objects.private2),
    ("private_do_3", .ofBytes objects.private3),
    ("private_do_4", .ofBytes objects.private4)]

/-- The data objects that a document holds. -/
def ofJson? (document : Json) : Option DataObjects :=
  match document.fields? fieldNames with
  | some [name, language, sex, login, url, certificate, private1, private2, private3,
      private4] => do
    return {
      name := ← Json.bytes? name
      language := ← Json.bytes? language
      sex := ← Json.byte? sex
      login := ← Json.bytes? login
      url := ← Json.bytes? url
      certificate := ← Json.bytes? certificate
      private1 := ← Json.bytes? private1
      private2 := ← Json.bytes? private2
      private3 := ← Json.bytes? private3
      private4 := ← Json.bytes? private4 }
  | _ => none

instance : Recorded DataObjects := ⟨toJson, ofJson?⟩

end DataObjects

end PgpCard
