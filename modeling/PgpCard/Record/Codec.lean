import PgpCard.Text.Base64
import PgpCard.Text.Json

/-!
# Records as JSON text

A record is written as a JSON object of its fields in a fixed order, byte strings in base64.  It
is read from an object with its fields in any order, where unknown fields are ignored and a
known field stands at most once, or from an array of exactly all its fields in order.

* `Recorded` is the class of record types.
* `Record.encode` and `Record.decode?` turn a record into text and back.
* `Json.fields?` finds the fields of a record in a document.
-/

set_option autoImplicit false

namespace PgpCard

/-- A type whose values are kept as JSON documents. -/
class Recorded (α : Type) where
  toJson : α → Json
  ofJson? : Json → Option α

namespace Record

/-- A record as text. -/
def encode {α : Type} [Recorded α] (record : α) : Bytes :=
  Json.print (Recorded.toJson record)

/-- The record that a text holds. -/
def decode? {α : Type} [Recorded α] (text : Bytes) : Option α :=
  (Json.parse? text).bind Recorded.ofJson?

end Record

namespace Json

/-- An object with the given fields, whose names need no escapes. -/
def ofFields (fields : List (String × Json)) : Json :=
  object (fields.map fun (name, value) => (Bytes.ascii name, value))

/-- A byte string as a base64 string. -/
def ofBytes (bytes : Bytes) : Json := string (Base64.encode bytes)

/-- The members of an object with their names decoded. -/
def namedMembers? : List (Bytes × Json) → Option (List (Bytes × Json))
  | [] => some []
  | (raw, value) :: members =>
    match unquote? raw, namedMembers? members with
    | some name, some rest => some ((name, value) :: rest)
    | _, _ => none

/-- The value of the member with a name: `none` if it stands twice, `some none` if it is
absent. -/
def member? (name : Bytes) (members : List (Bytes × Json)) : Option (Option Json) :=
  match members.filter (·.1 == name) with
  | [] => some none
  | [(_, value)] => some (some value)
  | _ => none

/-- The values of the members with the given names, each present at most once. -/
def members? (names : List String) (members : List (Bytes × Json)) :
    Option (List (Option Json)) :=
  match names with
  | [] => some []
  | name :: names =>
    match member? (Bytes.ascii name) members, members? names members with
    | some value, some values => some (value :: values)
    | _, _ => none

/-- The fields of a record, in the order of their names; a field that is absent is `none`. -/
def fields? (names : List String) : Json → Option (List (Option Json))
  | object members => (namedMembers? members).bind (members? names)
  | array items => if items.length = names.length then some (items.map some) else none
  | _ => none

/-- A number below a bound. -/
def below? (bound : Nat) : Option Json → Option Nat
  | some (natural n) => if n < bound then some n else none
  | _ => none

/-- A number that fits in one byte. -/
def byte? (field : Option Json) : Option UInt8 :=
  (below? UInt8.size field).map UInt8.ofNat

/-- A number that fits in two bytes. -/
def uint16? (field : Option Json) : Option UInt16 :=
  (below? UInt16.size field).map UInt16.ofNat

/-- A number that fits in four bytes. -/
def uint32? (field : Option Json) : Option UInt32 :=
  (below? UInt32.size field).map UInt32.ofNat

/-- A byte string in base64. -/
def bytes? (field : Option Json) : Option Bytes :=
  field.bind fun value => value.text?.bind Base64.decode?

/-- A record inside another one. -/
def record? {α : Type} [Recorded α] (field : Option Json) : Option α :=
  field.bind Recorded.ofJson?

/-- A record that may be missing; `null` and an absent field both say so. -/
def optional? {α : Type} [Recorded α] : Option Json → Option (Option α)
  | none => some none
  | some null => some none
  | some value => (Recorded.ofJson? value).map some

end Json

end PgpCard
