import PgpCard.Key.SlotId
import PgpCard.Tlv.Parse

/-!
# Key import

A private key arrives as an extended header list

`4D L  {B6|B8|A4} L …  7F48 L {91 Le 92 Lp 93 Lq …}  5F48 L e p q …`

The element `7F48` announces the lengths of the parts, which stand one after another in `5F48`.

* `ImportTemplate.parse?` reads the slot, the public exponent and the two factors.
-/

set_option autoImplicit false

namespace PgpCard

/-- The parts of an imported key. -/
structure ImportTemplate where
  slot : SlotId
  exponent : Bytes
  p : Bytes
  q : Bytes
  deriving DecidableEq, Repr

namespace ImportTemplate

def headerListTag : Nat := 0x4D
def lengthsTag : Nat := 0x7F48
def partsTag : Nat := 0x5F48
def exponentTag : Nat := 0x91
def pTag : Nat := 0x92
def qTag : Nat := 0x93

/-- The last tag that may announce a part. -/
def lastPartTag : Nat := 0x97

/-- The sum of the announced lengths. -/
def total : List (Nat × Nat) → Nat
  | [] => 0
  | (_, length) :: rest => length + total rest

/-- The data cut into parts of the given lengths, in order. -/
def cut : List (Nat × Nat) → Bytes → List (Nat × Bytes)
  | [], _ => []
  | (tag, length) :: rest, data => (tag, data.take length) :: cut rest (data.drop length)

/-- The last part with a tag, if it is not empty. -/
def part? (tag : Nat) (parts : List (Nat × Bytes)) : Option Bytes :=
  match parts.reverse.find? (·.1 == tag) with
  | some (_, value) => if value.isEmpty then none else some value
  | none => none

/-- The parts that the announced lengths cut from the data, if they use it up and every tag
names a part. -/
def parts? (lengths : List (Nat × Nat)) (data : Bytes) : Option (List (Nat × Bytes)) :=
  if total lengths ≠ data.length then none
  else if lengths.all fun (tag, _) => exponentTag ≤ tag && tag ≤ lastPartTag then
    some (cut lengths data)
  else none

/-- The children of an extended header list; what follows the list is ignored. -/
def children? (data : Bytes) : Option (List Tlv) :=
  match Tlv.readElement data with
  | .error _ => none
  | .ok (tag, value, _) => if tag = headerListTag then (Tlv.readAll value).toOption else none

/-- The parts that an extended header list holds. -/
def parse? (data : Bytes) : Option ImportTemplate := do
  let children ← children? data
  let slot ← children.head?.bind fun template => SlotId.ofTag? template.tag
  let announced ← children.find? (·.tag == lengthsTag)
  let lengths ← (Tlv.readTagLengths announced.value).toOption
  let keyData ← children.find? (·.tag == partsTag)
  let parts ← parts? lengths keyData.value
  return {
    slot
    exponent := ← part? exponentTag parts
    p := ← part? pTag parts
    q := ← part? qTag parts }

end ImportTemplate

end PgpCard
