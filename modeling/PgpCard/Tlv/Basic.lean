import PgpCard.Bytes

/-!
# Tag-length-value structures

A tag stands on one to three bytes and is kept as the number that those bytes denote.  Bit
`20` of its first byte marks a constructed element, whose value is a list of elements.

* `Tlv.find?` searches an element and everything below it, `Tlv.child?` its children only.
* `TlvError` tells why bytes are no element.
-/

set_option autoImplicit false

namespace PgpCard

/-- Why bytes are no element. -/
inductive TlvError
  | endInTag
  | endInLength
  | endInValue
  /-- The indefinite form of a length. -/
  | indefiniteLength
  /-- A length on more than four bytes. -/
  | lengthTooLarge (bytes : Nat)
  deriving DecidableEq, Repr

/-- The failure in words. -/
def TlvError.message : TlvError → String
  | .endInTag => "Unexpected end of data while parsing tag"
  | .endInLength => "Unexpected end of data while parsing length"
  | .endInValue => "Unexpected end of data while parsing value"
  | .indefiniteLength => "Invalid length encoding"
  | .lengthTooLarge bytes => s!"Length too large: {bytes}"

/-- The first byte of a tag. -/
def Tag.firstByte (tag : Nat) : UInt8 :=
  if 0xFFFF < tag then UInt8.ofNat (tag / 0x10000)
  else if 0xFF < tag then UInt8.ofNat (tag / 0x100)
  else UInt8.ofNat tag

/-- The tag marks a constructed element. -/
def Tag.isConstructed (tag : Nat) : Bool :=
  Tag.firstByte tag &&& 0x20 != 0

/-- An element with its value and, where they have been read, its children. -/
inductive Tlv
  | mk (tag : Nat) (value : Bytes) (children : List Tlv)
  deriving Repr

namespace Tlv

def tag : Tlv → Nat
  | .mk tag _ _ => tag

def value : Tlv → Bytes
  | .mk _ value _ => value

def children : Tlv → List Tlv
  | .mk _ _ children => children

/-- An element without children. -/
def leaf (tag : Nat) (value : Bytes) : Tlv := .mk tag value []

/-- The element's tag marks it as constructed. -/
def isConstructed (tlv : Tlv) : Bool := Tag.isConstructed tlv.tag

mutual
/-- The first element with a tag: the element itself, then what is below it, depth first. -/
def find? (wanted : Nat) : Tlv → Option Tlv
  | .mk tag value children =>
    if tag = wanted then some (.mk tag value children) else findIn? wanted children

/-- The first element with a tag among some elements and what is below them. -/
def findIn? (wanted : Nat) : List Tlv → Option Tlv
  | [] => none
  | tlv :: rest => (find? wanted tlv).or (findIn? wanted rest)
end

/-- The first child with a tag. -/
def child? (wanted : Nat) (tlv : Tlv) : Option Tlv :=
  tlv.children.find? (·.tag == wanted)

end Tlv

end PgpCard
