import PgpCard.Tlv.Basic

/-!
# Writing tag-length-value structures

* `Tlv.encodeTag` writes a tag on as many bytes as the number needs, three at most.
* `Tlv.encodeLength` writes lengths below 128 on one byte, below 256 as `81 L`, others as
  `82 L L`; the two bytes of the last form keep the low sixteen bits of the length.
* `Tlv.encode` puts tag, length and value together.
* `TlvBuilder` collects elements and can wrap what it holds in one more.
-/

set_option autoImplicit false

namespace PgpCard

namespace Tlv

/-- The bytes of a tag. -/
def encodeTag (tag : Nat) : Bytes :=
  if 0xFFFF < tag then
    [UInt8.ofNat (tag / 0x10000), UInt8.ofNat (tag / 0x100), UInt8.ofNat tag]
  else if 0xFF < tag then [UInt8.ofNat (tag / 0x100), UInt8.ofNat tag]
  else [UInt8.ofNat tag]

/-- The bytes of a length. -/
def encodeLength (length : Nat) : Bytes :=
  if length < 128 then [UInt8.ofNat length]
  else if length < 256 then [0x81, UInt8.ofNat length]
  else [0x82, UInt8.ofNat (length / 256), UInt8.ofNat length]

/-- One element. -/
def encode (tag : Nat) (value : Bytes) : Bytes :=
  encodeTag tag ++ encodeLength value.length ++ value

end Tlv

/-- Elements written one after another. -/
structure TlvBuilder where
  bytes : Bytes := []
  deriving DecidableEq, Repr

namespace TlvBuilder

/-- Nothing written. -/
def empty : TlvBuilder := {}

/-- One more element. -/
def add (builder : TlvBuilder) (tag : Nat) (value : Bytes) : TlvBuilder :=
  ⟨builder.bytes ++ Tlv.encode tag value⟩

/-- Bytes that are written already. -/
def addRaw (builder : TlvBuilder) (bytes : Bytes) : TlvBuilder :=
  ⟨builder.bytes ++ bytes⟩

/-- All that is written so far becomes the value of one element. -/
def wrap (builder : TlvBuilder) (tag : Nat) : TlvBuilder :=
  ⟨Tlv.encode tag builder.bytes⟩

/-- How many bytes are written. -/
def size (builder : TlvBuilder) : Nat := builder.bytes.length

end TlvBuilder

end PgpCard
