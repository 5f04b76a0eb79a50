import PgpCard.Digest.Sha1
import PgpCard.Tlv.Encode

/-!
# Public keys as the card shows them

* `publicKeyTemplate` is the element `7F49` with modulus and public exponent.
* `fingerprint` is the SHA-1 digest of a version 4 public key packet: version, creation time,
  algorithm, and the two numbers, each as its length in bits and its bytes without leading
  zeros.  Packet length and lengths in bits are written on two bytes.
-/

set_option autoImplicit false

namespace PgpCard

/-- The element `7F49` with the modulus as `81` and the public exponent as `82`. -/
def publicKeyTemplate (modulus exponent : Bytes) : Bytes :=
  ((TlvBuilder.empty.add 0x81 modulus).add 0x82 exponent).wrap 0x7F49 |>.bytes

/-- A number as its length in bits and its bytes without leading zeros. -/
def multiprecision (number : Bytes) : Bytes :=
  Bytes.ofNat 2 (Bytes.bitCount number) ++ Bytes.trimLeft number

/-- The body of a version 4 public key packet of an RSA key. -/
def keyPacket (modulus exponent : Bytes) (time : UInt32) : Bytes :=
  4 :: Bytes.ofNat 4 time.toNat ++ 1 :: multiprecision modulus ++ multiprecision exponent

/-- What is digested: the packet behind its header. -/
def fingerprintInput (modulus exponent : Bytes) (time : UInt32) : Bytes :=
  let packet := keyPacket modulus exponent time
  0x99 :: Bytes.ofNat 2 packet.length ++ packet

/-- The version 4 fingerprint of an RSA key. -/
def fingerprint (modulus exponent : Bytes) (time : UInt32) : Bytes :=
  Digest.sha1 (fingerprintInput modulus exponent time)

end PgpCard
