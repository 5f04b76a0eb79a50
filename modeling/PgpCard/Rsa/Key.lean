import PgpCard.Bytes
import PgpCard.Rsa.Arithmetic
import PgpCard.Rsa.Error

/-!
# RSA private keys

A private key has two factors.  Keys are made in one of two ways, and both check them:

* `PrivateKey.ofParts?` takes modulus, both exponents and the factors;
* `PrivateKey.ofFactors?` takes the public exponent and the factors, and finds the rest.

`Components` are the byte strings that a key is kept as; `PrivateKey.components?` splits a key
and `PrivateKey.ofComponents?` rebuilds it.

* `PrivateKey.operate?` is the private operation.  It works modulo the two factors where that is
  possible, and its result is checked with the public operation.

Whether a factor is prime is never tested.
-/

set_option autoImplicit false

namespace PgpCard.Rsa

/-- The size of the modulus of every key on the card, in bits. -/
def keyBits : Nat := 2048

/-- The same size in bytes. -/
def keyBytes : Nat := keyBits / 8

/-- The bytes that padding adds to a message, at least. -/
def paddingBytes : Nat := 11

/-- The longest message that a key of the card signs. -/
def maxMessageLength : Nat := keyBytes - paddingBytes

/-- A private key with two factors. -/
structure PrivateKey where
  modulus : Nat
  publicExponent : Nat
  privateExponent : Nat
  p : Nat
  q : Nat
  deriving DecidableEq, Repr

/-- A key as byte strings, big-endian, with what the private operation needs for each factor. -/
structure Components where
  n : Bytes
  e : Bytes
  d : Bytes
  p : Bytes
  q : Bytes
  dp : Bytes
  dq : Bytes
  qinv : Bytes
  deriving DecidableEq, Repr

namespace PrivateKey

/-- The length of the modulus in bytes. -/
def size (key : PrivateKey) : Nat := byteLength key.modulus

/-! ## Making keys -/

/-- The greatest public exponent: thirty-three bits, all of them set. -/
def maxExponent : Nat := 0x1FFFFFFFF

/-- What is wrong with a public key, if anything. -/
def publicFault? (modulus exponent : Nat) : Option Fault :=
  if UInt64.size ≤ exponent then some .exponentTooLarge
  else if modulus ≤ exponent ∨ modulus % 2 = 0 then some .invalidModulus
  else if exponent % 2 = 0 then some .invalidExponent
  else if exponent < 2 then some .exponentTooSmall
  else if maxExponent < exponent then some .exponentTooLarge
  else none

/-- The exponents are inverse to each other modulo one less than a factor. -/
def exponentsAgree (key : PrivateKey) (factor : Nat) : Bool :=
  key.publicExponent * key.privateExponent % (factor - 1) == 1

/-- What is wrong with a key, if anything. -/
def fault? (key : PrivateKey) : Option Fault :=
  match publicFault? key.modulus key.publicExponent with
  | some fault => some fault
  | none =>
    if key.p ≤ 1 ∨ key.q ≤ 1 then some .invalidPrime
    else if key.p * key.q ≠ key.modulus then some .invalidModulus
    else if key.exponentsAgree key.p && key.exponentsAgree key.q then none
    else some .invalidExponent

/-- The key, if nothing is wrong with it. -/
def checked (key : PrivateKey) : Except Error PrivateKey :=
  match key.fault? with
  | some fault => .error (.invalidKey fault)
  | none => .ok key

/-- The key of given parts. -/
def ofParts? (modulus publicExponent privateExponent p q : Nat) : Except Error PrivateKey :=
  checked { modulus, publicExponent, privateExponent, p, q }

/-- The key of a public exponent and two factors.  The modulus is their product, and the private
exponent is the inverse of the public one modulo `(p - 1) * (q - 1)`. -/
def ofFactors? (exponent p q : Nat) : Except Error PrivateKey :=
  if p ≤ 1 ∨ q ≤ 1 then .error (.invalidKey .factorOutOfRange)
  else if bitLength (p * q) ≠ keyBits then .error (.unsupportedModulus (bitLength (p * q)))
  else match inverse? exponent ((p - 1) * (q - 1)) with
    | none => .error (.invalidKey .exponentNotInvertible)
    | some d => ofParts? (p * q) exponent d p q

/-- The byte strings of a key: the modulus on the full key size, the others as short as they
can be. -/
def components? (key : PrivateKey) : Except Error Components :=
  match inverse? key.q key.p with
  | none => .error (.invalidKey .coefficientMissing)
  | some qinv => .ok {
      n := Bytes.padLeft keyBytes (Bytes.minimal key.modulus)
      e := Bytes.minimal key.publicExponent
      d := Bytes.minimal key.privateExponent
      p := Bytes.minimal key.p
      q := Bytes.minimal key.q
      dp := Bytes.minimal (key.privateExponent % (key.p - 1))
      dq := Bytes.minimal (key.privateExponent % (key.q - 1))
      qinv := Bytes.minimal qinv }

/-- The key that byte strings stand for; what is kept for each factor is found again. -/
def ofComponents? (components : Components) : Except Error PrivateKey :=
  ofParts? (Bytes.toNatOfLong components.n) (Bytes.toNatOfLong components.e)
    (Bytes.toNatOfLong components.d) (Bytes.toNatOfLong components.p)
    (Bytes.toNatOfLong components.q)

/-! ## Using keys -/

/-- The power of the private exponent, found modulo each factor where the factors allow it. -/
def power (key : PrivateKey) (c : Nat) : Nat :=
  match inverse? key.q key.p with
  | none => powMod c key.privateExponent key.modulus
  | some qinv =>
    let mp := powMod c (key.privateExponent % (key.p - 1)) key.p
    let mq := powMod c (key.privateExponent % (key.q - 1)) key.q
    let h := (((mp : Int) - mq) * qinv % key.p).toNat
    h * key.q + mq

/-- The private operation; the result is checked with the public one. -/
def operate? (key : PrivateKey) (c : Nat) : Except Fault Nat :=
  if key.modulus ≤ c then .error .undecipherable
  else
    let m := key.power c
    if powMod m key.publicExponent key.modulus = c then .ok m else .error .inconsistent

end PrivateKey

end PgpCard.Rsa
