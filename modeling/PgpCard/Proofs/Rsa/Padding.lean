import PgpCard.Proofs.Bytes
import PgpCard.Proofs.Rsa.Operation
import PgpCard.Rsa.Padding

/-!
# Signing and decrypting with a lawful key

A key of the card's size works on blocks of 256 bytes.

* `length_signatureBlock`, `unpad?_encryptionBlock` : blocks and the messages in them;
* `Lawful.sign?_eq` : a signature stands on 256 bytes, and its public power is the block of the
  message;
* `Lawful.decrypt?_eq` : the message of an encryption block is found again from the public power of
  the block.
-/

set_option autoImplicit false

namespace PgpCard.Rsa

/-! ## Blocks -/

theorem length_signatureBlock {size : Nat} {message : Bytes}
    (fits : message.length + paddingBytes ≤ size) :
    (signatureBlock size message).length = size := by
  have room : message.length + 11 ≤ size := fits
  simp only [signatureBlock, List.length_append, List.length_cons, List.length_nil,
    List.length_replicate]
  omega

/-- The block that is encrypted for a message behind some filler. -/
def encryptionBlock (filler message : Bytes) : Bytes :=
  0x00 :: 0x02 :: filler ++ 0x00 :: message

/-- The filler ends at the first zero byte, and the message is what stands behind it. -/
theorem unpad?_encryptionBlock {filler : Bytes} (nonzero : ∀ b ∈ filler, b ≠ 0)
    (enough : 8 ≤ filler.length) (message : Bytes) :
    unpad? (encryptionBlock filler message) = some message := by
  have taken : (filler ++ 0x00 :: message).takeWhile (· != 0) = filler := by
    rw [List.takeWhile_append_of_pos fun b member => by simpa using nonzero b member,
      List.takeWhile_cons_of_neg (by decide), List.append_nil]
  have rest : (filler ++ 0x00 :: message).drop (filler.length + 1) = message := by
    rw [← List.drop_drop, List.drop_left, List.drop_one, List.tail_cons]
  have inside : filler.length < (filler ++ 0x00 :: message).length := by
    rw [List.length_append, List.length_cons]
    omega
  simp only [encryptionBlock, List.cons_append, unpad?, taken]
  rw [if_pos ⟨enough, inside⟩, rest]

/-- A block that begins with a zero byte is below the modulus of a key. -/
theorem block_lt {modulus : Nat} (size : bitLength modulus = keyBits) {rest : Bytes}
    (length : (0x00 :: rest : Bytes).length = keyBytes) :
    Bytes.toNat (0x00 :: rest) < modulus := by
  have bound := Bytes.toNat_lt rest
  have width : rest.length = 255 := Nat.succ.inj length
  rw [width] at bound
  have room : 256 ^ 255 ≤ 2 ^ 2047 := by decide +kernel
  have large : 2 ^ 2047 ≤ modulus := two_pow_le_of_bitLength size
  rw [Bytes.toNat_zero_cons]
  exact Nat.lt_of_lt_of_le bound (Nat.le_trans room large)

/-- A modulus of the card's size stands on that size. -/
theorem modulus_lt_pow {modulus : Nat} (size : bitLength modulus = keyBits) :
    modulus < 256 ^ keyBytes := by
  have fits := lt_pow_bitLength modulus
  rw [size] at fits
  have same : Nat.pow 2 keyBits = 256 ^ keyBytes := by decide +kernel
  rwa [same] at fits

namespace PrivateKey.Lawful

variable {key : PrivateKey} (lawful : key.Lawful) (size : bitLength key.modulus = keyBits)

include lawful size

/-- A signature stands on as many bytes as the modulus, and its public power is the block of the
message. -/
theorem sign?_eq {message : Bytes} (short : message.length ≤ maxMessageLength) :
    ∃ signature, key.sign? message = .ok signature ∧ signature.length = keyBytes ∧
      Bytes.toNat signature ^ key.publicExponent % key.modulus =
        Bytes.toNat (signatureBlock keyBytes message) := by
  have width : key.size = keyBytes := byteLength_of_bitLength size
  have fits : message.length + paddingBytes ≤ keyBytes := by
    have limit : message.length ≤ 245 := short
    show message.length + 11 ≤ 256
    omega
  have below : Bytes.toNat (signatureBlock keyBytes message) < key.modulus :=
    block_lt size (length_signatureBlock fits)
  obtain ⟨m, done, small, undone⟩ := lawful.operate?_eq below
  refine ⟨Bytes.ofNat keyBytes m, ?_, Bytes.length_ofNat _ _, ?_⟩
  · unfold sign?
    rw [width, if_neg (Nat.not_lt.mpr fits), done]
  · rw [Bytes.toNat_ofNat_of_lt (Nat.lt_trans small (modulus_lt_pow size)), undone]

/-- The message of an encryption block is found again from the public power of the block. -/
theorem decrypt?_eq {filler message : Bytes} (nonzero : ∀ b ∈ filler, b ≠ 0)
    (enough : 8 ≤ filler.length) (length : (encryptionBlock filler message).length = keyBytes) :
    key.decrypt? (Bytes.ofNat keyBytes
      (Bytes.toNat (encryptionBlock filler message) ^ key.publicExponent % key.modulus)) =
        .ok message := by
  have width : key.size = keyBytes := byteLength_of_bitLength size
  have below : Bytes.toNat (encryptionBlock filler message) < key.modulus := block_lt size length
  have reduced := Nat.mod_lt (Bytes.toNat (encryptionBlock filler message) ^ key.publicExponent)
    (Nat.lt_of_le_of_lt (Nat.zero_le _) below)
  have whole : Bytes.ofNat keyBytes (Bytes.toNat (encryptionBlock filler message)) =
      encryptionBlock filler message := by
    rw [← length]
    exact Bytes.ofNat_toNat _
  unfold decrypt?
  rw [Bytes.toNatOfLong_eq, Bytes.toNat_ofNat_of_lt (Nat.lt_trans reduced (modulus_lt_pow size)),
    lawful.operate?_pow below]
  dsimp only
  rw [width, if_neg (by decide), whole, unpad?_encryptionBlock nonzero enough]

end PrivateKey.Lawful

end PgpCard.Rsa
