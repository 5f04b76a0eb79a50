import PgpCard.Key.Public
import PgpCard.Proofs.Guarded.Basic
import PgpCard.Proofs.Rsa.Components

/-!
# Keys and fingerprints within range

* `Guarded.ofFactors?_eq` : a key is made from any two factors within range;
* `Guarded.components?_eq` : the byte strings of a key are found within range as far as its factors
  are greater than one;
* `Guarded.fingerprint_eq` : the lengths in a fingerprint are counted within range.
-/

set_option autoImplicit false

namespace PgpCard.Guarded

open Rsa (PrivateKey Components inverse? keyBits keyBytes)

variable {ε : Type}

/-! ## Keys -/

/-- The key of a public exponent and two factors. -/
def ofFactors? (exponent p q : Nat) : Except (Halt Rsa.Error) PrivateKey := do
  if p ≤ 1 ∨ q ≤ 1 then
    throw (.failed (.invalidKey .factorOutOfRange))
  if bitLength (p * q) ≠ keyBits then
    throw (.failed (.unsupportedModulus (bitLength (p * q))))
  match inverse? exponent ((← sub p 1) * (← sub q 1)) with
  | none => throw (.failed (.invalidKey .exponentNotInvertible))
  | some d => (PrivateKey.ofParts? (p * q) exponent d p q).mapError .failed

/-- Zero bytes put in front of a string that is shorter than `width`. -/
def padLeft (width : Nat) (bytes : Bytes) : Except (Halt ε) Bytes := do
  if bytes.length < width then
    return List.replicate (← sub width bytes.length) 0 ++ bytes
  return bytes

/-- The byte strings of a key. -/
def components? (key : PrivateKey) : Except (Halt Rsa.Error) Components := do
  let dp ← rem key.privateExponent (← sub key.p 1)
  let dq ← rem key.privateExponent (← sub key.q 1)
  match inverse? key.q key.p with
  | none => throw (.failed (.invalidKey .coefficientMissing))
  | some qinv => return {
      n := ← padLeft keyBytes (Bytes.minimal key.modulus)
      e := Bytes.minimal key.publicExponent
      d := Bytes.minimal key.privateExponent
      p := Bytes.minimal key.p
      q := Bytes.minimal key.q
      dp := Bytes.minimal dp
      dq := Bytes.minimal dq
      qinv := Bytes.minimal qinv }

/-- Whatever the factors, a key is made from them within range. -/
theorem ofFactors?_eq (exponent p q : Nat) :
    ofFactors? exponent p q = (PrivateKey.ofFactors? exponent p q).mapError .failed := by
  unfold ofFactors? PrivateKey.ofFactors?
  dsimp only
  by_cases small : p ≤ 1 ∨ q ≤ 1
  · rw [if_pos small, if_pos small]
    rfl
  · rw [if_neg small, if_neg small]
    rw [not_or, Nat.not_le, Nat.not_le] at small
    rw [sub_of_le (Nat.le_of_lt small.1), sub_of_le (Nat.le_of_lt small.2)]
    split
    · rfl
    · simp only [bind, Except.bind]
      cases inverse? exponent ((p - 1) * (q - 1)) <;> rfl

theorem padLeft_eq (width : Nat) (bytes : Bytes) :
    (padLeft width bytes : Except (Halt ε) Bytes) = .ok (Bytes.padLeft width bytes) := by
  unfold padLeft Bytes.padLeft
  split
  · rename_i short
    rw [sub_of_le (Nat.le_of_lt short)]
    rfl
  · rename_i long
    rw [Nat.sub_eq_zero_of_le (Nat.not_lt.mp long)]
    rfl

/-- The byte strings of a key with factors are found within range. -/
theorem components?_eq {key : PrivateKey} (p : 1 < key.p) (q : 1 < key.q) :
    components? key = key.components?.mapError .failed := by
  unfold components? PrivateKey.components?
  rw [sub_of_le (Nat.le_of_lt p), sub_of_le (Nat.le_of_lt q)]
  simp only [bind, Except.bind]
  rw [rem_of_ne (by omega), rem_of_ne (by omega)]
  cases inverse? key.q key.p with
  | none => rfl
  | some qinv =>
    simp only [padLeft_eq]
    rfl

/-! ## Fingerprints -/

/-- The number of zero bits at the beginning of a byte. -/
def leadingZeros (b : UInt8) : Nat := 8 - bitLength b.toNat

/-- A number as its length in bits and its bytes without leading zeros. -/
def multiprecision (number : Bytes) : Except (Halt ε) Bytes := do
  let trimmed ← sliceFrom number (number.findIdx (!· == 0))
  let bits ← match trimmed with
    | [] => pure 0
    | first :: _ => do
      add wordSize (← mul wordSize (← sub trimmed.length 1) 8) (← sub 8 (leadingZeros first))
  return Bytes.ofNat 2 bits ++ trimmed

/-- The version 4 fingerprint of an RSA key. -/
def fingerprint (modulus exponent : Bytes) (time : UInt32) : Except (Halt ε) Bytes := do
  let modulus ← multiprecision modulus
  let exponent ← multiprecision exponent
  let packet := 4 :: Bytes.ofNat 4 time.toNat ++ 1 :: modulus ++ exponent
  return Digest.sha1 (0x99 :: Bytes.ofNat 2 packet.length ++ packet)

/-- The other bits of a byte. -/
theorem sub_leadingZeros (b : UInt8) :
    (sub 8 (leadingZeros b) : Except (Halt ε) Nat) = .ok (bitLength b.toNat) := by
  have few : bitLength b.toNat ≤ 8 := bitLength_le b.toNat_lt
  rw [leadingZeros, sub_of_le (Nat.sub_le _ _), Nat.sub_sub_self few]

theorem multiprecision_eq {number : Bytes} (short : 8 * number.length < wordSize) :
    (multiprecision number : Except (Halt ε) Bytes) = .ok (PgpCard.multiprecision number) := by
  have dropped : number.drop (number.findIdx (!· == 0)) = Bytes.trimLeft number :=
    List.dropWhile_eq_drop_findIdx_not.symm
  have shorter : (Bytes.trimLeft number).length ≤ number.length := by
    rw [← dropped, List.length_drop]
    exact Nat.sub_le _ _
  unfold multiprecision PgpCard.multiprecision Bytes.bitCount
  rw [sliceFrom_of_le List.findIdx_le_length, dropped]
  generalize Bytes.trimLeft number = trimmed at shorter
  cases trimmed with
  | nil => rfl
  | cons first rest =>
    have few : bitLength first.toNat ≤ 8 := bitLength_le first.toNat_lt
    rw [List.length_cons] at shorter
    have count : rest.length * 8 < wordSize := by omega
    have bits : rest.length * 8 + bitLength first.toNat < wordSize := by omega
    simp only [bind, Except.bind, List.length_cons, sub_of_le (Nat.le_add_left 1 rest.length),
      Nat.add_sub_cancel, mul_of_lt count, sub_leadingZeros, add_of_lt bits]
    rw [Nat.add_comm, Nat.mul_comm]
    rfl

theorem fingerprint_eq {modulus exponent : Bytes} (shortModulus : 8 * modulus.length < wordSize)
    (shortExponent : 8 * exponent.length < wordSize) (time : UInt32) :
    (fingerprint modulus exponent time : Except (Halt ε) Bytes) =
      .ok (PgpCard.fingerprint modulus exponent time) := by
  unfold fingerprint PgpCard.fingerprint fingerprintInput keyPacket
  simp only [multiprecision_eq shortModulus, multiprecision_eq shortExponent]
  rfl

end PgpCard.Guarded
