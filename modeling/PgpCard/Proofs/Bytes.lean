import Mathlib.Algebra.Group.Nat.Defs
import Mathlib.Data.List.Induction
import PgpCard.Rsa.Arithmetic

/-!
# Byte strings and numbers determine each other

* `Bytes.toNat_lt` : a byte string denotes less than the power of 256 of its length;
* `Bytes.ofNat_toNat` : a byte string is the number that it denotes, written on its own length;
* `Bytes.toNat_minimal` : a number is read back from its shortest byte string, and leading zeros
  do not change it (`Bytes.toNat_padLeft`);
* `two_pow_le_of_bitLength`, `bitLength_le`, `byteLength_of_bitLength` : what a length in bits says of
  a number.
-/

set_option autoImplicit false

namespace PgpCard

/-! ## Lengths in bits -/

section Lengths

variable {n bits : Nat}

theorem ne_zero_of_bitLength (length : bitLength n = bits + 1) : n ≠ 0 := by
  rintro rfl
  cases length

/-- The highest of the binary digits is set. -/
theorem two_pow_le_of_bitLength (length : bitLength n = bits + 1) : 2 ^ bits ≤ n := by
  have nonzero := ne_zero_of_bitLength length
  rw [bitLength, if_neg nonzero] at length
  rw [← Nat.succ.inj length]
  exact Nat.log2_self_le nonzero

/-- A number below a power of two has at most as many binary digits as the exponent says. -/
theorem bitLength_le (small : n < 2 ^ bits) : bitLength n ≤ bits := by
  unfold bitLength
  split
  · exact Nat.zero_le bits
  · rename_i nonzero
    exact (Nat.log2_lt nonzero).mpr small

/-- A number whose length in bits fills some bytes stands on that many bytes. -/
theorem byteLength_of_bitLength {width : Nat} (length : bitLength n = 8 * width) :
    byteLength n = width := by
  rw [byteLength, length]
  omega

end Lengths

namespace Bytes

/-! ## Numbers that fit -/

theorem lt_pow_byteLength (n : Nat) : n < Nat.pow 256 (max 1 (byteLength n)) := by
  have bits : bitLength n ≤ 8 * max 1 (byteLength n) := by
    rw [byteLength]
    omega
  calc
    n < 2 ^ bitLength n := Rsa.lt_pow_bitLength n
    _ ≤ 2 ^ (8 * max 1 (byteLength n)) := Nat.pow_le_pow_right (by decide) bits
    _ = 256 ^ max 1 (byteLength n) := by rw [Nat.pow_mul]

/-- A number that fits is read back from its bytes. -/
theorem toNat_ofNat_of_lt {width n : Nat} (fits : n < 256 ^ width) :
    toNat (ofNat width n) = n := by
  rw [toNat_ofNat]
  exact Nat.mod_eq_of_lt fits

theorem length_minimal (n : Nat) : (minimal n).length = max 1 (byteLength n) := by
  rw [minimal, ofLargeNat_eq, length_ofNat]

/-- A number is read back from its shortest byte string. -/
@[simp] theorem toNat_minimal (n : Nat) : toNat (minimal n) = n := by
  rw [minimal, ofLargeNat_eq]
  exact toNat_ofNat_of_lt (lt_pow_byteLength n)

theorem toNat_replicate_zero (count : Nat) (bytes : Bytes) :
    toNat (List.replicate count 0 ++ bytes) = toNat bytes := by
  induction count with
  | zero => rfl
  | succ count ih => rw [List.replicate_succ, List.cons_append, toNat_zero_cons, ih]

/-- Padding does not change the number. -/
@[simp] theorem toNat_padLeft (width : Nat) (bytes : Bytes) :
    toNat (padLeft width bytes) = toNat bytes :=
  toNat_replicate_zero _ bytes

/-- The shortest byte string of a number that fills some bytes needs no padding. -/
theorem padLeft_minimal {width n : Nat} (positive : 0 < width) (length : bitLength n = 8 * width) :
    padLeft width (minimal n) = ofNat width n := by
  have bytes : max 1 (byteLength n) = width := by
    rw [byteLength_of_bitLength length]
    omega
  rw [padLeft, minimal, ofLargeNat_eq, bytes, length_ofNat, Nat.sub_self, List.replicate_zero,
    List.nil_append]

theorem ne_nil_of_toNat {bytes : Bytes} (positive : 0 < toNat bytes) : bytes ≠ [] := by
  rintro rfl
  exact absurd positive (by decide)

/-! ## The last byte -/

theorem toNat_append_singleton (front : Bytes) (last : UInt8) :
    toNat (front ++ [last]) = toNat front * 256 + last.toNat := by
  simp only [toNat, List.map_append, Numeral.value_append]
  simp [Numeral.value]

/-- A byte string denotes less than a power of 256. -/
theorem toNat_lt (bytes : Bytes) : toNat bytes < 256 ^ bytes.length := by
  induction bytes using List.reverseRecOn with
  | nil => decide
  | append_singleton front last ih =>
    have small := last.toNat_lt
    rw [toNat_append_singleton, List.length_append, List.length_singleton, Nat.pow_succ]
    omega

/-- A byte string is the number that it denotes, written on its own length. -/
theorem ofNat_toNat (bytes : Bytes) : ofNat bytes.length (toNat bytes) = bytes := by
  induction bytes using List.reverseRecOn with
  | nil => rfl
  | append_singleton front last ih =>
    have small : last.toNat < 256 := last.toNat_lt
    have quotient : (toNat front * 256 + last.toNat) / 256 = toNat front := by omega
    have digit : (toNat front * 256 + last.toNat) % 256 = last.toNat := by omega
    rw [toNat_append_singleton, List.length_append, List.length_singleton, ofNat, Numeral.digits,
      quotient, digit, List.map_append, List.map_singleton, UInt8.ofNat_toNat, ← ofNat, ih]

end Bytes

end PgpCard
