import PgpCard.Numeral

/-!
# Byte strings and the numbers they denote

A byte string is a list of bytes.  Read as a number it is big-endian: the first byte weighs
most, so leading zero bytes do not change the number.

* `Bytes.toNat` is the number that a byte string denotes; `Bytes.toNatOfLong` finds it for long
  strings with fewer operations, and `Bytes.bitCount` finds only its length in bits.
* `Bytes.ofNat width n` writes `n` on exactly `width` bytes, keeping its low bytes;
  `Bytes.ofLargeNat` writes the same bytes with fewer operations where `n` is large.
* `Bytes.minimal n` writes `n` without leading zero bytes, zero as one zero byte.
* `bitLength n` is the number of binary digits of `n`, none for zero.
-/

set_option autoImplicit false

namespace PgpCard

/-- A byte string. -/
abbrev Bytes := List UInt8

/-- The number of binary digits of a number, none for zero. -/
def bitLength (n : Nat) : Nat :=
  if n = 0 then 0 else n.log2 + 1

/-- The number of bytes that hold all binary digits of a number. -/
def byteLength (n : Nat) : Nat :=
  (bitLength n + 7) / 8

namespace Bytes

/-- The number that a byte string denotes, the first byte weighing most. -/
def toNat (bytes : Bytes) : Nat :=
  Numeral.value 256 (bytes.map UInt8.toNat)

/-- The same number, read from halves of the string where it is long. -/
def toNatOfLong (bytes : Bytes) : Nat :=
  Numeral.valueOfLong 256 (bytes.map UInt8.toNat)

/-- A number on exactly `width` bytes; higher bytes of the number are dropped. -/
def ofNat (width n : Nat) : Bytes :=
  (Numeral.digits 256 width n).map UInt8.ofNat

/-- The same bytes, written by halves of the number where it is large. -/
def ofLargeNat (width n : Nat) : Bytes :=
  (Numeral.digitsOfLong 256 width n).map UInt8.ofNat

/-- A number without leading zero bytes; zero is written as one zero byte. -/
def minimal (n : Nat) : Bytes :=
  ofLargeNat (max 1 (byteLength n)) n

/-- Zero bytes put in front of a string that is shorter than `width`. -/
def padLeft (width : Nat) (bytes : Bytes) : Bytes :=
  List.replicate (width - bytes.length) 0 ++ bytes

/-- The string cut or filled up with zero bytes at its end to exactly `width` bytes. -/
def fitRight (width : Nat) (bytes : Bytes) : Bytes :=
  bytes.take width ++ List.replicate (width - bytes.length) 0

/-- The string without its leading zero bytes. -/
def trimLeft (bytes : Bytes) : Bytes :=
  bytes.dropWhile (· == 0)

/-- The length in bits of the number that a byte string denotes. -/
def bitCount (bytes : Bytes) : Nat :=
  match trimLeft bytes with
  | [] => 0
  | first :: rest => bitLength first.toNat + 8 * rest.length

/-- The string has fewer bytes than a number.  No byte beyond that number is looked at. -/
def isShorter (bytes : Bytes) : Nat → Bool
  | 0 => false
  | n + 1 => (bytes.drop n).isEmpty

/-- The bytes of a text in which every character is ASCII. -/
def ascii (text : String) : Bytes :=
  text.toList.map fun c => UInt8.ofNat c.toNat

/-! ## Lengths -/

@[simp] theorem length_ofNat (width n : Nat) : (ofNat width n).length = width := by
  rw [ofNat, List.length_map, Numeral.length_digits]

theorem length_padLeft (width : Nat) (bytes : Bytes) :
    (padLeft width bytes).length = max width bytes.length := by
  simp only [padLeft, List.length_append, List.length_replicate]
  omega

@[simp] theorem length_fitRight (width : Nat) (bytes : Bytes) :
    (fitRight width bytes).length = width := by
  simp only [fitRight, List.length_append, List.length_take, List.length_replicate]
  omega

theorem isShorter_iff (bytes : Bytes) (n : Nat) : isShorter bytes n = true ↔ bytes.length < n := by
  cases n with
  | zero => simp [isShorter]
  | succ n =>
    rw [isShorter, List.isEmpty_iff, List.drop_eq_nil_iff]
    omega

/-! ## Numbers -/

@[simp] theorem toNatOfLong_eq (bytes : Bytes) : toNatOfLong bytes = toNat bytes :=
  Numeral.valueOfLong_eq 256 _

@[simp] theorem ofLargeNat_eq (width n : Nat) : ofLargeNat width n = ofNat width n := by
  rw [ofLargeNat, Numeral.digitsOfLong_eq, ofNat]

/-- A number on `width` bytes denotes the number without the bytes that were dropped. -/
theorem toNat_ofNat (width n : Nat) : toNat (ofNat width n) = n % Nat.pow 256 width := by
  have digit_kept : ∀ digit ∈ Numeral.digits 256 width n,
      (UInt8.toNat ∘ UInt8.ofNat) digit = digit := fun digit member =>
    UInt8.toNat_ofNat_of_lt (Numeral.digits_lt (Nat.zero_lt_succ 255) digit member)
  rw [toNat, ofNat, List.map_map, List.map_congr_left digit_kept, List.map_id',
    Numeral.value_digits]

theorem toNat_zero_cons (bytes : Bytes) : toNat (0 :: bytes) = toNat bytes := rfl

theorem toNat_trimLeft (bytes : Bytes) : toNat (trimLeft bytes) = toNat bytes := by
  induction bytes with
  | nil => rfl
  | cons b rest ih =>
    rw [trimLeft, List.dropWhile_cons]
    split
    · rename_i blank
      rw [eq_of_beq blank, toNat_zero_cons]
      exact ih
    · rfl

/-- One more byte makes a number other than zero eight bits longer. -/
theorem bitLength_mul_add {n : Nat} (b : UInt8) (h : n ≠ 0) :
    bitLength (n * 256 + b.toNat) = bitLength n + 8 := by
  have small : b.toNat < 256 := b.toNat_lt
  have halve : ∀ m : Nat, 2 ≤ m → m.log2 = (m / 2).log2 + 1 := fun m hm => by
    rw [Nat.log2_def, if_pos hm]
  generalize b.toNat = low at small
  have rest : (n * 256 + low) / 2 / 2 / 2 / 2 / 2 / 2 / 2 / 2 = n := by omega
  simp only [bitLength, h, if_neg (show n * 256 + low ≠ 0 by omega), if_false]
  rw [halve (n * 256 + low) (by omega), halve ((n * 256 + low) / 2) (by omega),
    halve ((n * 256 + low) / 2 / 2) (by omega), halve ((n * 256 + low) / 2 / 2 / 2) (by omega),
    halve ((n * 256 + low) / 2 / 2 / 2 / 2) (by omega),
    halve ((n * 256 + low) / 2 / 2 / 2 / 2 / 2) (by omega),
    halve ((n * 256 + low) / 2 / 2 / 2 / 2 / 2 / 2) (by omega),
    halve ((n * 256 + low) / 2 / 2 / 2 / 2 / 2 / 2 / 2) (by omega), rest]

theorem bitLength_foldl {n : Nat} (bytes : Bytes) (h : n ≠ 0) :
    bitLength (bytes.foldl (fun acc b => acc * 256 + b.toNat) n) =
      bitLength n + 8 * bytes.length := by
  induction bytes generalizing n with
  | nil => rfl
  | cons b rest ih =>
    rw [List.foldl_cons, ih (by omega), bitLength_mul_add b h, List.length_cons]
    omega

/-- The first byte that is left without leading zeros is not zero. -/
theorem ne_zero_of_trimLeft {bytes rest : Bytes} {first : UInt8}
    (kept : trimLeft bytes = first :: rest) : first.toNat ≠ 0 := by
  intro zero
  have head := List.head?_dropWhile_not (· == (0 : UInt8)) bytes
  rw [show bytes.dropWhile (· == 0) = first :: rest from kept] at head
  have blank : first = 0 := UInt8.toNat_inj.mp zero
  simp [blank] at head

/-- Counting the bits of a string agrees with the number that it denotes. -/
theorem bitCount_eq (bytes : Bytes) : bitCount bytes = bitLength (toNat bytes) := by
  rw [← toNat_trimLeft, bitCount]
  split
  · rename_i blank
    rw [blank]
    rfl
  · rename_i first rest kept
    rw [kept, toNat, Numeral.value, List.foldl_map, List.foldl_cons, Nat.zero_mul, Nat.zero_add,
      bitLength_foldl rest (ne_zero_of_trimLeft kept)]

end Bytes

end PgpCard
