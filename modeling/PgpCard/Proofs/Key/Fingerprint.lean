import Mathlib.Data.Nat.Size
import PgpCard.Proofs.Key.Outcomes
import PgpCard.Proofs.Rsa.Components

/-!
# What a fingerprint is computed from

The bytes that are digested for a fingerprint tell two numbers and a time, and nothing else: how the
numbers were written does not show in them.

* `Bytes.FixedWidth` : a field of fixed width that denotes a number in full;
* `Bytes.Shortest` : the shortest byte string that denotes a number.  Leaving out the leading zeros
  of a string gives it (`Bytes.shortest_trimLeft`), and how long it is follows from the length of
  the number in bits (`Bytes.Shortest.length_eq`);
* `IsMultiprecision`, `IsKeyPacket`, `IsFingerprintInput` : the format, said of numbers.  Each form
  has one string at most for the same numbers (`unique`), and different ones for different numbers
  (`append_inj`, `determines`);
* `fingerprint_input_canonical` : what is digested is the one string of this format, leading zeros
  do not change it, and it determines both numbers and the time;
* `KeySlots.fingerprint_generated` : the fingerprint in a slot with a new key is the digest of the
  string for that key's own numbers.
-/

set_option autoImplicit false

namespace PgpCard

/-- The number of binary digits, counted as the standard library does. -/
theorem bitLength_eq_size (n : Nat) : bitLength n = Nat.size n :=
  Nat.le_antisymm (bitLength_le n.lt_size_self) (Nat.size_le.mpr (Rsa.lt_pow_bitLength n))

namespace Bytes

variable {width value other : Nat} {bytes bytes' field field' rest rest' : Bytes}

/-! ## Fields of fixed width -/

/-- A field of a given width that denotes a number: nothing of the number is dropped. -/
structure FixedWidth (width value : Nat) (field : Bytes) : Prop where
  length : field.length = width
  denotes : toNat field = value

theorem fixedWidth_ofNat (fits : value < 256 ^ width) :
    FixedWidth width value (ofNat width value) :=
  ⟨length_ofNat width value, toNat_ofNat_of_lt fits⟩

theorem FixedWidth.eq_ofNat (held : FixedWidth width value field) : field = ofNat width value := by
  rw [← held.length, ← held.denotes, ofNat_toNat]

/-- A field can be read off the beginning of a string. -/
theorem FixedWidth.append_inj (held : FixedWidth width value field)
    (held' : FixedWidth width other field') (same : field ++ rest = field' ++ rest') :
    value = other ∧ rest = rest' := by
  obtain ⟨rfl, rests⟩ := List.append_inj same (held.length.trans held'.length.symm)
  exact ⟨held.denotes.symm.trans held'.denotes, rests⟩

/-! ## Shortest byte strings -/

/-- The shortest byte string that denotes a number. -/
structure Shortest (value : Nat) (bytes : Bytes) : Prop where
  denotes : toNat bytes = value
  least : ∀ other : Bytes, toNat other = value → bytes.length ≤ other.length

/-- The bits of a number fit some bytes where the number does. -/
theorem size_le_iff : Nat.size value ≤ 8 * width ↔ value < 256 ^ width := by
  rw [Nat.size_le, Nat.pow_mul]

theorem bitCount_eq_size (bytes : Bytes) : bitCount bytes = Nat.size (toNat bytes) := by
  rw [bitCount_eq, bitLength_eq_size]

theorem size_toNat_le (bytes : Bytes) : Nat.size (toNat bytes) ≤ 8 * bytes.length :=
  size_le_iff.mpr (toNat_lt bytes)

/-- A string is the shortest one of its number once its leading zeros are left out. -/
theorem shortest_trimLeft (bytes : Bytes) : Shortest (toNat bytes) (trimLeft bytes) := by
  refine ⟨toNat_trimLeft bytes, fun other same => ?_⟩
  have few : bitCount bytes ≤ 8 * other.length := by
    rw [bitCount_eq_size, ← same]
    exact size_toNat_le other
  unfold bitCount at few
  split at few
  · rename_i blank
    rw [blank]
    exact Nat.zero_le _
  · -- a first byte that is not zero has a bit, so the bytes behind it are fewer than the others
    rename_i first behind kept
    have some_bit : bitLength first.toNat ≠ 0 := by
      rw [bitLength_eq_size, Ne, Nat.size_eq_zero]
      exact ne_zero_of_trimLeft kept
    rw [kept, List.length_cons]
    omega

namespace Shortest

theorem length_eq (shortest : Shortest value bytes) : bytes.length = (Nat.size value + 7) / 8 := by
  have enough : Nat.size value ≤ 8 * ((Nat.size value + 7) / 8) := by omega
  have atMost := shortest.least _ (toNat_ofNat_of_lt (size_le_iff.mp enough))
  have atLeast := size_toNat_le bytes
  rw [length_ofNat] at atMost
  rw [shortest.denotes] at atLeast
  omega

theorem eq_ofNat (shortest : Shortest value bytes) :
    bytes = ofNat ((Nat.size value + 7) / 8) value := by
  rw [← shortest.length_eq, ← shortest.denotes, ofNat_toNat]

theorem unique (shortest : Shortest value bytes) (shortest' : Shortest value bytes') :
    bytes = bytes' :=
  shortest.eq_ofNat.trans shortest'.eq_ofNat.symm

end Shortest

/-- Which bytes remain without leading zeros is a matter of the number alone. -/
theorem trimLeft_congr (same : toNat bytes = toNat bytes') : trimLeft bytes = trimLeft bytes' :=
  (shortest_trimLeft bytes).unique (same ▸ shortest_trimLeft bytes')

end Bytes

open Bytes

/-! ## The format -/

/-- A number in a packet: its length in bits on two bytes, and the shortest byte string that denotes
it. -/
inductive IsMultiprecision (value : Nat) : Bytes → Prop
  | mk {bits body : Bytes} (counted : FixedWidth 2 (Nat.size value) bits)
    (shortest : Shortest value body) : IsMultiprecision value (bits ++ body)

/-- The body of a public key packet: version 4, the time on four bytes, the algorithm 1, the modulus
and the public exponent. -/
inductive IsKeyPacket (modulus exponent : Nat) (time : UInt32) : Bytes → Prop
  | mk {stamp first second : Bytes} (made : FixedWidth 4 time.toNat stamp)
    (modulus_written : IsMultiprecision modulus first)
    (exponent_written : IsMultiprecision exponent second) :
    IsKeyPacket modulus exponent time (4 :: stamp ++ 1 :: first ++ second)

/-- What is digested: the byte `99`, the length of the packet on two bytes, and the packet. -/
inductive IsFingerprintInput (modulus exponent : Nat) (time : UInt32) : Bytes → Prop
  | mk {length packet : Bytes} (counted : FixedWidth 2 packet.length length)
    (body : IsKeyPacket modulus exponent time packet) :
    IsFingerprintInput modulus exponent time (0x99 :: length ++ packet)

variable {value other m n e f : Nat} {time time' : UInt32}
  {written written' rest rest' number number' modulus modulus' exponent exponent' : Bytes}

/-! ## Numbers -/

/-- A number of at most 8000 bytes is written in the format: its length in bits fits two bytes. -/
theorem isMultiprecision (short : number.length ≤ 8000) :
    IsMultiprecision (toNat number) (multiprecision number) := by
  have few := size_toNat_le number
  have fits : Nat.size (toNat number) < 256 ^ 2 := by omega
  rw [multiprecision, bitCount_eq_size]
  exact .mk (fixedWidth_ofNat fits) (shortest_trimLeft number)

theorem length_multiprecision_le (number : Bytes) :
    (multiprecision number).length ≤ 2 + number.length := by
  rw [multiprecision, List.length_append, length_ofNat]
  exact Nat.add_le_add_left ((shortest_trimLeft number).least number rfl) 2

/-- How a number is written is a matter of the number alone. -/
theorem multiprecision_congr (same : toNat number = toNat number') :
    multiprecision number = multiprecision number' := by
  rw [multiprecision, multiprecision, bitCount_eq, bitCount_eq, same, trimLeft_congr same]

namespace IsMultiprecision

theorem unique (form : IsMultiprecision value written) (form' : IsMultiprecision value written') :
    written = written' := by
  obtain ⟨counted, shortest⟩ := form
  obtain ⟨counted', shortest'⟩ := form'
  rw [counted.eq_ofNat, counted'.eq_ofNat, shortest.unique shortest']

/-- A number can be read off the beginning of a string: its length in bits says where its bytes
end. -/
theorem append_inj (form : IsMultiprecision value written) (form' : IsMultiprecision other written')
    (same : written ++ rest = written' ++ rest') : value = other ∧ rest = rest' := by
  obtain ⟨counted, shortest⟩ := form
  obtain ⟨counted', shortest'⟩ := form'
  rw [List.append_assoc, List.append_assoc] at same
  obtain ⟨bits, behind⟩ := counted.append_inj counted' same
  have lengths := shortest.length_eq
  rw [bits, ← shortest'.length_eq] at lengths
  obtain ⟨rfl, rests⟩ := List.append_inj behind lengths
  exact ⟨shortest.denotes.symm.trans shortest'.denotes, rests⟩

theorem value_inj (form : IsMultiprecision value written) (form' : IsMultiprecision other written) :
    value = other :=
  (form.append_inj form' (rfl : written ++ [] = written ++ [])).1

end IsMultiprecision

/-! ## Packets -/

theorem isKeyPacket (time : UInt32) (shortModulus : modulus.length ≤ 8000)
    (shortExponent : exponent.length ≤ 8000) :
    IsKeyPacket (toNat modulus) (toNat exponent) time (keyPacket modulus exponent time) :=
  .mk (fixedWidth_ofNat time.toNat_lt) (isMultiprecision shortModulus)
    (isMultiprecision shortExponent)

theorem length_keyPacket_le (modulus exponent : Bytes) (time : UInt32) :
    (keyPacket modulus exponent time).length ≤ 10 + modulus.length + exponent.length := by
  have first := length_multiprecision_le modulus
  have second := length_multiprecision_le exponent
  simp only [keyPacket, List.length_append, List.length_cons, length_ofNat]
  omega

namespace IsKeyPacket

theorem unique (form : IsKeyPacket m e time written) (form' : IsKeyPacket m e time written') :
    written = written' := by
  obtain ⟨made, first, second⟩ := form
  obtain ⟨made', first', second'⟩ := form'
  rw [made.eq_ofNat, made'.eq_ofNat, first.unique first', second.unique second']

/-- The numbers and the time can be read off a packet, one after the other. -/
theorem determines (form : IsKeyPacket m e time written) (form' : IsKeyPacket n f time' written')
    (same : written = written') : m = n ∧ e = f ∧ time = time' := by
  obtain ⟨made, first, second⟩ := form
  obtain ⟨made', first', second'⟩ := form'
  simp only [List.cons_append, List.append_assoc, List.cons.injEq, true_and] at same
  obtain ⟨times, behind⟩ := made.append_inj made' same
  -- the byte between the time and the modulus is the algorithm
  obtain ⟨moduli, behind⟩ := first.append_inj first' (List.cons.inj behind).2
  subst behind
  exact ⟨moduli, second.value_inj second', UInt32.toNat_inj.mp times⟩

end IsKeyPacket

/-! ## What is digested -/

/-- Numbers of at most 8000 bytes make a packet whose length fits two bytes. -/
theorem isFingerprintInput (time : UInt32) (shortModulus : modulus.length ≤ 8000)
    (shortExponent : exponent.length ≤ 8000) :
    IsFingerprintInput (toNat modulus) (toNat exponent) time
      (fingerprintInput modulus exponent time) := by
  have length := length_keyPacket_le modulus exponent time
  have fits : (keyPacket modulus exponent time).length < 256 ^ 2 := by omega
  exact .mk (fixedWidth_ofNat fits) (isKeyPacket time shortModulus shortExponent)

/-- What is digested is a matter of the numbers and the time alone. -/
theorem fingerprintInput_congr (time : UInt32) (moduli : toNat modulus = toNat modulus')
    (exponents : toNat exponent = toNat exponent') :
    fingerprintInput modulus exponent time = fingerprintInput modulus' exponent' time := by
  rw [fingerprintInput, fingerprintInput, keyPacket, keyPacket, multiprecision_congr moduli,
    multiprecision_congr exponents]

namespace IsFingerprintInput

theorem unique (form : IsFingerprintInput m e time written)
    (form' : IsFingerprintInput m e time written') : written = written' := by
  obtain ⟨counted, body⟩ := form
  obtain ⟨counted', body'⟩ := form'
  rw [counted.eq_ofNat, counted'.eq_ofNat, body.unique body']

theorem determines (form : IsFingerprintInput m e time written)
    (form' : IsFingerprintInput n f time' written') (same : written = written') :
    m = n ∧ e = f ∧ time = time' := by
  obtain ⟨counted, body⟩ := form
  obtain ⟨counted', body'⟩ := form'
  rw [List.cons_append, List.cons_append] at same
  obtain ⟨-, packets⟩ := counted.append_inj counted' (List.cons.inj same).2
  exact body.determines body' packets

end IsFingerprintInput

/-- For numbers of at most 8000 bytes, what is digested is the one string that the format has for
these numbers and the time.  Zeros put in front of the byte strings do not change it.  It is the
same for other byte strings and another time if and only if both numbers and the time are the
same. -/
theorem fingerprint_input_canonical (time : UInt32) (shortModulus : modulus.length ≤ 8000)
    (shortExponent : exponent.length ≤ 8000) :
    fingerprint modulus exponent time = Digest.sha1 (fingerprintInput modulus exponent time) ∧
    (∀ written, IsFingerprintInput (toNat modulus) (toNat exponent) time written ↔
      written = fingerprintInput modulus exponent time) ∧
    (∀ width width', fingerprintInput (padLeft width modulus) (padLeft width' exponent) time =
      fingerprintInput modulus exponent time) ∧
    ∀ (modulus' exponent' : Bytes) (time' : UInt32), modulus'.length ≤ 8000 →
      exponent'.length ≤ 8000 →
      (fingerprintInput modulus' exponent' time' = fingerprintInput modulus exponent time ↔
        toNat modulus' = toNat modulus ∧ toNat exponent' = toNat exponent ∧ time' = time) := by
  have form := isFingerprintInput time shortModulus shortExponent
  refine ⟨rfl, fun written => ⟨fun form' => form'.unique form, ?_⟩, fun width width' => ?_, ?_⟩
  · rintro rfl
    exact form
  · exact fingerprintInput_congr time (toNat_padLeft width modulus) (toNat_padLeft width' exponent)
  · intro modulus' exponent' time' shortModulus' shortExponent'
    have form' := isFingerprintInput time' shortModulus' shortExponent'
    refine ⟨form'.determines form, ?_⟩
    rintro ⟨moduli, exponents, rfl⟩
    exact fingerprintInput_congr time' moduli exponents

/-- A modulus with two zeros in front and an exponent that is zero: of the modulus eight bits are
counted and one byte is written, of the exponent nothing.  More zeros in front, or none, give the
same bytes; another exponent gives others. -/
theorem fingerprint_input_canonical_padded :
    let modulus : Bytes := [0x00, 0x00, 0x80]
    let input : Bytes := [0x99, 0x00, 0x0B, 0x04, 0x00, 0x00, 0x00, 0x07, 0x01, 0x00, 0x08, 0x80,
      0x00, 0x00]
    modulus.length ≤ 8000 ∧ ([] : Bytes).length ≤ 8000 ∧ ([0x80] : Bytes).length ≤ 8000 ∧
      ([0x00] : Bytes).length ≤ 8000 ∧ ([0x01] : Bytes).length ≤ 8000 ∧
      fingerprintInput modulus [] 7 = input ∧ IsFingerprintInput 0x80 0 7 input ∧
      fingerprintInput (padLeft 256 modulus) (padLeft 3 []) 7 = input ∧
      fingerprintInput [0x80] [0x00] 7 = input ∧ fingerprintInput modulus [0x01] 7 ≠ input := by
  intro modulus input
  have short : modulus.length ≤ 8000 := by decide
  have blank : ([] : Bytes).length ≤ 8000 := by decide
  obtain ⟨-, form, padded, others⟩ := fingerprint_input_canonical 7 short blank
  have written : fingerprintInput modulus [] 7 = input := by decide
  refine ⟨short, blank, by decide, by decide, by decide, written, ?_, ?_, ?_, ?_⟩
  · exact (form input).mpr written.symm
  · exact (padded 256 3).trans written
  · exact ((others [0x80] [0x00] 7 (by decide) (by decide)).mpr (by decide)).trans written
  · intro same
    have numbers := (others modulus [0x01] 7 short (by decide)).mp (same.trans written.symm)
    exact absurd numbers.2.1 (by decide)

/-! ## Keys of the card -/

/-- The fingerprint in a slot with a new key is the digest of the string for the key's own numbers,
though the modulus is kept on its full size. -/
theorem KeySlots.fingerprint_generated {key : Rsa.PrivateKey} {components : Rsa.Components}
    (valid : key.Valid) (split : key.components? = .ok components) (env : Environment)
    (old : KeyRecord) :
    ∃ written, IsFingerprintInput key.modulus key.publicExponent env.now written ∧
      (generated env old key components).record.fingerprint = Digest.sha1 written := by
  obtain ⟨modulus, exponent⟩ := Rsa.PrivateKey.publish_of_components? split
  obtain ⟨sized, minimal⟩ := Rsa.PrivateKey.public_of_components? valid.size split
  have shortModulus : components.n.length ≤ 8000 := by
    rw [sized, length_ofNat]
    decide
  have shortExponent : components.e.length ≤ 8000 := by
    have few := Rsa.PrivateKey.length_minimal_exponent
      (Rsa.PrivateKey.exponent_le_of_checked valid.checked)
    rw [minimal]
    omega
  rw [← modulus, ← exponent]
  exact ⟨_, isFingerprintInput env.now shortModulus shortExponent, rfl⟩

end PgpCard
