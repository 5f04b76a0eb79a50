import PgpCard.Text.Utf8

/-!
# Text is read back from its bytes

* `Utf8.decode?_encodeChar` : the bytes of one character in front are read as that character;
* `Utf8.toString?_ofString` : every text is read back from its bytes;
* `Utf8.mem_encodeChar`     : only an ASCII character is written with an ASCII byte, its own.
-/

set_option autoImplicit false

namespace PgpCard.Utf8

/-! ## One byte -/

theorem toNat_ofNat {n : Nat} (h : n < 256) : (UInt8.ofNat n).toNat = n :=
  UInt8.toNat_ofNat_of_lt h

theorem toNat_continuation (n : Nat) : (continuation n).toNat = 128 + n % 64 :=
  toNat_ofNat (by omega)

theorem bits?_continuation (n : Nat) : bits? (continuation n) = some (n % 64) := by
  rw [bits?, toNat_continuation, if_pos (by omega), Nat.add_sub_cancel_left]

/-! ## One character -/

theorem toNat_lt (c : Char) : c.toNat < 0x110000 := by
  have valid : c.toNat.isValidChar := c.valid
  rcases valid with low | ⟨-, high⟩
  · omega
  · exact high

theorem char?_toNat (c : Char) {least : Nat} (h : least ≤ c.toNat) :
    char? least c.toNat = some c := by
  have valid : c.toNat.isValidChar := c.valid
  have back := Char.ofNat_toNat c
  rw [Char.ofNat, dif_pos valid] at back
  rw [char?, dif_pos valid, if_pos h, back]

/-- The bytes of a character in front are read as that character. -/
theorem decode?_encodeChar (c : Char) (rest : Bytes) :
    decode? (encodeChar c ++ rest) = (decode? rest).map (c :: ·) := by
  have bound := toNat_lt c
  rw [encodeChar, encodePoint]
  split
  case isTrue one =>
    rw [List.singleton_append, decode?.eq_def]
    simp only
    rw [toNat_ofNat (by omega), if_pos one, char?_toNat c (Nat.zero_le _)]
    cases decode? rest <;> rfl
  case isFalse one =>
  split
  case isTrue two =>
    rw [List.cons_append, List.singleton_append, decode?.eq_def]
    simp only [bits?_continuation]
    rw [toNat_ofNat (by omega), if_neg (by omega), if_neg (by omega), if_pos (by omega),
      show 64 * (192 + c.toNat / 64 - 0xC0) + c.toNat % 64 = c.toNat by omega,
      char?_toNat c (by omega)]
    cases decode? rest <;> rfl
  case isFalse two =>
  split
  case isTrue three =>
    rw [List.cons_append, List.cons_append, List.singleton_append, decode?.eq_def]
    simp only [bits?_continuation]
    rw [toNat_ofNat (by omega), if_neg (by omega), if_neg (by omega), if_neg (by omega),
      if_pos (by omega),
      show 4096 * (224 + c.toNat / 4096 - 0xE0) + 64 * (c.toNat / 64 % 64) + c.toNat % 64 =
        c.toNat by omega,
      char?_toNat c (by omega)]
    cases decode? rest <;> rfl
  case isFalse three =>
    rw [List.cons_append, List.cons_append, List.cons_append, List.singleton_append,
      decode?.eq_def]
    simp only [bits?_continuation]
    rw [toNat_ofNat (by omega), if_neg (by omega), if_neg (by omega), if_neg (by omega),
      if_neg (by omega),
      show 262144 * (240 + c.toNat / 262144 - 0xF0) + 4096 * (c.toNat / 4096 % 64) +
        64 * (c.toNat / 64 % 64) + c.toNat % 64 = c.toNat by omega,
      char?_toNat c (by omega)]
    cases decode? rest <;> rfl

/-! ## Texts -/

theorem decode?_encode (chars : List Char) : decode? (encode chars) = some chars := by
  induction chars with
  | nil => rfl
  | cons c chars ih =>
    rw [encode, List.flatMap_cons, decode?_encodeChar]
    exact congrArg (Option.map (c :: ·)) ih

/-- Every text is read back from its bytes. -/
theorem toString?_ofString (text : String) : toString? (ofString text) = some text := by
  rw [toString?, ofString, decode?_encode, Option.map_some, String.ofList_toList]

/-! ## ASCII bytes -/

/-- Only an ASCII character is written with an ASCII byte, its own. -/
theorem mem_encodeChar {c : Char} {b : UInt8} (mem : b ∈ encodeChar c) (ascii : b.toNat < 0x80) :
    c.toNat = b.toNat := by
  have bound := toNat_lt c
  rw [encodeChar, encodePoint] at mem
  split at mem
  case isTrue one =>
    rw [List.mem_singleton.mp mem, toNat_ofNat (by omega)]
  case isFalse =>
    -- every byte of a longer sequence is at least 128
    exfalso
    have high : ∀ n, 128 ≤ n → n < 256 → b ≠ UInt8.ofNat n := by
      rintro n least most rfl
      rw [toNat_ofNat most] at ascii
      omega
    have later : ∀ n, b ≠ continuation n := fun n => high _ (by omega) (by omega)
    split at mem
    · simp only [List.mem_cons, List.not_mem_nil, or_false, later] at mem
      exact high _ (by omega) (by omega) mem
    split at mem
    · simp only [List.mem_cons, List.not_mem_nil, or_false, later] at mem
      exact high _ (by omega) (by omega) mem
    · simp only [List.mem_cons, List.not_mem_nil, or_false, later] at mem
      exact high _ (by omega) (by omega) mem

end PgpCard.Utf8
