import PgpCard.Proofs.Tlv.RoundTrip

/-!
# What the readers of elements accept

The readers take every form of a length, not only the shortest one, which alone is written.

* `TagBytes`, `LengthBytes`, `Header` : the bytes of a tag, of a length, and of both;
* `Elements`, `TagLengths` : elements, or tags with lengths, that fill some bytes;
* `readElement_eq_ok_iff` : an element is read exactly where a header and a value of its length
  stand in front;
* `readAll_eq_ok_iff`, `readTagLengths_eq_ok_iff` : the readers of lists accept what such elements,
  or such pairs, fill without remainder, and find these.
-/

set_option autoImplicit false

namespace PgpCard.Tlv

/-! ## Tags and lengths -/

/-- The bytes of a tag: one, or two if the low five bits of the first are all set, or three if
besides the highest bit of the second is. -/
inductive TagBytes : Nat → Bytes → Prop
  | one (first : UInt8) (ends : first &&& 0x1F ≠ 0x1F) : TagBytes first.toNat [first]
  | two (first second : UInt8) (continues : first &&& 0x1F = 0x1F) (ends : second < 0x80) :
    TagBytes (256 * first.toNat + second.toNat) [first, second]
  | three (first second third : UInt8) (continues : first &&& 0x1F = 0x1F)
    (goesOn : 0x80 ≤ second) :
    TagBytes (65536 * first.toNat + 256 * second.toNat + third.toNat) [first, second, third]

/-- The bytes of a length: one below `80`, or a count of one to four digits and these. -/
inductive LengthBytes : Nat → Bytes → Prop
  | short (byte : UInt8) (small : byte < 0x80) : LengthBytes byte.toNat [byte]
  | long (count : UInt8) (digits : Bytes) (counted : count.toNat = 0x80 + digits.length)
    (some : digits ≠ []) (few : digits.length ≤ 4) :
    LengthBytes (Bytes.toNat digits) (count :: digits)

/-- The bytes of a tag and of a length after it. -/
inductive Header (tag length : Nat) : Bytes → Prop
  | mk {front back : Bytes} (named : TagBytes tag front) (measured : LengthBytes length back) :
    Header tag length (front ++ back)

/-- Elements one after another, each a header and a value of the length that it tells, fill some
bytes. -/
inductive Elements : Bytes → List Tlv → Prop
  | nil : Elements [] []
  | cons {tag : Nat} {header value rest : Bytes} {tlvs : List Tlv}
    (stands : Header tag value.length header) (others : Elements rest tlvs) :
    Elements (header ++ value ++ rest) (leaf tag value :: tlvs)

/-- Headers one after another fill some bytes. -/
inductive TagLengths : Bytes → List (Nat × Nat) → Prop
  | nil : TagLengths [] []
  | cons {tag length : Nat} {header rest : Bytes} {pairs : List (Nat × Nat)}
    (stands : Header tag length header) (others : TagLengths rest pairs) :
    TagLengths (header ++ rest) ((tag, length) :: pairs)

variable {tag length : Nat} {data value rest header : Bytes}

theorem readTag_eq_ok_iff :
    readTag data = .ok (tag, rest) ↔ ∃ bytes, TagBytes tag bytes ∧ data = bytes ++ rest := by
  constructor
  · intro read
    unfold readTag at read
    split at read
    · cases read
    rename_i first more
    split at read
    · rename_i ends
      cases read
      exact ⟨[first], .one first (by simpa using ends), rfl⟩
    rename_i continues
    have continues : first &&& 0x1F = 0x1F := by simpa using continues
    split at read
    · cases read
    rename_i second more
    split at read
    · rename_i ends
      cases read
      have ends : second < 0x80 := by
        rw [← Tag.highBit_eq_zero_iff]
        simpa using ends
      exact ⟨[first, second], .two first second continues ends, rfl⟩
    rename_i goesOn
    have goesOn : 0x80 ≤ second := by
      rw [← UInt8.not_lt, ← Tag.highBit_eq_zero_iff]
      simpa using goesOn
    split at read
    · cases read
    · rename_i third more
      cases read
      exact ⟨[first, second, third], .three first second third continues goesOn, rfl⟩
  · rintro ⟨bytes, named, rfl⟩
    cases named with
    | one first ends => simp [readTag, ends]
    | two first second continues ends =>
      simp [readTag, continues, (Tag.highBit_eq_zero_iff second).mpr ends]
    | three first second third continues goesOn =>
      have more : second &&& 0x80 ≠ 0 := by
        rw [Ne, Tag.highBit_eq_zero_iff]
        exact UInt8.not_lt.mpr goesOn
      simp [readTag, continues, more]

/-- A tag that is read back as it is written stands on as many bytes as it asks for. -/
theorem canonical_of_readTag (read : readTag (encodeTag tag) = .ok (tag, [])) :
    Tag.Canonical tag := by
  obtain ⟨bytes, named, -⟩ := readTag_eq_ok_iff.mp read
  cases named with
  | one first ends => exact .oneByte first ends
  | two first second continues ends => exact .twoBytes first second continues ends
  | three first second third continues goesOn =>
    exact .threeBytes first second third continues goesOn

theorem readLength_eq_ok_iff :
    readLength data = .ok (length, rest) ↔
      ∃ bytes, LengthBytes length bytes ∧ data = bytes ++ rest := by
  constructor
  · intro read
    unfold readLength at read
    split at read
    · cases read
    rename_i first more
    split at read
    · rename_i small
      cases read
      exact ⟨[first], .short first small, rfl⟩
    rename_i large
    have large : 0x80 ≤ first.toNat := UInt8.le_iff_toNat_le.mp (UInt8.not_lt.mp large)
    dsimp only at read
    split at read
    · cases read
    rename_i some
    split at read
    · cases read
    rename_i few
    split at read
    · cases read
    rename_i enough
    have enough : first.toNat - 128 ≤ more.length := by
      rwa [Bytes.isShorter_iff, Nat.not_lt] at enough
    have counted := List.length_take_of_le enough
    obtain ⟨rfl, rfl⟩ := Prod.mk.inj (Except.ok.inj read)
    refine ⟨first :: more.take (first.toNat - 128), .long _ _ (by omega) ?_ (by omega), ?_⟩
    · exact List.ne_nil_of_length_pos (by omega)
    · rw [List.cons_append, List.take_append_drop]
  · rintro ⟨bytes, measured, rfl⟩
    cases measured with
    | short byte small => rw [List.singleton_append, readLength, if_pos small]
    | long count digits counted some few =>
      have large : ¬ count < 0x80 := by
        rw [UInt8.lt_iff_toNat_lt, counted]
        exact Nat.not_lt.mpr (Nat.le_add_right _ _)
      have number : count.toNat - 128 = digits.length := by omega
      have positive : digits.length ≠ 0 := by simpa using some
      have enough : Bytes.isShorter (digits ++ rest) digits.length = false := by
        rw [← Bool.not_eq_true, Bytes.isShorter_iff, List.length_append]
        omega
      rw [List.cons_append, readLength, if_neg large]
      simp only [number]
      rw [if_neg positive, if_neg (Nat.not_lt.mpr few), if_neg (by simp [enough]), List.take_left,
        List.drop_left]

/-- Tag and length are written as a header. -/
theorem header_encode (canonical : Tag.Canonical tag) (short : length < 65536) :
    Header tag length (encodeTag tag ++ encodeLength length) := by
  obtain ⟨front, named, written⟩ := readTag_eq_ok_iff.mp (readTag_encodeTag canonical [])
  obtain ⟨back, measured, written'⟩ := readLength_eq_ok_iff.mp (readLength_encodeLength short [])
  rw [List.append_cancel_right written, List.append_cancel_right written']
  exact .mk named measured

/-! ## Elements -/

theorem readElement_eq_ok_iff :
    readElement data = .ok (tag, value, rest) ↔
      ∃ header, Header tag value.length header ∧ data = header ++ value ++ rest := by
  constructor
  · intro read
    unfold readElement at read
    split at read
    · cases read
    rename_i tag' afterTag tagged
    obtain ⟨front, named, rfl⟩ := readTag_eq_ok_iff.mp tagged
    split at read
    · cases read
    rename_i length body measured
    obtain ⟨back, measured, rfl⟩ := readLength_eq_ok_iff.mp measured
    split at read
    · cases read
    rename_i enough
    have enough : length ≤ body.length := by
      rwa [Bytes.isShorter_iff, Nat.not_lt] at enough
    cases read
    refine ⟨front ++ back, .mk named ?_, ?_⟩
    · rwa [List.length_take_of_le enough]
    · rw [List.append_assoc, List.take_append_drop, List.append_assoc]
  · rintro ⟨_, ⟨named, measured⟩, rfl⟩
    rename_i front back
    have tagged : readTag (front ++ (back ++ (value ++ rest))) =
        .ok (tag, back ++ (value ++ rest)) := readTag_eq_ok_iff.mpr ⟨_, named, rfl⟩
    have counted : readLength (back ++ (value ++ rest)) = .ok (value.length, value ++ rest) :=
      readLength_eq_ok_iff.mpr ⟨_, measured, rfl⟩
    have whole : Bytes.isShorter (value ++ rest) value.length = false := by
      rw [← Bool.not_eq_true, Bytes.isShorter_iff, List.length_append]
      omega
    rw [readElement, List.append_assoc, List.append_assoc, tagged]
    dsimp only
    rw [counted]
    dsimp only
    rw [whole, if_neg Bool.false_ne_true, List.take_left, List.drop_left]

/-! ## Lists -/

/-- The strict reader accepts what elements fill, and finds these. -/
theorem readAll_eq_ok_iff {tlvs : List Tlv} : readAll data = .ok tlvs ↔ Elements data tlvs := by
  constructor
  · intro read
    fun_induction readAll data generalizing tlvs with
    | case1 =>
      cases read
      exact .nil
    | case2 | case3 => cases read
    | case4 first rest tag value after found shorter others others_read ih =>
      cases read
      obtain ⟨header, stands, whole⟩ := readElement_eq_ok_iff.mp found
      rw [whole]
      exact .cons stands (ih others_read)
  · intro elements
    induction elements with
    | nil => exact readAll_nil
    | cons stands others ih =>
      rw [readAll_of_readElement (readElement_eq_ok_iff.mpr ⟨_, stands, rfl⟩), ih]
      rfl

theorem header_ne_nil (stands : Header tag length header) : header ≠ [] := by
  cases stands with
  | mk named measured => cases named <;> exact List.cons_ne_nil _ _

theorem readTagLengths_of_header (stands : Header tag length header) (rest : Bytes) :
    readTagLengths (header ++ rest) = (readTagLengths rest).map ((tag, length) :: ·) := by
  have nonempty := header_ne_nil stands
  obtain ⟨named, measured⟩ := stands
  rename_i front back
  have tagged : readTag (front ++ back ++ rest) = .ok (tag, back ++ rest) :=
    readTag_eq_ok_iff.mpr ⟨_, named, List.append_assoc _ _ _⟩
  have counted : readLength (back ++ rest) = .ok (length, rest) :=
    readLength_eq_ok_iff.mpr ⟨_, measured, rfl⟩
  cases written : front ++ back ++ rest with
  | nil => exact absurd (List.append_eq_nil_iff.mp written).1 nonempty
  | cons first more =>
    rw [written] at tagged
    rw [readTagLengths]
    split
    · rename_i failed
      cases failed.symm.trans tagged
    rename_i found
    cases found.symm.trans tagged
    split
    · rename_i failed
      cases failed.symm.trans counted
    rename_i found
    cases found.symm.trans counted
    cases readTagLengths rest <;> rfl

/-- The reader of pairs accepts what headers fill, and finds their tags and lengths. -/
theorem readTagLengths_eq_ok_iff {pairs : List (Nat × Nat)} :
    readTagLengths data = .ok pairs ↔ TagLengths data pairs := by
  constructor
  · intro read
    fun_induction readTagLengths data generalizing pairs with
    | case1 =>
      cases read
      exact .nil
    | case2 | case3 => cases read
    | case4 => cases read
    | case5 first rest tag afterTag tagged length after measured fewer fewer' others found ih =>
      cases read
      obtain ⟨front, named, whole⟩ := readTag_eq_ok_iff.mp tagged
      obtain ⟨back, counted, rfl⟩ := readLength_eq_ok_iff.mp measured
      rw [whole, ← List.append_assoc]
      exact .cons (.mk named counted) (ih found)
  · intro headers
    induction headers with
    | nil => rw [readTagLengths]
    | cons stands others ih =>
      rw [readTagLengths_of_header stands, ih]
      rfl

end PgpCard.Tlv
