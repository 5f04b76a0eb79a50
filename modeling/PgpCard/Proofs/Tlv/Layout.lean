import PgpCard.Proofs.Tlv.Grammar

/-!
# Where the elements stand that are read

The strict reader leaves no byte over, so what follows the bytes that it accepts is read as if these
were not there.  The reader that skips filler leaves bytes over, but what it finds stands in order
within the bytes that it is given, and what it finds in a value stands within that value.

* `firstByte_of_header` : an element begins with the first byte of its tag;
* `readAll_append`, `readForest_append` : what is read of bytes that elements fill, and of any bytes
  behind them;
* `Reads` : the turns of the reader that skips filler, those that it makes within values included;
  `reads_readForest` says that it makes at most one for each byte, `Reads.eq_readForest` that they
  lead to no other result;
* `Placed` : values that stand in order within some bytes, without overlap, and so on within each
  value;
* `elements_accounted` : all of it together.
-/

set_option autoImplicit false

namespace PgpCard.Tlv

variable {tag length : Nat} {data more header value : Bytes} {tlvs trees : List Tlv}

/-- A byte that may stand between elements. -/
def IsFiller (byte : UInt8) : Prop := byte = 0x00 ∨ byte = 0xFF

instance (byte : UInt8) : Decidable (IsFiller byte) := inferInstanceAs (Decidable (_ ∨ _))

/-! ## The first byte -/

/-- The bytes of a tag begin with its first byte. -/
theorem firstByte_of_tagBytes {bytes : Bytes} (named : TagBytes tag bytes) :
    ∃ more, bytes = Tag.firstByte tag :: more := by
  cases named with
  | one first ends =>
    have bound : first.toNat < 256 := first.toNat_lt
    refine ⟨[], ?_⟩
    rw [Tag.firstByte, if_neg (by omega), if_neg (by omega), UInt8.ofNat_toNat]
  | two first second continues ends =>
    have positive := Tag.pos_of_continues continues
    have bound : first.toNat < 256 := first.toNat_lt
    have bound' : second.toNat < 256 := second.toNat_lt
    refine ⟨[second], ?_⟩
    rw [Tag.firstByte, if_neg (by omega), if_pos (by omega)]
    exact congrArg (· :: [second]) (Tag.ofNat_mul_add_div first bound').symm
  | three first second third continues goesOn =>
    have positive := Tag.pos_of_continues continues
    have bound' : second.toNat < 256 := second.toNat_lt
    have bound'' : third.toNat < 256 := third.toNat_lt
    refine ⟨[second, third], ?_⟩
    rw [Tag.firstByte, if_pos (by omega), Nat.add_assoc]
    exact congrArg (· :: [second, third]) (Tag.ofNat_mul_add_div first (by omega)).symm

/-- An element begins with the first byte of its tag. -/
theorem firstByte_of_header (stands : Header tag length header) :
    ∃ more, header = Tag.firstByte tag :: more := by
  obtain ⟨named, measured⟩ := stands
  obtain ⟨more, begins⟩ := firstByte_of_tagBytes named
  rw [begins]
  exact ⟨_, rfl⟩

/-! ## Bytes behind elements -/

theorem readAll_of_header (stands : Header tag value.length header) (rest : Bytes) :
    readAll (header ++ value ++ rest) = (readAll rest).map (leaf tag value :: ·) :=
  readAll_of_readElement (readElement_eq_ok_iff.mpr ⟨header, stands, rfl⟩)

/-- What follows elements is read as if these were not there. -/
theorem readAll_append (elements : Elements data tlvs) (more : Bytes) :
    readAll (data ++ more) = (readAll more).map (tlvs ++ ·) := by
  induction elements with
  | nil =>
    rw [List.nil_append]
    cases readAll more <;> rfl
  | cons stands others ih =>
    rw [List.append_assoc, readAll_of_header stands, ih]
    cases readAll more <;> rfl

theorem readForest_of_header (nested : Bool) (visible : ¬ IsFiller (Tag.firstByte tag))
    (stands : Header tag value.length header) (rest : Bytes) :
    readForest nested (header ++ value ++ rest) =
      .mk tag value (if nested && Tag.isConstructed tag then readForest nested value else []) ::
        readForest nested rest := by
  obtain ⟨back, begins⟩ := firstByte_of_header stands
  refine readForest_of_readElement nested ?_ (readElement_eq_ok_iff.mpr ⟨header, stands, rfl⟩)
  simpa [begins, IsFiller] using visible

/-- Elements that do not begin like filler are read one after another, and what follows them is read
as if they were not there. -/
theorem readForest_append (nested : Bool) (elements : Elements data tlvs)
    (visible : ∀ tlv ∈ tlvs, ¬ IsFiller (Tag.firstByte tlv.tag)) (more : Bytes) :
    readForest nested (data ++ more) = readForest nested data ++ readForest nested more := by
  induction elements with
  | nil => rw [List.nil_append, readForest, List.nil_append]
  | cons stands others ih =>
    obtain ⟨first, visible⟩ := List.forall_mem_cons.mp visible
    rw [List.append_assoc, readForest_of_header nested first stands, ih visible,
      readForest_of_header nested first stands, List.cons_append]

/-- Where it does not descend, the reader that skips filler agrees with the strict one on elements
that do not begin like filler. -/
theorem readForest_false (elements : Elements data tlvs)
    (visible : ∀ tlv ∈ tlvs, ¬ IsFiller (Tag.firstByte tlv.tag)) :
    readForest false data = tlvs := by
  induction elements with
  | nil => rw [readForest]
  | cons stands others ih =>
    obtain ⟨first, visible⟩ := List.forall_mem_cons.mp visible
    rw [readForest_of_header false first stands, ih visible]
    rfl

/-! ## Turns -/

/-- Some bytes are read as some elements in so many turns.  In a turn a byte of filler is skipped,
or the reader stops at bytes that are no element, or an element is taken; its value is read in
further turns where it is to be descended into. -/
inductive Reads (nested : Bool) : Bytes → List Tlv → Nat → Prop
  | done : Reads nested [] [] 0
  | skips {byte : UInt8} {rest : Bytes} {tlvs : List Tlv} {turns : Nat} (filler : IsFiller byte)
    (others : Reads nested rest tlvs turns) : Reads nested (byte :: rest) tlvs (turns + 1)
  | stops {byte : UInt8} {rest : Bytes} (visible : ¬ IsFiller byte)
    (none : ∀ (tag : Nat) (header value after : Bytes), Header tag value.length header →
      byte :: rest ≠ header ++ value ++ after) : Reads nested (byte :: rest) [] 1
  | takes {tag : Nat} {header value rest : Bytes} {tlvs : List Tlv} {turns : Nat}
    (visible : ¬ IsFiller (Tag.firstByte tag)) (stands : Header tag value.length header)
    (flat : (nested && Tag.isConstructed tag) = false) (others : Reads nested rest tlvs turns) :
    Reads nested (header ++ value ++ rest) (leaf tag value :: tlvs) (turns + 1)
  | enters {tag : Nat} {header value rest : Bytes} {children tlvs : List Tlv} {inner turns : Nat}
    (visible : ¬ IsFiller (Tag.firstByte tag)) (stands : Header tag value.length header)
    (deep : (nested && Tag.isConstructed tag) = true) (below : Reads nested value children inner)
    (others : Reads nested rest tlvs turns) :
    Reads nested (header ++ value ++ rest) (.mk tag value children :: tlvs) (inner + turns + 1)

variable {nested : Bool} {turns : Nat}

/-- There is at most one turn for each byte. -/
theorem Reads.turns_le (reads : Reads nested data trees turns) : turns ≤ data.length := by
  induction reads with
  | done => exact Nat.le_refl 0
  | skips filler others ih => exact Nat.succ_le_succ ih
  | stops => exact Nat.succ_le_succ (Nat.zero_le _)
  | takes visible stands flat others ih =>
    have begins := List.length_pos_iff.mpr (header_ne_nil stands)
    simp only [List.length_append]
    omega
  | enters visible stands deep below others ih ih' =>
    have begins := List.length_pos_iff.mpr (header_ne_nil stands)
    simp only [List.length_append]
    omega

/-- Turns lead to what the reader finds. -/
theorem Reads.eq_readForest (reads : Reads nested data trees turns) :
    trees = readForest nested data := by
  induction reads with
  | done => rw [readForest]
  | skips filler others ih => rw [readForest, if_pos (show _ ∨ _ from filler), ih]
  | @stops byte rest visible none =>
    rw [readForest, if_neg (show ¬ (_ ∨ _) from visible)]
    split
    · rfl
    · rename_i tag value after read
      obtain ⟨header, stands, whole⟩ := readElement_eq_ok_iff.mp read
      exact absurd whole (none tag header value after stands)
  | takes visible stands flat others ih =>
    rw [readForest_of_header nested visible stands, flat, ← ih]
    rfl
  | enters visible stands deep below others ih ih' =>
    rw [readForest_of_header nested visible stands, deep, ← ih, ← ih', if_pos rfl]

/-- The reader comes to an end in some turns. -/
theorem reads_readForest (nested : Bool) (data : Bytes) :
    ∃ turns, Reads nested data (readForest nested data) turns := by
  fun_induction readForest nested data with
  | case1 => exact ⟨0, .done⟩
  | case2 byte rest _ filler ih =>
    obtain ⟨turns, others⟩ := ih
    exact ⟨turns + 1, .skips filler others⟩
  | case3 byte rest _ visible e failed =>
    refine ⟨1, .stops visible fun tag header value after stands whole => ?_⟩
    have read := readElement_eq_ok_iff.mpr ⟨header, stands, whole⟩
    cases failed.symm.trans read
  | case4 byte rest _ visible tag value after read _ children ih_value ih_after =>
    obtain ⟨header, stands, whole⟩ := readElement_eq_ok_iff.mp read
    obtain ⟨turns, others⟩ := ih_after
    -- the byte that the reader has looked at is the first one of the tag
    have first : ¬ IsFiller (Tag.firstByte tag) := by
      obtain ⟨back, begins⟩ := firstByte_of_header stands
      rw [begins] at whole
      rwa [← (List.cons.inj whole).1]
    rw [whole]
    cases descends : nested && Tag.isConstructed tag with
    | false =>
      have none : children = [] := if_neg (by rw [descends]; exact Bool.false_ne_true)
      rw [none]
      exact ⟨turns + 1, .takes first stands descends others⟩
    | true =>
      obtain ⟨inner, below⟩ := ih_value
      have found : children = readForest nested value := if_pos descends
      rw [found]
      exact ⟨inner + turns + 1, .enters first stands descends below others⟩

/-! ## Places -/

/-- The values of some elements stand in some bytes in order and without overlap, each with gaps
around it, and so do the values of its children in each value. -/
inductive Placed : Bytes → List Tlv → Prop
  | nil (rest : Bytes) : Placed rest []
  | cons {tag : Nat} {value rest : Bytes} {children tlvs : List Tlv} (gap : Bytes)
    (below : Placed value children) (others : Placed rest tlvs) :
    Placed (gap ++ value ++ rest) (.mk tag value children :: tlvs)

/-- Bytes in front move every place. -/
theorem Placed.append_left (placed : Placed data trees) (front : Bytes) :
    Placed (front ++ data) trees := by
  cases placed with
  | nil => exact .nil _
  | cons gap below others =>
    rw [← List.append_assoc, ← List.append_assoc]
    exact .cons (front ++ gap) below others

theorem Reads.placed (reads : Reads nested data trees turns) : Placed data trees := by
  induction reads with
  | done | stops => exact .nil _
  | skips filler others ih => exact ih.append_left [_]
  | takes visible stands flat others ih => exact .cons _ (.nil _) ih
  | enters visible stands deep below others ih ih' => exact .cons _ ih ih'

/-- Bytes that the strict reader accepts are its elements, each a header and a value, one after
another, and what follows them is read by it as if they were not there.  If none of them begins like
filler, the reader that skips filler finds the same elements, and reads what follows them as if they
were not there.  On any bytes that reader ends after at most one turn for each byte, and what it
finds stands in order and without overlap within these bytes, at any depth. -/
theorem elements_accounted :
    (∀ data tlvs, readAll data = .ok tlvs → Elements data tlvs ∧
      (∀ more, readAll (data ++ more) = (readAll more).map (tlvs ++ ·)) ∧
      ((∀ tlv ∈ tlvs, ¬ IsFiller (Tag.firstByte tlv.tag)) → readForest false data = tlvs ∧
        ∀ nested more,
          readForest nested (data ++ more) = readForest nested data ++ readForest nested more)) ∧
    ∀ nested data,
      (∃ turns ≤ data.length, Reads nested data (readForest nested data) turns) ∧
      (∀ trees turns, Reads nested data trees turns → trees = readForest nested data) ∧
      Placed data (readForest nested data) := by
  refine ⟨fun data tlvs read => ?_, fun nested data => ?_⟩
  · have elements := readAll_eq_ok_iff.mp read
    exact ⟨elements, readAll_append elements, fun visible =>
      ⟨readForest_false elements visible, fun nested => readForest_append nested elements visible⟩⟩
  · obtain ⟨turns, reads⟩ := reads_readForest nested data
    exact ⟨⟨turns, reads.turns_le, reads⟩, fun _ _ other => other.eq_readForest, reads.placed⟩

/-- An element, and a constructed one whose length stands on more bytes than it needs. -/
def overlong : Bytes := [0x4F, 0x02, 0x01, 0x02, 0x65, 0x82, 0x00, 0x03, 0x5B, 0x01, 0x41]

theorem elements_accounted_overlong :
    let tlvs := [leaf 0x4F [0x01, 0x02], leaf 0x65 [0x5B, 0x01, 0x41]]
    let more : Bytes := [0x00, 0x6E, 0x00, 0xFF, 0x9F]
    readAll overlong = .ok tlvs ∧ (∀ tlv ∈ tlvs, ¬ IsFiller (Tag.firstByte tlv.tag)) ∧
      readAll (overlong ++ more) = (readAll more).map (tlvs ++ ·) ∧
      readForest false overlong = tlvs ∧
      readForest true (overlong ++ more) = readForest true overlong ++ readForest true more := by
  intro tlvs more
  have first : Header 0x4F 2 [0x4F, 0x02] :=
    .mk (.one 0x4F (by decide)) (.short 0x02 (by decide))
  have second : Header 0x65 3 [0x65, 0x82, 0x00, 0x03] :=
    .mk (.one 0x65 (by decide)) (.long 0x82 [0x00, 0x03] rfl (by decide) (by decide))
  have elements : Elements ([0x4F, 0x02] ++ [0x01, 0x02] ++
      ([0x65, 0x82, 0x00, 0x03] ++ [0x5B, 0x01, 0x41] ++ [])) tlvs :=
    .cons first (.cons second .nil)
  have read : readAll overlong = .ok tlvs := readAll_eq_ok_iff.mpr elements
  have visible : ∀ tlv ∈ tlvs, ¬ IsFiller (Tag.firstByte tlv.tag) := by decide
  obtain ⟨-, behind, agree⟩ := elements_accounted.1 overlong tlvs read
  obtain ⟨same, behind'⟩ := agree visible
  exact ⟨read, visible, behind more, same, behind' true more⟩

end PgpCard.Tlv
