import PgpCard.Tlv.Encode
import PgpCard.Tlv.Parse

/-!
# Elements are read back as they were written

An element has a written form if its tag stands on as many bytes as the first of them asks for, its
value is shorter than 65536 bytes, and the value of a constructed element is its children written
one after another.

* `Tag.Canonical`, `Tlv.Canonical` : the tags and the elements that have a written form;
* `readTag_encodeTag`, `readLength_encodeLength`, `readElement_encode` : tag, length and element are
  read back in front of any bytes;
* `readAll_encodeForest` : the strict reader finds the elements at the top, and
  `readForest_encodeForest` the one that descends finds whole trees, as far as no element begins
  like filler;
* `TlvBuilder.Builds` : what a builder has written after some operations;
* `forest_round_trip` : all of it together.
-/

set_option autoImplicit false

namespace PgpCard

/-! ## Tags -/

/-- A tag that stands on as many bytes as its first byte asks for, and its second byte where there
is one. -/
inductive Tag.Canonical : Nat → Prop
  | oneByte (first : UInt8) (ends : first &&& 0x1F ≠ 0x1F) : Canonical first.toNat
  | twoBytes (first second : UInt8) (continues : first &&& 0x1F = 0x1F) (ends : second < 0x80) :
    Canonical (256 * first.toNat + second.toNat)
  | threeBytes (first second third : UInt8) (continues : first &&& 0x1F = 0x1F)
    (goesOn : 0x80 ≤ second) :
    Canonical (65536 * first.toNat + 256 * second.toNat + third.toNat)

namespace Tag

/-- The first byte of a tag that goes on is not zero. -/
theorem pos_of_continues {first : UInt8} (continues : first &&& 0x1F = 0x1F) :
    0 < first.toNat := by
  apply Nat.pos_of_ne_zero
  intro zero
  have blank : first = 0 := UInt8.toNat_inj.mp zero
  rw [blank] at continues
  exact absurd continues (by decide)

/-- The highest bit of a byte says whether the byte is below `80`. -/
theorem highBit_eq_zero_iff (b : UInt8) : b &&& 0x80 = 0 ↔ b < 0x80 := by
  have table : ∀ n, n < 256 → (UInt8.ofNat n &&& 0x80 = 0 ↔ UInt8.ofNat n < 0x80) := by
    decide +kernel
  have entry := table b.toNat b.toNat_lt
  rwa [UInt8.ofNat_toNat] at entry

/-- A byte is the last digit of a number that ends in it. -/
theorem ofNat_mul_add (high : Nat) (low : UInt8) : UInt8.ofNat (256 * high + low.toNat) = low := by
  have bound : low.toNat < 256 := low.toNat_lt
  apply UInt8.toNat_inj.mp
  rw [UInt8.toNat_ofNat']
  omega

/-- A byte is the digit in front of what weighs less than it. -/
theorem ofNat_mul_add_div (high : UInt8) {low weight : Nat} (small : low < weight) :
    UInt8.ofNat ((weight * high.toNat + low) / weight) = high := by
  rw [Nat.mul_add_div (by omega), Nat.div_eq_of_lt small, Nat.add_zero, UInt8.ofNat_toNat]

end Tag

namespace Tlv

variable {tag length : Nat} {value : Bytes}

theorem encodeTag_oneByte (first : UInt8) : encodeTag first.toNat = [first] := by
  have bound : first.toNat < 256 := first.toNat_lt
  rw [encodeTag, if_neg (by omega), if_neg (by omega), UInt8.ofNat_toNat]

theorem encodeTag_twoBytes {first : UInt8} (second : UInt8) (continues : first &&& 0x1F = 0x1F) :
    encodeTag (256 * first.toNat + second.toNat) = [first, second] := by
  have positive := Tag.pos_of_continues continues
  have bound : first.toNat < 256 := first.toNat_lt
  have bound' : second.toNat < 256 := second.toNat_lt
  rw [encodeTag, if_neg (by omega), if_pos (by omega), Tag.ofNat_mul_add_div first bound',
    Tag.ofNat_mul_add]

theorem encodeTag_threeBytes {first : UInt8} (second third : UInt8)
    (continues : first &&& 0x1F = 0x1F) :
    encodeTag (65536 * first.toNat + 256 * second.toNat + third.toNat) =
      [first, second, third] := by
  have positive := Tag.pos_of_continues continues
  have bound' : second.toNat < 256 := second.toNat_lt
  have bound'' : third.toNat < 256 := third.toNat_lt
  have front : UInt8.ofNat ((65536 * first.toNat + 256 * second.toNat + third.toNat) / 65536) =
      first := by
    rw [Nat.add_assoc]
    exact Tag.ofNat_mul_add_div first (by omega)
  have middle : (65536 * first.toNat + 256 * second.toNat + third.toNat) / 256 =
      256 * first.toNat + second.toNat := by omega
  have back : 65536 * first.toNat + 256 * second.toNat + third.toNat =
      256 * (256 * first.toNat + second.toNat) + third.toNat := by omega
  rw [encodeTag, if_pos (by omega), front, middle, Tag.ofNat_mul_add, back, Tag.ofNat_mul_add]

/-- A canonical tag is read back in front of any bytes. -/
theorem readTag_encodeTag (canonical : Tag.Canonical tag) (rest : Bytes) :
    readTag (encodeTag tag ++ rest) = .ok (tag, rest) := by
  cases canonical with
  | oneByte first ends =>
    rw [encodeTag_oneByte]
    simp [readTag, ends]
  | twoBytes first second continues ends =>
    have last : second &&& 0x80 = 0 := (Tag.highBit_eq_zero_iff second).mpr ends
    rw [encodeTag_twoBytes second continues]
    simp [readTag, continues, last]
  | threeBytes first second third continues goesOn =>
    have more : second &&& 0x80 ≠ 0 := fun last =>
      UInt8.not_lt.mpr goesOn ((Tag.highBit_eq_zero_iff second).mp last)
    rw [encodeTag_threeBytes second third continues]
    simp [readTag, continues, more]

/-- A length below 65536 is read back in front of any bytes. -/
theorem readLength_encodeLength (short : length < 65536) (rest : Bytes) :
    readLength (encodeLength length ++ rest) = .ok (length, rest) := by
  unfold encodeLength
  split
  · rename_i small
    have kept : (UInt8.ofNat length).toNat = length :=
      UInt8.toNat_ofNat_of_lt (Nat.lt_trans small (by decide))
    have form : UInt8.ofNat length < 0x80 := by
      rw [UInt8.lt_iff_toNat_lt, kept]
      exact small
    rw [List.singleton_append, readLength, if_pos form, kept]
  · split
    · rename_i byte
      have kept : (UInt8.ofNat length).toNat = length := UInt8.toNat_ofNat_of_lt byte
      simp [readLength, Bytes.isShorter, Bytes.toNat, Numeral.value, kept]
    · have high : (UInt8.ofNat (length / 256)).toNat = length / 256 :=
        UInt8.toNat_ofNat_of_lt (Nat.div_lt_of_lt_mul short)
      have low : (UInt8.ofNat length).toNat = length % 256 := UInt8.toNat_ofNat'
      have joined : length / 256 * 256 + length % 256 = length := by omega
      simp [readLength, Bytes.isShorter, Bytes.toNat, Numeral.value, high, low, joined]

/-- An element is read back in front of any bytes. -/
theorem readElement_encode (canonical : Tag.Canonical tag) (short : value.length < 65536)
    (rest : Bytes) : readElement (encode tag value ++ rest) = .ok (tag, value, rest) := by
  have whole : Bytes.isShorter (value ++ rest) value.length = false := by
    rw [← Bool.not_eq_true, Bytes.isShorter_iff, List.length_append]
    omega
  rw [readElement, encode, List.append_assoc, List.append_assoc, readTag_encodeTag canonical]
  dsimp only
  rw [readLength_encodeLength short]
  dsimp only
  rw [whole, if_neg Bool.false_ne_true, List.take_left, List.drop_left]

/-- An element begins with the first byte of its tag. -/
theorem encode_eq_cons (tag : Nat) (value : Bytes) :
    ∃ more, encode tag value = Tag.firstByte tag :: more := by
  unfold encode encodeTag Tag.firstByte
  split
  · exact ⟨_, rfl⟩
  · split
    · exact ⟨_, rfl⟩
    · exact ⟨_, rfl⟩

/-- What begins with an element that is no filler begins with no filler. -/
theorem head?_encode (first : Tag.firstByte tag ≠ 0x00 ∧ Tag.firstByte tag ≠ 0xFF) (rest : Bytes) :
    (encode tag value ++ rest).head? ≠ some 0x00 ∧ (encode tag value ++ rest).head? ≠ some 0xFF := by
  obtain ⟨more, written⟩ := encode_eq_cons tag value
  rw [written, List.cons_append, List.head?_cons]
  exact ⟨fun same => first.1 (Option.some.inj same), fun same => first.2 (Option.some.inj same)⟩

/-! ## Readers of lists -/

section Readers

variable {data after : Bytes}

theorem readAll_of_readElement (read : readElement data = .ok (tag, value, after)) :
    readAll data = (readAll after).map (leaf tag value :: ·) := by
  cases data with
  | nil => cases read
  | cons first rest =>
    rw [readAll]
    split
    · rename_i failed
      cases failed.symm.trans read
    · rename_i found
      cases found.symm.trans read
      cases readAll after <;> rfl

theorem readAll_nil : readAll [] = .ok [] := by
  rw [readAll]

/-- The strict reader finds an element in front of others. -/
theorem readAll_encode (canonical : Tag.Canonical tag) (short : value.length < 65536)
    (rest : Bytes) :
    readAll (encode tag value ++ rest) = (readAll rest).map (leaf tag value :: ·) :=
  readAll_of_readElement (readElement_encode canonical short rest)

theorem readForest_of_readElement (nested : Bool)
    (first : data.head? ≠ some 0x00 ∧ data.head? ≠ some 0xFF)
    (read : readElement data = .ok (tag, value, after)) :
    readForest nested data =
      .mk tag value (if nested && Tag.isConstructed tag then readForest nested value else []) ::
        readForest nested after := by
  cases data with
  | nil => cases read
  | cons byte rest =>
    have visible : ¬ (byte = 0x00 ∨ byte = 0xFF) := by simpa using first
    rw [readForest, if_neg visible]
    split
    · rename_i failed
      cases failed.symm.trans read
    · rename_i found
      cases found.symm.trans read
      rfl

end Readers

/-! ## Forests -/

/-- Some elements written one after another. -/
def encodeForest (forest : List Tlv) : Bytes :=
  forest.flatMap fun tlv => encode tlv.tag tlv.value

/-- An element that has a written form: a constructed one has its children for its value, another
one has no children. -/
inductive Canonical : Tlv → Prop
  | primitive {tag : Nat} {value : Bytes} (canonical : Tag.Canonical tag)
    (flat : Tag.isConstructed tag = false) (short : value.length < 65536) :
    Canonical (.mk tag value [])
  | constructed {tag : Nat} {children : List Tlv} (canonical : Tag.Canonical tag)
    (nested : Tag.isConstructed tag = true) (below : ∀ child ∈ children, Canonical child)
    (short : (encodeForest children).length < 65536) :
    Canonical (.mk tag (encodeForest children) children)

/-- Neither the element nor one below it begins like filler. -/
inductive Visible : Tlv → Prop
  | mk {tag : Nat} {value : Bytes} {children : List Tlv}
    (first : Tag.firstByte tag ≠ 0x00 ∧ Tag.firstByte tag ≠ 0xFF)
    (below : ∀ child ∈ children, Visible child) : Visible (.mk tag value children)

variable {tlv : Tlv} {forest : List Tlv}

theorem encodeForest_cons (tlv : Tlv) (forest : List Tlv) :
    encodeForest (tlv :: forest) = encode tlv.tag tlv.value ++ encodeForest forest := rfl

theorem encodeForest_append (front back : List Tlv) :
    encodeForest (front ++ back) = encodeForest front ++ encodeForest back :=
  List.flatMap_append

theorem Canonical.readElement (canonical : tlv.Canonical) (rest : Bytes) :
    readElement (encode tlv.tag tlv.value ++ rest) = .ok (tlv.tag, tlv.value, rest) := by
  cases canonical with
  | primitive canonical _ short => exact readElement_encode canonical short rest
  | constructed canonical _ _ short => exact readElement_encode canonical short rest

/-- The strict reader finds the elements at the top. -/
theorem readAll_encodeForest (canonical : ∀ tlv ∈ forest, tlv.Canonical) :
    readAll (encodeForest forest) = .ok (forest.map fun tlv => leaf tlv.tag tlv.value) := by
  induction forest with
  | nil => rw [encodeForest, List.flatMap_nil, readAll_nil, List.map_nil]
  | cons tlv forest ih =>
    have first := canonical tlv List.mem_cons_self
    have others := ih fun other member => canonical other (List.mem_cons_of_mem _ member)
    rw [encodeForest_cons, readAll_of_readElement (first.readElement _), others]
    rfl

/-- The reader that descends finds a forest if it finds each of its trees in front of any bytes. -/
theorem readForest_of_each
    (each : ∀ tlv ∈ forest, ∀ rest,
      readForest true (encode tlv.tag tlv.value ++ rest) = tlv :: readForest true rest) :
    readForest true (encodeForest forest) = forest := by
  induction forest with
  | nil => rw [encodeForest, List.flatMap_nil, readForest]
  | cons tlv forest ih =>
    have others := ih fun other member => each other (List.mem_cons_of_mem _ member)
    rw [encodeForest_cons, each tlv List.mem_cons_self, others]

/-- The reader that descends finds a tree in front of any bytes, as far as nothing in the tree
begins like filler. -/
theorem readForest_encode (canonical : tlv.Canonical) (visible : tlv.Visible) (rest : Bytes) :
    readForest true (encode tlv.tag tlv.value ++ rest) = tlv :: readForest true rest := by
  -- on the tree: what is known of the children is what the value of their parent is read as
  induction canonical generalizing rest with
  | @primitive tag value canonical flat short =>
    obtain ⟨first, -⟩ := visible
    refine (readForest_of_readElement true (head?_encode first rest)
      (readElement_encode canonical short rest)).trans ?_
    rw [flat]
    rfl
  | @constructed tag children canonical nested below short ih =>
    obtain ⟨first, visible⟩ := visible
    have found : readForest true (encodeForest children) = children :=
      readForest_of_each fun child member => ih child member (visible child member)
    refine (readForest_of_readElement true (head?_encode first rest)
      (readElement_encode canonical short rest)).trans ?_
    rw [nested, Bool.and_true, if_pos rfl, found]

/-- The reader that descends finds a forest, as far as nothing in it begins like filler. -/
theorem readForest_encodeForest (canonical : ∀ tlv ∈ forest, tlv.Canonical)
    (visible : ∀ tlv ∈ forest, tlv.Visible) : readForest true (encodeForest forest) = forest :=
  readForest_of_each fun tlv member => readForest_encode (canonical tlv member) (visible tlv member)

/-- What the value of an element is read as, where the children of an element are read. -/
theorem Canonical.readChildren (canonical : tlv.Canonical) (visible : tlv.Visible) :
    (if Tag.isConstructed tlv.tag then readForest true tlv.value else []) = tlv.children := by
  cases canonical with
  | primitive _ flat => exact if_neg (Bool.not_eq_true _ ▸ flat)
  | constructed _ nested below =>
    obtain ⟨-, visible⟩ := visible
    exact (if_pos nested).trans (readForest_encodeForest below visible)

/-- The reader of one element finds it in front of any bytes. -/
theorem Canonical.readSingle (canonical : tlv.Canonical) (nested : Bool) (rest : Bytes) :
    readSingle nested (encode tlv.tag tlv.value ++ rest) = .ok (.mk tlv.tag tlv.value
      (if nested && Tag.isConstructed tlv.tag then readForest nested tlv.value else []), rest) := by
  simp only [Tlv.readSingle, canonical.readElement]

/-- Where it descends, it finds the whole tree, as far as nothing in it begins like filler. -/
theorem Canonical.readSingle_true (canonical : tlv.Canonical) (visible : tlv.Visible)
    (rest : Bytes) : Tlv.readSingle true (encode tlv.tag tlv.value ++ rest) = .ok (tlv, rest) := by
  have children := canonical.readChildren visible
  rw [canonical.readSingle, Bool.true_and, children]
  cases tlv
  rfl

/-- Tag and length stand on six bytes at most. -/
theorem length_encode_le (tag : Nat) (value : Bytes) :
    (encode tag value).length ≤ value.length + 6 := by
  have tagLength : (encodeTag tag).length ≤ 3 := by
    unfold encodeTag
    split
    · exact Nat.le_refl 3
    · split <;> simp
  have lengthLength : (encodeLength value.length).length ≤ 3 := by
    unfold encodeLength
    split
    · simp
    · split <;> simp
  rw [encode, List.length_append, List.length_append]
  omega

end Tlv

/-! ## Builders -/

namespace TlvBuilder

open Tlv

/-- What a builder has written after some operations: elements one after another. -/
inductive Builds : TlvBuilder → List Tlv → Prop
  | empty : Builds .empty []
  | add {builder : TlvBuilder} {forest : List Tlv} (tlv : Tlv) (builds : Builds builder forest) :
    Builds (builder.add tlv.tag tlv.value) (forest ++ [tlv])
  | addRaw {builder other : TlvBuilder} {forest more : List Tlv} (builds : Builds builder forest)
    (written : Builds other more) : Builds (builder.addRaw other.bytes) (forest ++ more)
  | wrap {builder : TlvBuilder} {forest : List Tlv} (tag : Nat) (builds : Builds builder forest) :
    Builds (builder.wrap tag) [.mk tag builder.bytes forest]

/-- The bytes of a builder are the elements that it has written. -/
theorem Builds.bytes_eq {builder : TlvBuilder} {forest : List Tlv} (builds : Builds builder forest) :
    builder.bytes = encodeForest forest := by
  induction builds with
  | empty => rfl
  | add tlv _ ih =>
    rw [encodeForest_append, ← ih, encodeForest_cons, encodeForest, List.flatMap_nil,
      List.append_nil, TlvBuilder.add]
  | addRaw _ _ ih ih' => rw [encodeForest_append, ← ih, ← ih', TlvBuilder.addRaw]
  | wrap tag _ ih =>
    rw [encodeForest_cons, encodeForest, List.flatMap_nil, List.append_nil, TlvBuilder.wrap]
    rfl

/-- Elements can be written one by one. -/
theorem exists_builds (forest : List Tlv) : ∃ builder, Builds builder forest := by
  have onto : ∀ (more front : List Tlv) (builder : TlvBuilder), Builds builder front →
      ∃ builder', Builds builder' (front ++ more) := by
    intro more
    induction more with
    | nil => exact fun front builder builds => ⟨builder, by rwa [List.append_nil]⟩
    | cons tlv more ih =>
      intro front builder builds
      have written := ih _ _ (builds.add tlv)
      rwa [List.append_assoc, List.singleton_append] at written
  exact onto forest [] .empty .empty

end TlvBuilder

namespace Tlv

variable {forest : List Tlv}

/-! ## Round trip -/

/-- Elements that have a written form are read back as they were written, however deep they are.
The strict reader finds tag and value of each element at the top.  The reader of one element finds
it in front of any bytes and leaves these.  Both find what is below an element where they descend,
as far as nothing begins like filler.  And what a builder writes are these encodings. -/
theorem forest_round_trip (canonical : ∀ tlv ∈ forest, tlv.Canonical) :
    readAll (encodeForest forest) = .ok (forest.map fun tlv => leaf tlv.tag tlv.value) ∧
    (∀ tlv ∈ forest, ∀ nested rest, ∃ children,
      readSingle nested (encode tlv.tag tlv.value ++ rest) =
          .ok (.mk tlv.tag tlv.value children, rest) ∧
        (nested = false → children = []) ∧
        (nested = true → tlv.Visible → children = tlv.children)) ∧
    ((∀ tlv ∈ forest, tlv.Visible) → readForest true (encodeForest forest) = forest) ∧
    (∃ builder, TlvBuilder.Builds builder forest) ∧
    ∀ builder, TlvBuilder.Builds builder forest → builder.bytes = encodeForest forest := by
  refine ⟨readAll_encodeForest canonical, fun tlv member nested rest => ?_,
    readForest_encodeForest canonical, TlvBuilder.exists_builds forest,
    fun builder builds => builds.bytes_eq⟩
  refine ⟨_, (canonical tlv member).readSingle nested rest, ?_, ?_⟩
  · rintro rfl
    rfl
  · rintro rfl visible
    exact (canonical tlv member).readChildren visible

/-- A forest with tags on one, two and three bytes, and lengths on one and three bytes. -/
def sampleForest : List Tlv :=
  let children : List Tlv := [leaf 0x5B (Bytes.ascii "Doe<<John"), leaf 0x5F2D (Bytes.ascii "en")]
  [.mk 0x65 (encodeForest children) children, leaf 0x1F8100 (List.replicate 300 0)]

theorem forest_round_trip_sample :
    (∀ tlv ∈ sampleForest, tlv.Canonical) ∧ (∀ tlv ∈ sampleForest, tlv.Visible) ∧
      readAll (encodeForest sampleForest) =
        .ok (sampleForest.map fun tlv => leaf tlv.tag tlv.value) ∧
      readForest true (encodeForest sampleForest) = sampleForest := by
  have name : (leaf 0x5B (Bytes.ascii "Doe<<John")).Canonical :=
    .primitive (.oneByte 0x5B (by decide)) (by decide) (by decide)
  have language : (leaf 0x5F2D (Bytes.ascii "en")).Canonical :=
    .primitive (.twoBytes 0x5F 0x2D (by decide) (by decide)) (by decide) (by decide)
  have short : (List.replicate 300 (0 : UInt8)).length < 65536 := by
    rw [List.length_replicate]
    decide
  have long : (leaf 0x1F8100 (List.replicate 300 0)).Canonical :=
    .primitive (.threeBytes 0x1F 0x81 0x00 (by decide) (by decide)) (by decide) short
  have canonical : ∀ tlv ∈ sampleForest, tlv.Canonical := by
    refine List.forall_mem_cons.mpr ⟨?_, List.forall_mem_singleton.mpr long⟩
    refine .constructed (.oneByte 0x65 (by decide)) (by decide) ?_ (by decide)
    exact List.forall_mem_cons.mpr ⟨name, List.forall_mem_singleton.mpr language⟩
  have visible : ∀ tlv ∈ sampleForest, tlv.Visible := by
    refine List.forall_mem_cons.mpr ⟨.mk (by decide) ?_, List.forall_mem_singleton.mpr ?_⟩
    · exact List.forall_mem_cons.mpr ⟨.mk (by decide) (List.forall_mem_nil _),
        List.forall_mem_singleton.mpr (.mk (by decide) (List.forall_mem_nil _))⟩
    · exact .mk (by decide) (List.forall_mem_nil _)
  obtain ⟨top, -, trees, -⟩ := forest_round_trip canonical
  exact ⟨canonical, visible, top, trees visible⟩

end Tlv

end PgpCard
