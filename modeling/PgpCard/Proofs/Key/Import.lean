import PgpCard.Key.Import
import PgpCard.Proofs.Tlv.Grammar

/-!
# An extended header list is read back

`ImportTemplate.headerList` writes the list that a host sends: the tag of a slot, the tags and
lengths of the parts, and the parts one after another.

* `readTagLengths_announce` : the announced tags and lengths are read back;
* `parts?_announced` : and cut the joined parts into what they were;
* `parse?_headerList` : slot, exponent and factors are found in the list, whatever other parts it
  has and in whatever order they stand.
-/

set_option autoImplicit false

namespace PgpCard

namespace Tlv

variable {tag length : Nat}

/-- Tag and length are read back in front of others. -/
theorem readTagLengths_encode (canonical : Tag.Canonical tag) (short : length < 65536)
    (rest : Bytes) :
    readTagLengths (encodeTag tag ++ encodeLength length ++ rest) =
      (readTagLengths rest).map ((tag, length) :: ·) :=
  readTagLengths_of_header (header_encode canonical short) rest

end Tlv

namespace ImportTemplate

open Tlv

/-- Tags and lengths of some parts. -/
def lengthsOf (parts : List (Nat × Bytes)) : List (Nat × Nat) :=
  parts.map fun part => (part.1, part.2.length)

/-- Tags and lengths of some parts, as they are announced. -/
def announce (parts : List (Nat × Bytes)) : Bytes :=
  (lengthsOf parts).flatMap fun pair => encodeTag pair.1 ++ encodeLength pair.2

/-- The parts one after another. -/
def joined (parts : List (Nat × Bytes)) : Bytes :=
  parts.flatMap Prod.snd

/-- What an extended header list holds. -/
def headerListValue (slotTag : Nat) (parts : List (Nat × Bytes)) : TlvBuilder :=
  ((TlvBuilder.empty.add slotTag []).add lengthsTag (announce parts)).add partsTag (joined parts)

/-- An extended header list with the tag of a slot and some parts. -/
def headerList (slotTag : Nat) (parts : List (Nat × Bytes)) : Bytes :=
  ((headerListValue slotTag parts).wrap headerListTag).bytes

/-- The tags of parts. -/
def IsPartTag (tag : Nat) : Prop := exponentTag ≤ tag ∧ tag ≤ lastPartTag

variable {slotTag : Nat} {slot : SlotId} {parts : List (Nat × Bytes)}

/-- The tags of parts stand on one byte. -/
theorem IsPartTag.canonical {tag : Nat} (isPart : IsPartTag tag) : Tag.Canonical tag := by
  obtain ⟨low, high⟩ : 0x91 ≤ tag ∧ tag ≤ 0x97 := isPart
  have table : ∀ n, n < 256 → 0x91 ≤ n → n ≤ 0x97 → UInt8.ofNat n &&& 0x1F ≠ 0x1F := by
    decide +kernel
  have byte : tag < 256 := by omega
  have kept : (UInt8.ofNat tag).toNat = tag := UInt8.toNat_ofNat_of_lt byte
  rw [← kept]
  exact .oneByte _ (table tag byte low high)

theorem headerListTag_canonical : Tag.Canonical headerListTag := .oneByte 0x4D (by decide)

theorem lengthsTag_canonical : Tag.Canonical lengthsTag :=
  .twoBytes 0x7F 0x48 (by decide) (by decide)

theorem partsTag_canonical : Tag.Canonical partsTag :=
  .twoBytes 0x5F 0x48 (by decide) (by decide)

/-- The tags of slots stand on one byte, too. -/
theorem slotTag_canonical (named : SlotId.ofTag? slotTag = some slot) :
    Tag.Canonical slotTag := by
  unfold SlotId.ofTag? at named
  split at named
  · rename_i same
    rw [same]
    exact .oneByte 0xB6 (by decide)
  · split at named
    · rename_i same
      rw [same]
      exact .oneByte 0xB8 (by decide)
    · split at named
      · rename_i same
        rw [same]
        exact .oneByte 0xA4 (by decide)
      · cases named

/-! ## Announced lengths -/

theorem joined_cons (part : Nat × Bytes) (rest : List (Nat × Bytes)) :
    joined (part :: rest) = part.2 ++ joined rest := rfl

theorem lengthsOf_cons (part : Nat × Bytes) (rest : List (Nat × Bytes)) :
    lengthsOf (part :: rest) = (part.1, part.2.length) :: lengthsOf rest := rfl

theorem announce_cons (part : Nat × Bytes) (rest : List (Nat × Bytes)) :
    announce (part :: rest) =
      encodeTag part.1 ++ encodeLength part.2.length ++ announce rest := rfl

/-- The announced tags and lengths are read back. -/
theorem readTagLengths_announce (tags : ∀ part ∈ parts, IsPartTag part.1)
    (short : (joined parts).length < 65536) :
    readTagLengths (announce parts) = .ok (lengthsOf parts) := by
  induction parts with
  | nil =>
    show readTagLengths [] = .ok []
    rw [readTagLengths]
  | cons part rest ih =>
    have canonical := (tags part List.mem_cons_self).canonical
    rw [joined_cons, List.length_append] at short
    have others := ih (fun other member => tags other (List.mem_cons_of_mem _ member)) (by omega)
    rw [announce_cons, readTagLengths_encode canonical (by omega), others]
    rfl

theorem total_lengthsOf (parts : List (Nat × Bytes)) :
    total (lengthsOf parts) = (joined parts).length := by
  induction parts with
  | nil => rfl
  | cons part rest ih => rw [lengthsOf_cons, total, ih, joined_cons, List.length_append]

theorem cut_joined (parts : List (Nat × Bytes)) :
    cut (lengthsOf parts) (joined parts) = parts := by
  induction parts with
  | nil => rfl
  | cons part rest ih =>
    rw [lengthsOf_cons, joined_cons, cut, List.take_left, List.drop_left, ih]

/-- The announced lengths cut the joined parts into what they were. -/
theorem parts?_announced (tags : ∀ part ∈ parts, IsPartTag part.1) :
    parts? (lengthsOf parts) (joined parts) = some parts := by
  unfold parts?
  rw [if_neg (fun differs => differs (total_lengthsOf parts))]
  split
  · rw [cut_joined]
  · rename_i unknown
    refine absurd ?_ unknown
    rw [lengthsOf, List.all_map, List.all_eq_true]
    intro part member
    obtain ⟨low, high⟩ := tags part member
    simp [low, high]

/-! ## The list -/

theorem lengths_lt (short : (headerList slotTag parts).length < 65536) :
    (headerListValue slotTag parts).bytes.length < 65536 ∧
      (announce parts).length < 65536 ∧ (joined parts).length < 65536 := by
  have whole : (headerListValue slotTag parts).bytes.length < 65536 := by
    have written : headerList slotTag parts =
        encode headerListTag (headerListValue slotTag parts).bytes := rfl
    rw [written, encode, List.length_append] at short
    omega
  refine ⟨whole, ?_⟩
  simp only [headerListValue, TlvBuilder.add, encode, List.length_append] at whole
  constructor <;> omega

/-- The elements of a header list. -/
theorem children?_headerList (named : SlotId.ofTag? slotTag = some slot)
    (short : (headerList slotTag parts).length < 65536) :
    children? (headerList slotTag parts) =
      some [leaf slotTag [], leaf lengthsTag (announce parts), leaf partsTag (joined parts)] := by
  obtain ⟨whole, announced, together⟩ := lengths_lt short
  have outer := readElement_encode headerListTag_canonical whole []
  rw [List.append_nil] at outer
  have elements : (headerListValue slotTag parts).bytes =
      encode slotTag [] ++ (encode lengthsTag (announce parts) ++
        (encode partsTag (joined parts) ++ [])) := by
    simp only [headerListValue, TlvBuilder.add, TlvBuilder.empty, List.nil_append,
      List.append_assoc, List.append_nil]
  have inner : readAll (headerListValue slotTag parts).bytes =
      .ok [leaf slotTag [], leaf lengthsTag (announce parts), leaf partsTag (joined parts)] := by
    rw [elements, readAll_encode (slotTag_canonical named) (by decide),
      readAll_encode lengthsTag_canonical announced, readAll_encode partsTag_canonical together,
      readAll_nil]
    rfl
  unfold children?
  rw [show headerList slotTag parts =
    encode headerListTag (headerListValue slotTag parts).bytes from rfl, outer]
  dsimp only
  rw [if_pos rfl, inner]
  rfl

/-- Slot, exponent and factors are found in a header list. -/
theorem parse?_headerList (named : SlotId.ofTag? slotTag = some slot)
    (tags : ∀ part ∈ parts, IsPartTag part.1)
    (short : (headerList slotTag parts).length < 65536) {exponent p q : Bytes}
    (exponentFound : part? exponentTag parts = some exponent)
    (pFound : part? pTag parts = some p) (qFound : part? qTag parts = some q) :
    parse? (headerList slotTag parts) = some { slot, exponent, p, q } := by
  obtain ⟨-, -, together⟩ := lengths_lt short
  have notLengths : (slotTag == lengthsTag) = false := by
    rw [beq_eq_false_iff_ne]
    rintro rfl
    cases named
  have notParts : (slotTag == partsTag) = false := by
    rw [beq_eq_false_iff_ne]
    rintro rfl
    cases named
  have announced : [leaf slotTag [], leaf lengthsTag (announce parts), leaf partsTag (joined parts)].find?
      (·.tag == lengthsTag) = some (leaf lengthsTag (announce parts)) := by
    rw [List.find?_cons_of_neg (by simpa [leaf, tag] using notLengths), List.find?_cons_of_pos rfl]
  have data : [leaf slotTag [], leaf lengthsTag (announce parts), leaf partsTag (joined parts)].find?
      (·.tag == partsTag) = some (leaf partsTag (joined parts)) := by
    rw [List.find?_cons_of_neg (by simpa [leaf, tag] using notParts),
      List.find?_cons_of_neg (by simp [leaf, tag, lengthsTag, partsTag]),
      List.find?_cons_of_pos rfl]
  have lengths := readTagLengths_announce tags together
  unfold parse?
  rw [children?_headerList named short]
  simp only [Option.bind_eq_bind, Option.bind_some, List.head?_cons, announced, data]
  simp only [leaf, tag, value, named, lengths, Except.toOption, Option.bind_some,
    parts?_announced tags, exponentFound, pFound, qFound]
  rfl

/-- The parts of an imported key that the card asks for: public exponent and factors. -/
def rsaParts (exponent p q : Bytes) : List (Nat × Bytes) :=
  [(exponentTag, exponent), (pTag, p), (qTag, q)]

theorem part?_eq {tag : Nat} (found : Nat × Bytes)
    (last : parts.reverse.find? (·.1 == tag) = some found) (nonempty : found.2 ≠ []) :
    part? tag parts = some found.2 := by
  unfold part?
  rw [last]
  dsimp only
  rw [if_neg (by rwa [List.isEmpty_iff])]

theorem parse?_rsaParts (named : SlotId.ofTag? slotTag = some slot) {exponent p q : Bytes}
    (short : (headerList slotTag (rsaParts exponent p q)).length < 65536)
    (exponentGiven : exponent ≠ []) (pGiven : p ≠ []) (qGiven : q ≠ []) :
    parse? (headerList slotTag (rsaParts exponent p q)) = some { slot, exponent, p, q } := by
  have tags : ∀ part ∈ rsaParts exponent p q, IsPartTag part.1 := by
    have first : IsPartTag exponentTag := ⟨by decide, by decide⟩
    have second : IsPartTag pTag := ⟨by decide, by decide⟩
    have third : IsPartTag qTag := ⟨by decide, by decide⟩
    exact List.forall_mem_cons.mpr ⟨first,
      List.forall_mem_cons.mpr ⟨second, List.forall_mem_singleton.mpr third⟩⟩
  exact parse?_headerList named tags short
    (part?_eq (exponentTag, exponent) rfl exponentGiven) (part?_eq (pTag, p) rfl pGiven)
    (part?_eq (qTag, q) rfl qGiven)

end ImportTemplate

end PgpCard
