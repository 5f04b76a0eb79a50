import Mathlib.Algebra.GroupWithZero.Nat
import PgpCard.Key.Slots
import PgpCard.Proofs.Guarded.Import
import PgpCard.Proofs.Key.Import
import PgpCard.Proofs.Tlv.Grammar
import PgpCard.Store.Memory

/-!
# Which key imports are accepted

* `LastPart`, `Cuts` : the parts that tags and lengths cut out of the data of a key;
* `Accepted` : the byte strings that say what key to import into what slot;
* `parse?_eq_some_iff` : these are read as what they say, and no others are read;
* `parse?_of_complete` : the parts of a key are found in whatever order they are announced;
* `import_accepted_exactly` : all of it together.
-/

set_option autoImplicit false

namespace PgpCard.ImportTemplate

open Tlv
open Guarded (last? last?_cons part?_eq_last?)

variable {tag : Nat} {lengths : List (Nat × Nat)} {data part : Bytes}

/-- The last pair with a tag announces a part, and the part stands behind as many bytes as the pairs
before it announce. -/
inductive LastPart (tag : Nat) (lengths : List (Nat × Nat)) (data part : Bytes) : Prop
  | mk (before after : List (Nat × Nat)) (front back : Bytes)
    (announced : lengths = before ++ (tag, part.length) :: after)
    (last : ∀ pair ∈ after, pair.1 ≠ tag)
    (offset : front.length = (before.map (·.2)).sum)
    (stands : data = front ++ part ++ back) : LastPart tag lengths data part

/-- Some pairs name parts of a key alone and cut all of the data into these; a template has the last
exponent and the last two factors among them, and none of these is empty. -/
structure Cuts (lengths : List (Nat × Nat)) (data : Bytes) (template : ImportTemplate) : Prop where
  known : ∀ pair ∈ lengths, 0x91 ≤ pair.1 ∧ pair.1 ≤ 0x97
  filled : (lengths.map (·.2)).sum = data.length
  exponent : LastPart 0x91 lengths data template.exponent
  p : LastPart 0x92 lengths data template.p
  q : LastPart 0x93 lengths data template.q
  nonempty : template.exponent ≠ [] ∧ template.p ≠ [] ∧ template.q ≠ []

/-- Some bytes begin with an extended header list of some elements: the first names the slot, the
first with tag `7F48` announces what the first with tag `5F48` is cut into. -/
inductive Accepted (data : Bytes) (template : ImportTemplate) : Prop
  | mk {header value rest : Bytes} {tlvs : List Tlv} {first announced keyData : Tlv}
    {lengths : List (Nat × Nat)} (list : Header 0x4D value.length header)
    (begins : data = header ++ value ++ rest) (elements : Elements value tlvs)
    (leads : tlvs.head? = some first) (names : SlotId.ofTag? first.tag = some template.slot)
    (announces : tlvs.find? (·.tag == 0x7F48) = some announced)
    (pairs : TagLengths announced.value lengths)
    (holds : tlvs.find? (·.tag == 0x5F48) = some keyData)
    (cuts : Cuts lengths keyData.value template) : Accepted data template

/-! ## Parts -/

theorem total_eq_sum (lengths : List (Nat × Nat)) : total lengths = (lengths.map (·.2)).sum := by
  induction lengths with
  | nil => rfl
  | cons pair rest ih => rw [total, ih, List.map_cons, List.sum_cons]

theorem map_fst_cut (lengths : List (Nat × Nat)) (data : Bytes) :
    (cut lengths data).map (·.1) = lengths.map (·.1) := by
  induction lengths generalizing data with
  | nil => rfl
  | cons pair rest ih => rw [cut, List.map_cons, List.map_cons, ih]

theorem last?_cut_eq_none_iff :
    last? tag (cut lengths data) = none ↔ ∀ pair ∈ lengths, pair.1 ≠ tag := by
  rw [last?, Option.map_eq_none_iff, List.find?_eq_none]
  simp only [List.mem_reverse, beq_iff_eq]
  rw [← List.forall_mem_map (f := Prod.fst) (P := (· ≠ tag)), map_fst_cut, List.forall_mem_map]

/-- The last part with a tag is the last one behind the first pair, or the first if no other has the
tag. -/
theorem lastPart_cons_iff {name length : Nat} (enough : length ≤ data.length) :
    LastPart tag ((name, length) :: lengths) data part ↔
      LastPart tag lengths (data.drop length) part ∨
        (∀ pair ∈ lengths, pair.1 ≠ tag) ∧ name = tag ∧ data.take length = part := by
  constructor
  · rintro ⟨before, after, front, back, announced, last, offset, stands⟩
    cases before with
    | nil =>
      obtain ⟨⟨rfl, rfl⟩, rfl⟩ : (name = tag ∧ length = part.length) ∧ lengths = after := by
        simpa using announced
      obtain rfl := List.eq_nil_of_length_eq_zero offset
      exact .inr ⟨last, rfl, by rw [stands, List.nil_append, List.take_left]⟩
    | cons pair before =>
      rw [List.cons_append, List.cons.injEq] at announced
      obtain ⟨rfl, rfl⟩ := announced
      rw [List.map_cons, List.sum_cons] at offset
      refine .inl (.mk before after (front.drop length) back rfl last ?_ ?_)
      · rw [List.length_drop, offset, Nat.add_sub_cancel_left]
      · rw [stands, List.append_assoc, List.drop_append_of_le_length (by omega), List.append_assoc]
  · rintro (⟨before, after, front, back, announced, last, offset, stands⟩ | ⟨last, rfl, rfl⟩)
    · refine .mk ((name, length) :: before) after (data.take length ++ front) back
        (by rw [announced, List.cons_append]) last ?_ ?_
      · rw [List.length_append, List.length_take_of_le enough, offset, List.map_cons,
          List.sum_cons]
      · rw [List.append_assoc, List.append_assoc, ← List.append_assoc front, ← stands,
          List.take_append_drop]
    · refine .mk [] lengths [] (data.drop length) ?_ last rfl ?_
      · rw [List.length_take_of_le enough, List.nil_append]
      · rw [List.nil_append, List.take_append_drop]

/-- The last part with a tag, as it is found, stands where the pairs before it end. -/
theorem last?_cut (inside : total lengths ≤ data.length) :
    last? tag (cut lengths data) = some part ↔ LastPart tag lengths data part := by
  induction lengths generalizing data with
  | nil =>
    refine ⟨fun found => (by cases found), ?_⟩
    rintro ⟨before, after, front, back, announced, -, -, -⟩
    exact absurd announced.symm (List.append_ne_nil_of_right_ne_nil _ (List.cons_ne_nil _ _))
  | cons pair rest ih =>
    obtain ⟨name, length⟩ := pair
    have split : total ((name, length) :: rest) = length + total rest := rfl
    rw [split] at inside
    have within : total rest ≤ (data.drop length).length := by
      rw [List.length_drop]
      omega
    have missing : last? tag (cut rest (data.drop length)) = none ↔ ∀ pair ∈ rest, pair.1 ≠ tag :=
      last?_cut_eq_none_iff
    rw [lastPart_cons_iff (by omega), ← ih within, ← missing, cut, last?_cons,
      Option.or_eq_some_iff]
    simp only [Option.ite_none_right_eq_some, Option.some.injEq]

theorem part?_eq_some_iff {parts : List (Nat × Bytes)} :
    part? tag parts = some part ↔ last? tag parts = some part ∧ part ≠ [] := by
  rw [part?_eq_last?, Option.filter_eq_some_iff]
  simp

theorem parts?_eq_some_iff {parts : List (Nat × Bytes)} :
    parts? lengths data = some parts ↔
      total lengths = data.length ∧ (∀ pair ∈ lengths, IsPartTag pair.1) ∧
        cut lengths data = parts := by
  unfold parts?
  split
  · rename_i differs
    exact ⟨nofun, fun h => absurd h.1 differs⟩
  rename_i same
  split
  · rename_i known
    simp only [List.all_eq_true, Bool.and_eq_true, decide_eq_true_eq] at known
    exact ⟨fun h => ⟨Classical.not_not.mp same, known, Option.some.inj h⟩,
      fun h => congrArg _ h.2.2⟩
  · rename_i unknown
    refine ⟨nofun, fun h => absurd ?_ unknown⟩
    simp only [List.all_eq_true, Bool.and_eq_true, decide_eq_true_eq]
    exact h.2.1

/-- What the lengths cut out of the data makes a template exactly where it cuts it into one. -/
theorem cuts_iff {template : ImportTemplate} :
    Cuts lengths data template ↔ ∃ parts, parts? lengths data = some parts ∧
      part? exponentTag parts = some template.exponent ∧ part? pTag parts = some template.p ∧
        part? qTag parts = some template.q := by
  simp only [parts?_eq_some_iff, part?_eq_some_iff]
  constructor
  · intro cuts
    have filled : total lengths = data.length := (total_eq_sum lengths).trans cuts.filled
    obtain ⟨exponent, p, q⟩ := cuts.nonempty
    have inside := Nat.le_of_eq filled
    exact ⟨_, ⟨filled, cuts.known, rfl⟩, ⟨(last?_cut inside).mpr cuts.exponent, exponent⟩,
      ⟨(last?_cut inside).mpr cuts.p, p⟩, ⟨(last?_cut inside).mpr cuts.q, q⟩⟩
  · rintro ⟨_, ⟨filled, known, rfl⟩, ⟨exponent, exponent_given⟩, ⟨p, p_given⟩, ⟨q, q_given⟩⟩
    have inside := Nat.le_of_eq filled
    exact ⟨known, (total_eq_sum lengths).symm.trans filled, (last?_cut inside).mp exponent,
      (last?_cut inside).mp p, (last?_cut inside).mp q, exponent_given, p_given, q_given⟩

/-! ## The list -/

theorem children?_eq_some_iff {tlvs : List Tlv} :
    children? data = some tlvs ↔ ∃ header value rest, Header headerListTag value.length header ∧
      data = header ++ value ++ rest ∧ Elements value tlvs := by
  constructor
  · intro found
    unfold children? at found
    split at found
    · cases found
    rename_i tag value rest read
    split at found
    · rename_i same
      obtain ⟨header, stands, begins⟩ := readElement_eq_ok_iff.mp read
      rw [same] at stands
      refine ⟨header, value, rest, stands, begins, readAll_eq_ok_iff.mp ?_⟩
      cases all : readAll value with
      | error e =>
        rw [all] at found
        cases found
      | ok others =>
        rw [all] at found
        cases found
        rfl
    · cases found
  · rintro ⟨header, value, rest, stands, begins, elements⟩
    have read : readElement data = .ok (headerListTag, value, rest) :=
      readElement_eq_ok_iff.mpr ⟨header, stands, begins⟩
    have all : readAll value = .ok tlvs := readAll_eq_ok_iff.mpr elements
    unfold children?
    rw [read]
    dsimp only
    rw [if_pos rfl, all]
    rfl

/-- What is read is what the bytes say, and nothing else is read. -/
theorem parse?_eq_some_iff {template : ImportTemplate} :
    parse? data = some template ↔ Accepted data template := by
  have toOption : ∀ {α : Type} {result : Except TlvError α} {a : α},
      result.toOption = some a ↔ result = .ok a := by
    intro α result a
    cases result <;> simp [Except.toOption]
  simp only [parse?, Option.bind_eq_bind, Option.bind_eq_some_iff, toOption,
    readTagLengths_eq_ok_iff, children?_eq_some_iff]
  constructor
  · rintro ⟨tlvs, ⟨header, value, rest, list, begins, elements⟩, slot, ⟨first, leads, names⟩,
      announced, announces, lengths, pairs, keyData, holds, parts, cut, exponent, exponentFound, p,
      pFound, q, qFound, made⟩
    cases made
    exact .mk list begins elements leads names announces pairs holds
      (cuts_iff.mpr ⟨parts, cut, exponentFound, pFound, qFound⟩)
  · rintro ⟨list, begins, elements, leads, names, announces, pairs, holds, cuts⟩
    obtain ⟨parts, cut, exponentFound, pFound, qFound⟩ := cuts_iff.mp cuts
    exact ⟨_, ⟨_, _, _, list, begins, elements⟩, _, ⟨_, leads, names⟩, _, announces, _, pairs, _,
      holds, parts, cut, _, exponentFound, _, pFound, _, qFound, rfl⟩

/-! ## Parts in any order -/

/-- The parts that the card asks for, and others that it finds again from these. -/
structure Complete (exponent p q : Bytes) (parts : List (Nat × Bytes)) : Prop where
  nonempty : exponent ≠ [] ∧ p ≠ [] ∧ q ≠ []
  order : ∃ others : List (Nat × Bytes), (∀ part ∈ others, 0x94 ≤ part.1 ∧ part.1 ≤ 0x97) ∧
    parts.Perm (rsaParts exponent p q ++ others)

section Complete

variable {parts : List (Nat × Bytes)} {exponent p q : Bytes}

/-- A part is found if it is the only one with its tag. -/
theorem part?_of_unique (member : (tag, part) ∈ parts)
    (unique : ∀ other ∈ parts, other.1 = tag → other = (tag, part)) (nonempty : part ≠ []) :
    part? tag parts = some part := by
  cases found : parts.reverse.find? (·.1 == tag) with
  | none =>
    have missing := List.find?_eq_none.mp found (tag, part) (List.mem_reverse.mpr member)
    exact absurd (beq_self_eq_true tag) missing
  | some other =>
    have same := unique other (List.mem_reverse.mp (List.mem_of_find?_eq_some found))
      (eq_of_beq (List.find?_some found :))
    rw [same] at found
    exact part?_eq (tag, part) found nonempty

theorem Complete.tags (complete : Complete exponent p q parts) :
    ∀ part ∈ parts, IsPartTag part.1 := by
  obtain ⟨others, range, order⟩ := complete.order
  intro part member
  rcases List.mem_append.mp (order.mem_iff.mp member) with asked | other
  · have table : ∀ tag ∈ [exponentTag, pTag, qTag], IsPartTag tag := by
      simp [IsPartTag, exponentTag, pTag, qTag, lastPartTag]
    exact table part.1 (List.mem_map_of_mem (f := Prod.fst) asked)
  · obtain ⟨low, high⟩ := range part other
    exact ⟨Nat.le_trans (by decide) low, high⟩

theorem Complete.part? (complete : Complete exponent p q parts) {tag : Nat} {part : Bytes}
    (asked : (tag, part) ∈ rsaParts exponent p q) (nonempty : part ≠ []) :
    ImportTemplate.part? tag parts = some part := by
  obtain ⟨others, range, order⟩ := complete.order
  refine part?_of_unique (order.mem_iff.mpr (List.mem_append_left _ asked)) ?_ nonempty
  intro other member same
  -- the tags of the parts that are asked for differ, and the others have greater ones
  rcases List.mem_append.mp (order.mem_iff.mp member) with wanted | spare
  · obtain ⟨name, value⟩ := other
    simp only [rsaParts, List.mem_cons, Prod.mk.injEq, List.not_mem_nil, or_false] at asked wanted
    simp only [exponentTag, pTag, qTag] at asked wanted
    dsimp only at same
    obtain ⟨rfl, rfl⟩ | ⟨rfl, rfl⟩ | ⟨rfl, rfl⟩ := asked <;>
      obtain ⟨rfl, rfl⟩ | ⟨rfl, rfl⟩ | ⟨rfl, rfl⟩ := wanted <;>
      first | rfl | exact absurd same (by decide)
  · obtain ⟨low, -⟩ := range other spare
    simp only [rsaParts, List.mem_cons, Prod.mk.injEq, List.not_mem_nil, or_false] at asked
    simp only [exponentTag, pTag, qTag] at asked
    omega

/-- A complete list is read back, whatever the order of its parts. -/
theorem parse?_of_complete {slotTag : Nat} {slot : SlotId}
    (named : SlotId.ofTag? slotTag = some slot) (complete : Complete exponent p q parts)
    (short : (headerList slotTag parts).length < 65536) :
    parse? (headerList slotTag parts) = some { slot, exponent, p, q } := by
  obtain ⟨exponentGiven, pGiven, qGiven⟩ := complete.nonempty
  exact parse?_headerList named complete.tags short
    (complete.part? (by simp [rsaParts]) exponentGiven) (complete.part? (by simp [rsaParts]) pGiven)
    (complete.part? (by simp [rsaParts]) qGiven)

end Complete

/-! ## Imports -/

/-- An import of what cannot be read is refused and changes nothing. -/
theorem importKey_of_none {σ : Type} [Backend σ] (unread : parse? data = none)
    (keys : Kept KeySlots σ) : KeySlots.importKey data keys = .error .dataInvalid keys := by
  unfold KeySlots.importKey
  rw [unread]
  rfl

/-- A byte string says what key to import exactly if it is an extended header list that cuts its
data into the parts of one, and then it is read as what it says; the import of any other is refused
as invalid.  In particular the list that a host writes is read back, whatever the order of the parts
and whatever else it tells of the key. -/
theorem import_accepted_exactly :
    (∀ data template, parse? data = some template ↔ Accepted data template) ∧
    (∀ (σ : Type) [Backend σ] (data : Bytes) (keys : Kept KeySlots σ),
      (∀ template, ¬ Accepted data template) →
        KeySlots.importKey data keys = .error .dataInvalid keys) ∧
    ∀ slotTag slot exponent p q parts, SlotId.ofTag? slotTag = some slot →
      Complete exponent p q parts → (headerList slotTag parts).length < 65536 →
        parse? (headerList slotTag parts) = some { slot, exponent, p, q } := by
  refine ⟨fun data template => parse?_eq_some_iff, fun σ _ data keys refused => ?_,
    fun slotTag slot exponent p q parts named complete short =>
      parse?_of_complete named complete short⟩
  refine importKey_of_none (Option.eq_none_iff_forall_ne_some.mpr fun template found => ?_) keys
  exact refused template (parse?_eq_some_iff.mp found)

/-- A decryption key whose second factor comes first and that tells its modulus too is read back,
and nothing is no key. -/
theorem import_accepted_exactly_shuffled :
    SlotId.ofTag? 0xB8 = some .decryption ∧
    Complete [1, 0, 1] [0xC1] [0xC3, 0x05] [(0x93, [0xC3, 0x05]), (0x97, []), (0x91, [1, 0, 1]),
      (0x92, [0xC1])] ∧
    parse? (headerList 0xB8 [(0x93, [0xC3, 0x05]), (0x97, []), (0x91, [1, 0, 1]), (0x92, [0xC1])]) =
      some { slot := .decryption, exponent := [1, 0, 1], p := [0xC1], q := [0xC3, 0x05] } ∧
    Accepted (headerList 0xB8 [(0x93, [0xC3, 0x05]), (0x97, []), (0x91, [1, 0, 1]), (0x92, [0xC1])])
      { slot := .decryption, exponent := [1, 0, 1], p := [0xC1], q := [0xC3, 0x05] } ∧
    ∀ keys : Kept KeySlots MemoryStore,
      KeySlots.importKey [] keys = .error .dataInvalid keys := by
  have named : SlotId.ofTag? 0xB8 = some .decryption := by decide
  have complete : Complete [1, 0, 1] [0xC1] [0xC3, 0x05] [(0x93, [0xC3, 0x05]), (0x97, []),
      (0x91, [1, 0, 1]), (0x92, [0xC1])] :=
    ⟨by decide, [(0x97, [])], by decide, by decide⟩
  obtain ⟨exactly, refused, readBack⟩ := import_accepted_exactly
  have found := readBack 0xB8 _ _ _ _ _ named complete (by decide)
  have unread : parse? [] = none := by decide
  have nothing : ∀ template, ¬ Accepted [] template := fun template accepted => by
    cases unread.symm.trans ((exactly [] template).mpr accepted)
  exact ⟨named, complete, found, (exactly _ _).mp found, (refused MemoryStore [] · nothing)⟩

end PgpCard.ImportTemplate
