import PgpCard.CardError
import PgpCard.Key.Import
import PgpCard.Proofs.Guarded.Elements

/-!
# A key import is taken apart within range

An extended header list announces the lengths of the parts of a key, each a number of up to four
bytes that the host chooses.

* `Guarded.declared` adds the announced lengths up; `declared_eq` : the sum does not overflow,
  because there are fewer lengths than bytes that announce them (`total_le`).
* `Guarded.collect` cuts one part after another out of the data; `collect_eq` : as far as the
  lengths add up to no more than there is, every piece is in range.
* `Guarded.parse_eq` : whatever the host sends, the list is read within range, and what is found is
  what `ImportTemplate.parse?` finds.
-/

set_option autoImplicit false

namespace PgpCard.Guarded

open ImportTemplate (exponentTag pTag qTag lastPartTag total cut part? parts? children? parse?)

variable {ε α : Type}

/-- A header list is refused. -/
def invalid : Halt CardError := .failed .dataInvalid

/-- Refuses a header list that lacks something. -/
def orInvalid (found : Option α) : Except (Halt CardError) α :=
  match found with
  | some a => .ok a
  | none => .error invalid

@[simp] theorem orInvalid_some (a : α) : orInvalid (some a) = .ok a := rfl

/-! ## Announced lengths -/

/-- The sum of announced lengths and of those before them. -/
def declared : List (Nat × Nat) → Nat → Except (Halt ε) Nat
  | [], sum => .ok sum
  | (_, length) :: rest, sum => do declared rest (← add wordSize sum length)

theorem declared_eq {lengths : List (Nat × Nat)} {sum : Nat}
    (short : sum + total lengths < wordSize) :
    (declared lengths sum : Except (Halt ε) Nat) = .ok (sum + total lengths) := by
  induction lengths generalizing sum with
  | nil => rfl
  | cons pair rest ih =>
    have split : total (pair :: rest) = pair.2 + total rest := rfl
    rw [split, ← Nat.add_assoc] at short ⊢
    rw [declared, add_of_lt (by omega)]
    exact ih short

/-- Each length is announced by some bytes and is less than a number of four bytes can be. -/
theorem total_le {data : Bytes} {lengths : List (Nat × Nat)}
    (read : Tlv.readTagLengths data = .ok lengths) :
    total lengths ≤ data.length * UInt32.size := by
  fun_induction Tlv.readTagLengths data generalizing lengths with
  | case1 =>
    cases read
    exact Nat.zero_le _
  | case2 | case3 => cases read
  | case4 => cases read
  | case5 first rest tag afterTag tagged length after measured fewer fewer' pairs others ih =>
    cases read
    have small := lt_of_readLength measured
    have others_le := ih others
    have split : total ((tag, length) :: pairs) = length + total pairs := rfl
    have count : (after.length + 1) * UInt32.size ≤ (first :: rest).length * UInt32.size :=
      Nat.mul_le_mul_right _ (by omega)
    rw [Nat.succ_mul] at count
    omega

/-! ## Parts -/

/-- The parts of a key that have been found. -/
structure Found where
  exponent : Option Bytes := none
  p : Option Bytes := none
  q : Option Bytes := none
  deriving DecidableEq, Repr

/-- Keeps a part that the card asks for, and passes over one that it finds again from the others. -/
def Found.keep? (found : Found) (tag : Nat) (value : Bytes) : Option Found :=
  if tag = exponentTag then some { found with exponent := some value }
  else if tag = pTag then some { found with p := some value }
  else if tag = qTag then some { found with q := some value }
  else if qTag < tag ∧ tag ≤ lastPartTag then some found
  else none

/-- Cuts the parts of the announced lengths out of the data, one after another. -/
def collect (data : Bytes) : List (Nat × Nat) → Nat → Found → Except (Halt CardError) Found
  | [], _, found => .ok found
  | (tag, length) :: rest, position, found => do
    let value ← slice data position (← add wordSize position length)
    let position ← add wordSize position length
    collect data rest position (← orInvalid (found.keep? tag value))

/-- The last part with a tag. -/
def last? (tag : Nat) (parts : List (Nat × Bytes)) : Option Bytes :=
  (parts.reverse.find? (·.1 == tag)).map (·.2)

/-- What has been found once some parts more are looked at. -/
def Found.after (found : Found) (parts : List (Nat × Bytes)) : Found where
  exponent := (last? exponentTag parts).or found.exponent
  p := (last? pTag parts).or found.p
  q := (last? qTag parts).or found.q

/-- The tags that may announce a part. -/
def known (lengths : List (Nat × Nat)) : Bool :=
  lengths.all fun (tag, _) => exponentTag ≤ tag && tag ≤ lastPartTag

theorem last?_cons (tag : Nat) (part : Nat × Bytes) (parts : List (Nat × Bytes)) :
    last? tag (part :: parts) =
      (last? tag parts).or (if part.1 = tag then some part.2 else none) := by
  rw [last?, last?, List.reverse_cons, List.find?_append, List.find?_singleton, Option.map_or]
  by_cases same : part.1 = tag <;> simp [same]

/-- A part that is kept is the last one with its tag until another one follows. -/
theorem Found.keep?_of_known {tag : Nat} (isPart : exponentTag ≤ tag ∧ tag ≤ lastPartTag)
    (found : Found) (value : Bytes) :
    ∃ found', found.keep? tag value = some found' ∧
      ∀ parts, found'.after parts = found.after ((tag, value) :: parts) := by
  obtain ⟨low, high⟩ : 0x91 ≤ tag ∧ tag ≤ 0x97 := isPart
  have exponent_ne_p : exponentTag ≠ pTag := by decide
  have exponent_ne_q : exponentTag ≠ qTag := by decide
  have p_ne_q : pTag ≠ qTag := by decide
  unfold keep?
  split
  · rename_i same
    refine ⟨_, rfl, fun parts => ?_⟩
    simp [after, last?_cons, same, exponent_ne_p, exponent_ne_q]
  split
  · rename_i same
    refine ⟨_, rfl, fun parts => ?_⟩
    simp [after, last?_cons, same, exponent_ne_p.symm, p_ne_q]
  split
  · rename_i same
    refine ⟨_, rfl, fun parts => ?_⟩
    simp [after, last?_cons, same, exponent_ne_q.symm, p_ne_q.symm]
  split
  · rename_i notExponent notP notQ other
    refine ⟨_, rfl, fun parts => ?_⟩
    simp [after, last?_cons, notExponent, notP, notQ]
  · rename_i notExponent notP notQ other
    simp only [exponentTag, pTag, qTag, lastPartTag] at notExponent notP notQ other
    omega

theorem Found.keep?_of_unknown {tag : Nat} (unknown : ¬ (exponentTag ≤ tag ∧ tag ≤ lastPartTag))
    (found : Found) (value : Bytes) : found.keep? tag value = none := by
  simp only [exponentTag, lastPartTag] at unknown
  unfold keep? exponentTag pTag qTag lastPartTag
  rw [if_neg (by omega), if_neg (by omega), if_neg (by omega), if_neg (by omega)]

/-- As far as the announced lengths add up to no more than there is, every part is in range. -/
theorem collect_eq {data : Bytes} {lengths : List (Nat × Nat)} {position : Nat} (found : Found)
    (short : data.length < wordSize) (inside : position + total lengths ≤ data.length) :
    collect data lengths position found =
      if known lengths then .ok (found.after (cut lengths (data.drop position)))
      else .error invalid := by
  induction lengths generalizing position found with
  | nil => rfl
  | cons pair rest ih =>
    obtain ⟨tag, length⟩ := pair
    have split : total ((tag, length) :: rest) = length + total rest := rfl
    rw [split, ← Nat.add_assoc] at inside
    have within : position + length ≤ data.length := by omega
    have piece : (data.take (position + length)).drop position =
        (data.drop position).take length := by
      rw [List.drop_take, Nat.add_sub_cancel_left]
    have parts : cut ((tag, length) :: rest) (data.drop position) =
        (tag, (data.drop position).take length) :: cut rest (data.drop (position + length)) := by
      rw [cut, List.drop_drop]
    rw [collect, add_of_lt (by omega), parts]
    simp only [bind, Except.bind, slice_of_le (Nat.le_add_right _ _) within, piece]
    by_cases isPart : exponentTag ≤ tag ∧ tag ≤ lastPartTag
    · obtain ⟨found', kept, same⟩ :=
        found.keep?_of_known isPart ((data.drop position).take length)
      have knows : known ((tag, length) :: rest) = known rest := by
        simp [known, isPart]
      rw [kept, knows, ← same]
      exact ih found' inside
    · have knows : known ((tag, length) :: rest) = false := by
        simp only [known, List.all_cons, Bool.and_eq_false_iff]
        left
        rcases Classical.not_and_iff_not_or_not.mp isPart with low | high
        · simp [low]
        · simp [high]
      rw [found.keep?_of_unknown isPart, knows]
      rfl

/-- The template of a slot, if all parts are found and none is empty. -/
def complete (slot : SlotId) (found : Found) : Except (Halt CardError) ImportTemplate :=
  match found with
  | ⟨some exponent, some p, some q⟩ =>
    if exponent.isEmpty || p.isEmpty || q.isEmpty then .error invalid
    else .ok { slot, exponent, p, q }
  | _ => .error invalid

/-- The template of a slot from the data of an element, cut by announced lengths. -/
def assemble (slot : SlotId) (lengths : List (Nat × Nat)) (data : Bytes) :
    Except (Halt CardError) ImportTemplate := do
  if (← declared lengths 0) ≠ data.length then
    throw invalid
  complete slot (← collect data lengths 0 {})

theorem complete_eq (slot : SlotId) (found : Found) :
    complete slot found = orInvalid (do
      return {
        slot
        exponent := ← found.exponent.filter (!·.isEmpty)
        p := ← found.p.filter (!·.isEmpty)
        q := ← found.q.filter (!·.isEmpty) }) := by
  obtain ⟨exponent, p, q⟩ := found
  rcases exponent with _ | exponent
  · rfl
  cases noExponent : exponent.isEmpty with
  | true => cases p <;> cases q <;> simp [complete, orInvalid, Option.filter_some, noExponent]
  | false =>
    rcases p with _ | p
    · simp [complete, orInvalid, Option.filter_some, noExponent]
    cases noP : p.isEmpty with
    | true => cases q <;> simp [complete, orInvalid, Option.filter_some, noExponent, noP]
    | false =>
      rcases q with _ | q
      · simp [complete, orInvalid, Option.filter_some, noExponent, noP]
      cases noQ : q.isEmpty <;>
        simp [complete, orInvalid, Option.filter_some, noExponent, noP, noQ]

theorem part?_eq_last? (tag : Nat) (parts : List (Nat × Bytes)) :
    part? tag parts = (last? tag parts).filter (!·.isEmpty) := by
  unfold part? last?
  cases parts.reverse.find? (·.1 == tag) with
  | none => rfl
  | some part =>
    cases empty : part.2.isEmpty <;> simp [empty, Option.filter_some]

theorem assemble_eq (slot : SlotId) {lengths : List (Nat × Nat)} {data : Bytes}
    (few : total lengths < wordSize) (short : data.length < wordSize) :
    assemble slot lengths data = orInvalid (do
      let parts ← parts? lengths data
      return {
        slot
        exponent := ← part? exponentTag parts
        p := ← part? pTag parts
        q := ← part? qTag parts }) := by
  have sum : (declared lengths 0 : Except (Halt CardError) Nat) = .ok (0 + total lengths) :=
    declared_eq (by rwa [Nat.zero_add])
  unfold assemble parts?
  simp only [sum, Nat.zero_add, bind, Except.bind]
  split
  · rfl
  · rename_i all
    have all := Classical.not_not.mp all
    have same : known lengths =
        (lengths.all fun (tag, _) => exponentTag ≤ tag && tag ≤ lastPartTag) := rfl
    rw [collect_eq {} short (by omega), List.drop_zero, ← same]
    cases known lengths with
    | false => rfl
    | true =>
      simp only [↓reduceIte, complete_eq, Found.after, Option.or_none, part?_eq_last?,
        Option.bind_some]
      rfl

/-! ## The list -/

/-- A header list that cannot be read is refused. -/
def refused : Halt TlvError → Halt CardError := Halt.map fun _ => .dataInvalid

/-- The children of an extended header list. -/
def children (data : Bytes) : Except (Halt CardError) (List Tlv) := do
  let (tag, value, _) ← (readElement data).mapError refused
  if tag ≠ ImportTemplate.headerListTag then
    throw invalid
  (readAll value).mapError refused

/-- The parts that an extended header list holds. -/
def parse (data : Bytes) : Except (Halt CardError) ImportTemplate := do
  let children ← children data
  let slot ← orInvalid (children.head?.bind fun template => SlotId.ofTag? template.tag)
  let announced ← orInvalid (children.find? (·.tag == ImportTemplate.lengthsTag))
  let lengths ← (readTagLengths announced.value).mapError refused
  let keyData ← orInvalid (children.find? (·.tag == ImportTemplate.partsTag))
  assemble slot lengths keyData.value

theorem refused_eq (result : Except TlvError α) :
    (result.mapError .failed).mapError refused = orInvalid result.toOption := by
  cases result <;> rfl

theorem children_eq {data : Bytes} (short : data.length < maxLength) :
    children data = orInvalid (children? data) := by
  unfold children children?
  rw [readElement_eq short]
  cases element : Tlv.readElement data with
  | error e => rfl
  | ok read =>
    obtain ⟨tag, value, rest⟩ := read
    have inner := Tlv.readElement_lt element
    simp only [mapError_ok, bind, Except.bind]
    by_cases header : tag = ImportTemplate.headerListTag
    · rw [if_neg (not_not_intro header), if_pos header, readAll_eq (by omega)]
      exact refused_eq _
    · rw [if_pos header, if_neg header]
      rfl

/-- The children of a list are shorter than the list. -/
theorem length_value_of_children? {data : Bytes} {tlvs : List Tlv}
    (found : children? data = some tlvs) : ∀ tlv ∈ tlvs, tlv.value.length < data.length := by
  unfold children? at found
  cases element : Tlv.readElement data with
  | error e => simp [element] at found
  | ok read =>
    obtain ⟨tag, value, rest⟩ := read
    have inner := Tlv.readElement_lt element
    simp only [element] at found
    split at found
    · cases all : Tlv.readAll value with
      | error e => simp [all, Except.toOption] at found
      | ok within =>
        cases (by simpa [all, Except.toOption] using found : within = tlvs)
        intro tlv member
        have := length_value_of_readAll all tlv member
        omega
    · cases found

/-- Lengths that some bytes announce add up to a number of the machine. -/
theorem total_lt {data : Bytes} {lengths : List (Nat × Nat)} (short : data.length < UInt32.size)
    (read : Tlv.readTagLengths data = .ok lengths) : total lengths < wordSize := by
  have product : data.length * UInt32.size < UInt32.size * UInt32.size :=
    Nat.mul_lt_mul_of_pos_right short (by decide)
  have word : UInt32.size * UInt32.size ≤ wordSize := by decide
  have := total_le read
  omega

/-- Whatever the host sends, a header list is read within range. -/
theorem parse_eq {data : Bytes} (short : data.length < UInt32.size) :
    parse data = orInvalid (parse? data) := by
  have half : UInt32.size ≤ maxLength := by decide
  have word : UInt32.size ≤ wordSize := by decide
  unfold parse parse?
  rw [children_eq (Nat.lt_of_lt_of_le short half)]
  rcases found : children? data with _ | children
  · rfl
  have shorter := length_value_of_children? found
  simp only [orInvalid_some, Option.bind_some, bind, Except.bind]
  rcases children.head?.bind fun template => SlotId.ofTag? template.tag with _ | slot
  · rfl
  rcases announces : children.find? (·.tag == ImportTemplate.lengthsTag) with _ | announced
  · rw [announces]
    rfl
  have inner := shorter announced (List.mem_of_find?_eq_some announces)
  simp only [announces, orInvalid_some, Option.bind_some]
  rw [readTagLengths_eq (by omega), refused_eq]
  rcases announce : Tlv.readTagLengths announced.value with e | lengths
  · rfl
  rcases holds : children.find? (·.tag == ImportTemplate.partsTag) with _ | keyData
  · rw [holds]
    rfl
  have inner' := shorter keyData (List.mem_of_find?_eq_some holds)
  rw [holds]
  exact assemble_eq slot (total_lt (Nat.lt_trans inner short) announce) (by omega)

end PgpCard.Guarded
