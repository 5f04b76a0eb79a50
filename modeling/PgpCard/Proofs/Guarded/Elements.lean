import PgpCard.Proofs.Bytes
import PgpCard.Proofs.Guarded.Basic
import PgpCard.Proofs.Tlv.RoundTrip

/-!
# Elements are read within range

The guarded readers look for an element by positions: they count the bytes of its tag and of its
length, add the counts up, and cut the value out between two sums.

* `Counts` relates a reader that counts the bytes it takes to one that leaves the bytes after them;
  `counts_readTag` and `counts_readLength` say that the readers of tags and of lengths are related
  in this way;
* `readElement_eq`, `readAll_eq`, `readTagLengths_eq` : whatever the bytes are, all positions are in
  range, no sum overflows, and what is read is what `Tlv.readElement`, `Tlv.readAll` and
  `Tlv.readTagLengths` read.
-/

set_option autoImplicit false

namespace PgpCard.Guarded

open Tlv (leaf)

/-- The greatest length of a list in memory, in bytes. -/
def maxLength : Nat := wordSize / 2

/-! ## Tags and lengths -/

/-- The tag in front of some bytes, and how many bytes it takes. -/
def readTag (data : Bytes) : Except (Halt TlvError) (Nat × Nat) :=
  match data[0]? with
  | none => .error (.failed .endInTag)
  | some first =>
    if first &&& 0x1F != 0x1F then .ok (first.toNat, 1)
    else
      match data[1]? with
      | none => .error (.failed .endInTag)
      | some second =>
        if second &&& 0x80 == 0 then .ok (256 * first.toNat + second.toNat, 2)
        else
          match data[2]? with
          | none => .error (.failed .endInTag)
          | some third => .ok (65536 * first.toNat + 256 * second.toNat + third.toNat, 3)

/-- The length in front of some bytes, and how many bytes it takes. -/
def readLength (data : Bytes) : Except (Halt TlvError) (Nat × Nat) := do
  match data[0]? with
  | none => throw (.failed .endInLength)
  | some first =>
    if first &&& 0x80 == 0 then
      return (first.toNat, 1)
    let count := (first &&& 0x7F).toNat
    if count = 0 then
      throw (.failed .indefiniteLength)
    if 4 < count then
      throw (.failed (.lengthTooLarge count))
    if data.length < (← add wordSize 1 count) then
      throw (.failed .endInLength)
    let digits ← slice data 1 (count + 1)
    return (Bytes.toNat digits, ← add wordSize 1 count)

/-- A reader that counts the bytes it takes reads what one reads that leaves the bytes after
them. -/
inductive Counts (data : Bytes) :
    Except (Halt TlvError) (Nat × Nat) → Except TlvError (Nat × Bytes) → Prop
  | failed (e : TlvError) : Counts data (.error (.failed e)) (.error e)
  | read {n count : Nat} (small : n < UInt32.size) (some : 0 < count) (few : count ≤ 5)
    (inside : count ≤ data.length) : Counts data (.ok (n, count)) (.ok (n, data.drop count))

theorem counts_readTag (data : Bytes) : Counts data (readTag data) (Tlv.readTag data) := by
  rcases data with _ | ⟨first, rest⟩
  · exact .failed _
  have one := first.toNat_lt
  simp only [readTag, Tlv.readTag, List.getElem?_cons_zero]
  split
  · exact .read (Nat.lt_trans one (by decide)) (by decide) (by decide) (Nat.le_add_left _ _)
  rcases rest with _ | ⟨second, rest⟩
  · exact .failed _
  have two := second.toNat_lt
  simp only [List.getElem?_cons_zero, List.getElem?_cons_succ]
  split
  · refine .read ?_ (by decide) (by decide) (Nat.le_add_left _ _)
    show _ < 4294967296
    omega
  rcases rest with _ | ⟨third, rest⟩
  · exact .failed _
  have three := third.toNat_lt
  refine .read ?_ (by decide) (by decide) (Nat.le_add_left _ _)
  show _ < 4294967296
  omega

theorem count_pos_of_readTag {data : Bytes} {tag count : Nat}
    (h : readTag data = .ok (tag, count)) : 0 < count := by
  have counts := counts_readTag data
  rw [h] at counts
  generalize Tlv.readTag data = plain at counts
  cases counts with
  | read _ positive => exact positive

/-- The low seven bits of a byte whose highest bit is set. -/
theorem toNat_lowBits (b : UInt8) :
    ((b &&& 0x80 == 0) = true ↔ b < 0x80) ∧ (0x80 ≤ b → (b &&& 0x7F).toNat = b.toNat - 128) := by
  have table : ∀ n, n < 256 →
      ((UInt8.ofNat n &&& 0x80 == 0) = true ↔ UInt8.ofNat n < 0x80) ∧
        (0x80 ≤ UInt8.ofNat n → (UInt8.ofNat n &&& 0x7F).toNat = (UInt8.ofNat n).toNat - 128) := by
    decide +kernel
  have entry := table b.toNat b.toNat_lt
  rwa [UInt8.ofNat_toNat] at entry

theorem counts_readLength (data : Bytes) : Counts data (readLength data) (Tlv.readLength data) := by
  rcases data with _ | ⟨first, rest⟩
  · exact .failed _
  obtain ⟨high, low⟩ := toNat_lowBits first
  have one := first.toNat_lt
  simp only [readLength, Tlv.readLength, List.getElem?_cons_zero, high]
  split
  · exact .read (Nat.lt_trans one (by decide)) (by decide) (by decide) (Nat.le_add_left _ _)
  rename_i long
  rw [low (by simpa using long)]
  generalize first.toNat - 128 = count
  split
  · exact .failed _
  rename_i positive
  split
  · exact .failed _
  rename_i few
  have fits : 1 + count < wordSize := by
    show _ < 18446744073709551616
    omega
  have longer : (first :: rest).length = rest.length + 1 := rfl
  by_cases missing : rest.length < count
  · rw [if_pos ((Bytes.isShorter_iff rest count).mpr missing)]
    simp only [add_of_lt fits, bind, Except.bind]
    rw [if_pos (by omega)]
    exact .failed _
  · have inside : count + 1 ≤ (first :: rest).length := by omega
    rw [if_neg (by rwa [Bytes.isShorter_iff])]
    simp only [add_of_lt fits, slice_of_le (Nat.le_add_left _ _) inside, bind, Except.bind]
    rw [if_neg (by omega)]
    have digits : ((first :: rest).take (count + 1)).drop 1 = rest.take count := rfl
    have after : rest.drop count = (first :: rest).drop (1 + count) := by
      rw [Nat.add_comm, List.drop_succ_cons]
    rw [digits, after]
    refine .read ?_ (by omega) (by omega) (by omega)
    have bound : Bytes.toNat (rest.take count) < 256 ^ count := by
      have := Bytes.toNat_lt (rest.take count)
      rwa [List.length_take_of_le (Nat.not_lt.mp missing)] at this
    have most : (256 : Nat) ^ count ≤ 256 ^ 4 := Nat.pow_le_pow_right (by decide) (by omega)
    exact Nat.lt_of_lt_of_le bound most

/-- A length is a number of at most four bytes. -/
theorem lt_of_readLength {data rest : Bytes} {length : Nat}
    (h : Tlv.readLength data = .ok (length, rest)) : length < UInt32.size := by
  have counts := counts_readLength data
  rw [h] at counts
  generalize readLength data = guarded at counts
  cases counts with
  | read small => exact small

/-! ## Elements -/

/-- Reads one element: its tag, its value, and the bytes after it. -/
def readElement (data : Bytes) : Except (Halt TlvError) (Nat × Bytes × Bytes) := do
  let (tag, tagCount) ← readTag data
  let (length, lengthCount) ← readLength (← sliceFrom data tagCount)
  let start ← add wordSize tagCount lengthCount
  let stop ← add wordSize start length
  if data.length < stop then
    throw (.failed .endInValue)
  return (tag, ← slice data start stop, ← sliceFrom data stop)

theorem readElement_eq {data : Bytes} (short : data.length < maxLength) :
    readElement data = (Tlv.readElement data).mapError .failed := by
  have word : data.length < 9223372036854775808 := short
  unfold readElement Tlv.readElement
  have tagged := counts_readTag data
  generalize readTag data = guarded, Tlv.readTag data = plain at tagged
  cases tagged with
  | failed e => rfl
  | @read tag tagCount _ _ fewTag insideTag =>
    simp only [bind, Except.bind, sliceFrom_of_le insideTag]
    have measured := counts_readLength (data.drop tagCount)
    generalize readLength (data.drop tagCount) = guarded,
      Tlv.readLength (data.drop tagCount) = plain at measured
    cases measured with
    | failed e => rfl
    | @read length lengthCount small _ fewLength insideLength =>
      -- ten bytes at most stand before the value, and its length is a number of four bytes
      have small : length < 4294967296 := small
      have first : tagCount + lengthCount < wordSize := by
        show _ < 18446744073709551616
        omega
      have second : tagCount + lengthCount + length < wordSize := by
        show _ < 18446744073709551616
        omega
      have body : (data.drop tagCount).drop lengthCount = data.drop (tagCount + lengthCount) :=
        List.drop_drop
      rw [List.length_drop] at insideLength
      simp only [add_of_lt first, add_of_lt second, body]
      by_cases missing : data.length < tagCount + lengthCount + length
      · have shorter : Bytes.isShorter (data.drop (tagCount + lengthCount)) length = true := by
          rw [Bytes.isShorter_iff, List.length_drop]
          omega
        rw [if_pos missing, if_pos shorter]
        rfl
      · have enough : ¬ Bytes.isShorter (data.drop (tagCount + lengthCount)) length = true := by
          rw [Bytes.isShorter_iff, List.length_drop]
          omega
        have inside := Nat.not_lt.mp missing
        rw [if_neg missing, if_neg enough, slice_of_le (Nat.le_add_right _ _) inside,
          sliceFrom_of_le inside, List.drop_take, Nat.add_sub_cancel_left, List.drop_drop]
        rfl

/-- What is left after an element is shorter. -/
theorem length_lt_of_readElement {data value rest : Bytes} {tag : Nat}
    (h : readElement data = .ok (tag, value, rest)) : rest.length < data.length := by
  obtain ⟨⟨tag, tagCount⟩, tagged, h⟩ := bind_eq_ok.mp h
  obtain ⟨afterTag, -, h⟩ := bind_eq_ok.mp h
  obtain ⟨⟨length, lengthCount⟩, -, h⟩ := bind_eq_ok.mp h
  obtain ⟨start, summed, h⟩ := bind_eq_ok.mp h
  obtain ⟨stop, summed', h⟩ := bind_eq_ok.mp h
  have start_eq := eq_of_add summed
  have stop_eq := eq_of_add summed'
  have positive := count_pos_of_readTag tagged
  dsimp only at h
  split at h
  · cases h
  · obtain ⟨value', -, h⟩ := bind_eq_ok.mp h
    obtain ⟨rest', cut, h⟩ := bind_eq_ok.mp h
    obtain ⟨inside, rest_eq⟩ := eq_of_sliceFrom cut
    cases h
    rw [rest_eq, List.length_drop]
    omega

/-- Where no element can be read, the strict reader fails. -/
theorem readAll_of_error {first : UInt8} {rest : Bytes} {e : TlvError}
    (failed : Tlv.readElement (first :: rest) = .error e) :
    Tlv.readAll (first :: rest) = .error e := by
  rw [Tlv.readAll]
  split
  · rename_i plain
    cases plain.symm.trans failed
    rfl
  · rename_i plain
    cases plain.symm.trans failed

/-- Every element, with no byte left over. -/
def readAll (data : Bytes) : Except (Halt TlvError) (List Tlv) :=
  match data with
  | [] => .ok []
  | first :: rest =>
    match h : readElement (first :: rest) with
    | .error halt => .error halt
    | .ok (tag, value, after) =>
      have := length_lt_of_readElement h
      match readAll after with
      | .error halt => .error halt
      | .ok tlvs => .ok (leaf tag value :: tlvs)
termination_by data.length
decreasing_by assumption

theorem readAll_eq {data : Bytes} (short : data.length < maxLength) :
    readAll data = (Tlv.readAll data).mapError .failed := by
  fun_induction readAll data with
  | case1 =>
    rw [Tlv.readAll]
    rfl
  | case2 first rest halt failed =>
    rw [readElement_eq short] at failed
    obtain ⟨e, plain, rfl⟩ := mapError_eq_error.mp failed
    rw [readAll_of_error plain]
    rfl
  | case3 first rest tag value after found shorter halt failed ih =>
    rw [readElement_eq short] at found
    rw [ih (Nat.lt_trans shorter short)] at failed
    obtain ⟨e, plain, rfl⟩ := mapError_eq_error.mp failed
    rw [Tlv.readAll_of_readElement (mapError_eq_ok.mp found), plain]
    rfl
  | case4 first rest tag value after found shorter tlvs read ih =>
    rw [readElement_eq short] at found
    rw [ih (Nat.lt_trans shorter short)] at read
    rw [Tlv.readAll_of_readElement (mapError_eq_ok.mp found), mapError_eq_ok.mp read]
    rfl

/-- An element of some bytes has a shorter value. -/
theorem length_value_of_readAll {data : Bytes} {tlvs : List Tlv}
    (read : Tlv.readAll data = .ok tlvs) : ∀ tlv ∈ tlvs, tlv.value.length < data.length := by
  fun_induction Tlv.readAll data generalizing tlvs with
  | case1 =>
    cases read
    exact List.forall_mem_nil _
  | case2 | case3 => cases read
  | case4 first rest tag value after found shorter others others_read ih =>
    cases read
    intro tlv member
    rcases List.mem_cons.mp member with rfl | member
    · show value.length < _
      omega
    · have := ih others_read tlv member
      omega

/-! ## Tags with lengths -/

/-- The pair of tag and length at a position, and the position after it. -/
def readTagLength (data : Bytes) (position : Nat) :
    Except (Halt TlvError) ((Nat × Nat) × Nat) := do
  let (tag, tagCount) ← readTag (← sliceFrom data position)
  let position ← add wordSize position tagCount
  let (length, lengthCount) ← readLength (← sliceFrom data position)
  return ((tag, length), ← add wordSize position lengthCount)

theorem lt_of_readTagLength {data : Bytes} {position next : Nat} {pair : Nat × Nat}
    (h : readTagLength data position = .ok (pair, next)) : position < next := by
  obtain ⟨rest, -, h⟩ := bind_eq_ok.mp h
  obtain ⟨⟨tag, tagCount⟩, tagged, h⟩ := bind_eq_ok.mp h
  obtain ⟨middle, summed, h⟩ := bind_eq_ok.mp h
  obtain ⟨rest', -, h⟩ := bind_eq_ok.mp h
  obtain ⟨⟨length, lengthCount⟩, -, h⟩ := bind_eq_ok.mp h
  obtain ⟨next', summed', h⟩ := bind_eq_ok.mp h
  have positive := count_pos_of_readTag tagged
  have middle_eq := eq_of_add summed
  have next_eq := eq_of_add summed'
  cases h
  omega

/-- The pairs of tag and length from a position on. -/
def readTagLengthsFrom (data : Bytes) (position : Nat) :
    Except (Halt TlvError) (List (Nat × Nat)) :=
  if position < data.length then
    match h : readTagLength data position with
    | .error halt => .error halt
    | .ok (pair, next) =>
      have := lt_of_readTagLength h
      match readTagLengthsFrom data next with
      | .error halt => .error halt
      | .ok pairs => .ok (pair :: pairs)
  else .ok []
termination_by data.length - position
decreasing_by omega

/-- Pairs of tag and length that fill the whole data. -/
def readTagLengths (data : Bytes) : Except (Halt TlvError) (List (Nat × Nat)) :=
  readTagLengthsFrom data 0

/-- One pair, and then the others. -/
theorem readTagLengths_cons (first : UInt8) (rest : Bytes) :
    Tlv.readTagLengths (first :: rest) = (do
      let (tag, afterTag) ← Tlv.readTag (first :: rest)
      let (length, after) ← Tlv.readLength afterTag
      return (tag, length) :: (← Tlv.readTagLengths after)) := by
  rw [Tlv.readTagLengths]
  split
  · rename_i tagged
    rw [tagged]
    rfl
  · rename_i tagged
    conv_rhs => rw [tagged]
    split
    · rename_i measured
      simp only [bind, Except.bind, measured]
    · rename_i measured
      simp only [bind, Except.bind, measured]
      cases Tlv.readTagLengths _ <;> rfl

/-- The pair at a position is the first of the pairs from there on. -/
inductive Precedes (data : Bytes) (position : Nat) :
    Except (Halt TlvError) ((Nat × Nat) × Nat) → Prop
  | failed {e : TlvError} (none : Tlv.readTagLengths (data.drop position) = .error e) :
    Precedes data position (.error (.failed e))
  | read {pair : Nat × Nat} {next : Nat} (inside : next ≤ data.length)
    (others : Tlv.readTagLengths (data.drop position) =
      (Tlv.readTagLengths (data.drop next)).map (pair :: ·)) :
    Precedes data position (.ok (pair, next))

theorem precedes_readTagLength {data : Bytes} (short : data.length < maxLength) {position : Nat}
    (more : position < data.length) : Precedes data position (readTagLength data position) := by
  have word : data.length < 9223372036854775808 := short
  -- the reader without positions is taken along with the guarded one, byte count by byte count
  have all : Tlv.readTagLengths (data.drop position) = (do
      let (tag, afterTag) ← Tlv.readTag (data.drop position)
      let (length, after) ← Tlv.readLength afterTag
      return (tag, length) :: (← Tlv.readTagLengths after)) := by
    rw [List.drop_eq_getElem_cons more]
    exact readTagLengths_cons _ _
  unfold readTagLength
  simp only [sliceFrom_of_le (Nat.le_of_lt more), bind, Except.bind] at all ⊢
  have tagged := counts_readTag (data.drop position)
  generalize readTag (data.drop position) = guarded,
    Tlv.readTag (data.drop position) = plain at tagged all
  cases tagged with
  | failed e => exact .failed all
  | @read tag tagCount _ _ fewTag insideTag =>
    rw [List.length_drop] at insideTag
    have first : position + tagCount < wordSize := by
      show _ < 18446744073709551616
      omega
    have inside : position + tagCount ≤ data.length := by omega
    rw [List.drop_drop] at all
    simp only [add_of_lt first, sliceFrom_of_le inside] at all ⊢
    have measured := counts_readLength (data.drop (position + tagCount))
    generalize readLength (data.drop (position + tagCount)) = guarded,
      Tlv.readLength (data.drop (position + tagCount)) = plain at measured all
    cases measured with
    | failed e => exact .failed all
    | @read length lengthCount _ _ fewLength insideLength =>
      rw [List.length_drop] at insideLength
      have second : position + tagCount + lengthCount < wordSize := by
        show _ < 18446744073709551616
        omega
      rw [List.drop_drop] at all
      simp only [add_of_lt second] at all ⊢
      refine .read (by omega) ?_
      rw [all]
      cases Tlv.readTagLengths _ <;> rfl

theorem readTagLengthsFrom_eq {data : Bytes} (short : data.length < maxLength) (position : Nat) :
    readTagLengthsFrom data position =
      (Tlv.readTagLengths (data.drop position)).mapError .failed := by
  fun_induction readTagLengthsFrom data position with
  | case1 position more halt failed =>
    have precedes := precedes_readTagLength short more
    rw [failed] at precedes
    cases precedes with
    | failed none =>
      rw [none]
      rfl
  | case2 position more pair next found shorter halt failed ih =>
    have precedes := precedes_readTagLength short more
    rw [found] at precedes
    rw [ih] at failed
    obtain ⟨e, none, rfl⟩ := mapError_eq_error.mp failed
    cases precedes with
    | read _ others =>
      rw [others, none]
      rfl
  | case3 position more pair next found shorter pairs read ih =>
    have precedes := precedes_readTagLength short more
    rw [found] at precedes
    rw [ih] at read
    cases precedes with
    | read _ others =>
      rw [others, mapError_eq_ok.mp read]
      rfl
  | case4 position done =>
    rw [List.drop_eq_nil_of_le (Nat.not_lt.mp done), Tlv.readTagLengths]
    rfl

theorem readTagLengths_eq {data : Bytes} (short : data.length < maxLength) :
    readTagLengths data = (Tlv.readTagLengths data).mapError .failed :=
  readTagLengthsFrom_eq short 0

end PgpCard.Guarded
