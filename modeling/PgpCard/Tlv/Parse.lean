import PgpCard.Tlv.Basic

/-!
# Reading tag-length-value structures

* `Tlv.readTag` and `Tlv.readLength` read one tag or one length in front of other bytes.
* `Tlv.readElement` reads one element and leaves the bytes after it.
* `Tlv.readAll` is strict: every byte belongs to an element.
* `Tlv.readForest` skips filler bytes `00` and `FF` between elements, stops at the first bytes
  that are no element, and can descend into constructed elements.
* `Tlv.readTagLengths` reads pairs of tag and length with no values between them.

Each of the recursions ends because a reader leaves fewer bytes than it is given.
-/

set_option autoImplicit false

namespace PgpCard.Tlv

/-- Reads a tag.  The low five bits of the first byte all set mean that a second byte follows,
bit `80` of the second that a third one does. -/
def readTag : Bytes → Except TlvError (Nat × Bytes)
  | [] => .error .endInTag
  | first :: rest =>
    if first &&& 0x1F != 0x1F then .ok (first.toNat, rest)
    else match rest with
      | [] => .error .endInTag
      | second :: rest =>
        if second &&& 0x80 == 0 then .ok (256 * first.toNat + second.toNat, rest)
        else match rest with
          | [] => .error .endInTag
          | third :: rest =>
            .ok (65536 * first.toNat + 256 * second.toNat + third.toNat, rest)

/-- Reads a length: one byte below 128, or a count of one to four bytes that hold it. -/
def readLength : Bytes → Except TlvError (Nat × Bytes)
  | [] => .error .endInLength
  | first :: rest =>
    if first < 0x80 then .ok (first.toNat, rest)
    else
      let count := first.toNat - 128
      if count = 0 then .error .indefiniteLength
      else if 4 < count then .error (.lengthTooLarge count)
      else if Bytes.isShorter rest count then .error .endInLength
      else .ok (Bytes.toNat (rest.take count), rest.drop count)

/-- Reads one element: its tag, its value, and the bytes after it. -/
def readElement (data : Bytes) : Except TlvError (Nat × Bytes × Bytes) :=
  match readTag data with
  | .error e => .error e
  | .ok (tag, afterTag) =>
    match readLength afterTag with
    | .error e => .error e
    | .ok (length, body) =>
      if Bytes.isShorter body length then .error .endInValue
      else .ok (tag, body.take length, body.drop length)

/-! ## Readers consume -/

theorem readTag_lt {data rest : Bytes} {tag : Nat} (h : readTag data = .ok (tag, rest)) :
    rest.length < data.length := by
  unfold readTag at h
  split at h
  · cases h
  · split at h
    · cases h; exact Nat.lt_succ_self _
    · split at h
      · cases h
      · split at h
        · cases h; simp only [List.length_cons]; omega
        · split at h
          · cases h
          · cases h; simp only [List.length_cons]; omega

theorem readLength_lt {data rest : Bytes} {length : Nat}
    (h : readLength data = .ok (length, rest)) : rest.length < data.length := by
  unfold readLength at h
  split at h
  · cases h
  · split at h
    · cases h; exact Nat.lt_succ_self _
    · dsimp only at h
      split at h
      · cases h
      · split at h
        · cases h
        · split at h
          · cases h
          · simp only [Except.ok.injEq, Prod.mk.injEq] at h
            rw [← h.2]
            simp only [List.length_drop, List.length_cons]
            omega

theorem readElement_lt {data value rest : Bytes} {tag : Nat}
    (h : readElement data = .ok (tag, value, rest)) :
    value.length + rest.length < data.length := by
  unfold readElement at h
  split at h
  · cases h
  · rename_i htag
    split at h
    · cases h
    · rename_i hlength
      split at h
      · cases h
      · cases h
        have := readTag_lt htag
        have := readLength_lt hlength
        simp only [List.length_take, List.length_drop]
        omega

/-! ## Lists of elements -/

/-- Every element, with no byte left over; values are not descended into. -/
def readAll (data : Bytes) : Except TlvError (List Tlv) :=
  match data with
  | [] => .ok []
  | first :: rest =>
    match h : readElement (first :: rest) with
    | .error e => .error e
    | .ok (tag, value, after) =>
      have := readElement_lt h
      match readAll after with
      | .error e => .error e
      | .ok tlvs => .ok (leaf tag value :: tlvs)
termination_by data.length
decreasing_by omega

/-- The elements up to the first bytes that are none, filler between them skipped; with
`nested`, the values of constructed elements are read in the same way. -/
def readForest (nested : Bool) (data : Bytes) : List Tlv :=
  match data with
  | [] => []
  | first :: rest =>
    have : rest.length < (first :: rest).length := Nat.lt_succ_self _
    if first = 0x00 ∨ first = 0xFF then readForest nested rest
    else
      match h : readElement (first :: rest) with
      | .error _ => []
      | .ok (tag, value, after) =>
        have := readElement_lt h
        let children := if nested && Tag.isConstructed tag then readForest nested value else []
        .mk tag value children :: readForest nested after
termination_by data.length
decreasing_by all_goals omega

/-- One element, with its children where it is constructed and `nested` asks for them, and the
bytes after it. -/
def readSingle (nested : Bool) (data : Bytes) : Except TlvError (Tlv × Bytes) :=
  match readElement data with
  | .error e => .error e
  | .ok (tag, value, rest) =>
    let children := if nested && Tag.isConstructed tag then readForest nested value else []
    .ok (.mk tag value children, rest)

/-- Pairs of tag and length that fill the whole data. -/
def readTagLengths (data : Bytes) : Except TlvError (List (Nat × Nat)) :=
  match data with
  | [] => .ok []
  | first :: rest =>
    match htag : readTag (first :: rest) with
    | .error e => .error e
    | .ok (tag, afterTag) =>
      match hlength : readLength afterTag with
      | .error e => .error e
      | .ok (length, after) =>
        have := readTag_lt htag
        have := readLength_lt hlength
        match readTagLengths after with
        | .error e => .error e
        | .ok pairs => .ok ((tag, length) :: pairs)
termination_by data.length
decreasing_by omega

end PgpCard.Tlv
