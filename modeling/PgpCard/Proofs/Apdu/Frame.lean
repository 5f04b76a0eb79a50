import PgpCard.Apdu.Command

/-!
# Frames are read as they are written

What the fifth byte of a frame means depends on how long the frame is: it is Le in a frame of five
bytes and Lc in a longer one, also where it is zero.

* `Carries` : which command a frame carries, by the three forms of a frame;
* `ofFrame?_eq_ok_iff` : the reader accepts these frames and finds these commands;
* `carries_toFrame` : a command whose data fits a frame is carried by the frame that is written;
* `Carries.toFrame_prefix`, `Carries.toFrame_of_blank` : what is written is the beginning of what
  was read, unless the frame has an Lc of zero, which is never written;
* `frame_codec_exact` : all of it together.
-/

set_option autoImplicit false

namespace PgpCard.Command

/-- A frame carries a command: a header alone, a header with Le, or a header with Lc, the data and,
as the first of the bytes behind them, Le. -/
inductive Carries : Bytes → Command → Prop
  | header (cla ins p1 p2 : UInt8) : Carries [cla, ins, p1, p2] { cla, ins, p1, p2 }
  | expecting (cla ins p1 p2 le : UInt8) :
    Carries [cla, ins, p1, p2, le] { cla, ins, p1, p2, le := some le }
  | full (cla ins p1 p2 lc : UInt8) {data rest : Bytes} (counted : data.length = lc.toNat)
    (longer : data ++ rest ≠ []) :
    Carries (cla :: ins :: p1 :: p2 :: lc :: (data ++ rest))
      { cla, ins, p1, p2, data, le := rest.head? }

variable {frame body : Bytes} {cmd : Command}

/-! ## Reading -/

/-- In a frame of more than five bytes the fifth one is Lc. -/
theorem ofFrame?_of_body (cla ins p1 p2 lc : UInt8) (longer : body ≠ []) :
    ofFrame? (cla :: ins :: p1 :: p2 :: lc :: body) =
      if body.length < lc.toNat then .error (.dataMissing lc.toNat body.length)
      else .ok { cla, ins, p1, p2, data := body.take lc.toNat, le := body[lc.toNat]? } := by
  cases body with
  | nil => exact absurd rfl longer
  | cons => rfl

/-- The data is cut off the bytes behind Lc. -/
theorem Carries.of_body (cla ins p1 p2 lc : UInt8) (longer : body ≠ [])
    (enough : lc.toNat ≤ body.length) :
    Carries (cla :: ins :: p1 :: p2 :: lc :: body)
      { cla, ins, p1, p2, data := body.take lc.toNat, le := body[lc.toNat]? } := by
  have whole := List.take_append_drop lc.toNat body
  have carries := Carries.full cla ins p1 p2 lc (List.length_take_of_le enough)
    (by rw [whole]; exact longer)
  rwa [whole, List.head?_drop] at carries

/-- A frame is read exactly where it carries a command, and as that command. -/
theorem ofFrame?_eq_ok_iff : ofFrame? frame = .ok cmd ↔ Carries frame cmd := by
  constructor
  · intro read
    match frame with
    | [] | [_] | [_, _] | [_, _, _] => cases read
    | [cla, ins, p1, p2] =>
      cases read
      exact .header cla ins p1 p2
    | [cla, ins, p1, p2, le] =>
      cases read
      exact .expecting cla ins p1 p2 le
    | cla :: ins :: p1 :: p2 :: lc :: first :: others =>
      have longer : first :: others ≠ [] := List.cons_ne_nil _ _
      rw [ofFrame?_of_body cla ins p1 p2 lc longer] at read
      split at read
      · cases read
      · rename_i enough
        cases read
        exact .of_body cla ins p1 p2 lc longer (Nat.le_of_not_lt enough)
  · intro carries
    cases carries with
    | header | expecting => rfl
    | full cla ins p1 p2 lc counted longer =>
      rename_i data rest
      have enough : ¬ (data ++ rest).length < lc.toNat := by
        rw [List.length_append]
        omega
      rw [ofFrame?_of_body cla ins p1 p2 lc longer, if_neg enough, ← counted, List.take_left,
        List.getElem?_append_right (Nat.le_refl _), Nat.sub_self, List.head?_eq_getElem?]

/-- A frame is read if it has a header and, where it is longer than a header with Le, the data that
Lc declares. -/
theorem exists_carries_iff : (∃ cmd, Carries frame cmd) ↔
    4 ≤ frame.length ∧
      ∀ longer : 5 < frame.length, frame[4].toNat ≤ (frame.drop 5).length := by
  constructor
  · rintro ⟨cmd, carries⟩
    cases carries with
    | header | expecting => exact ⟨by simp, fun longer => absurd longer (by simp)⟩
    | full cla ins p1 p2 lc counted longer =>
      exact ⟨by simp, fun _ => by simp [counted]⟩
  · rintro ⟨enough, held⟩
    match frame with
    | [] | [_] | [_, _] | [_, _, _] => exact absurd enough (by simp)
    | [cla, ins, p1, p2] => exact ⟨_, .header cla ins p1 p2⟩
    | [cla, ins, p1, p2, le] => exact ⟨_, .expecting cla ins p1 p2 le⟩
    | cla :: ins :: p1 :: p2 :: lc :: first :: others =>
      exact ⟨_, .of_body cla ins p1 p2 lc (List.cons_ne_nil _ _) (held (by simp))⟩

/-- What stands behind Le is not read. -/
theorem Carries.append (carries : Carries frame cmd) (longer : 5 < frame.length)
    (complete : 5 + frame[4].toNat < frame.length) (more : Bytes) :
    Carries (frame ++ more) cmd := by
  cases carries with
  | header | expecting => exact absurd longer (by simp)
  | @full cla ins p1 p2 lc data rest counted nonempty =>
    cases rest with
    | nil =>
      simp only [List.append_nil, List.getElem_cons_succ, List.getElem_cons_zero,
        List.length_cons, counted] at complete
      omega
    | cons le others =>
      have nonempty : data ++ le :: (others ++ more) ≠ [] :=
        List.append_ne_nil_of_right_ne_nil data (List.cons_ne_nil le _)
      simpa using Carries.full cla ins p1 p2 lc counted nonempty

/-! ## Writing -/

/-- Lc, the data and Le are written behind the header where there is data. -/
theorem toFrame_of_data (cla ins p1 p2 : UInt8) {data : Bytes} (le : Option UInt8)
    (some : data ≠ []) : toFrame ⟨cla, ins, p1, p2, data, le⟩ =
      cla :: ins :: p1 :: p2 :: UInt8.ofNat data.length :: (data ++ le.toList) := by
  simp [toFrame, some]

/-- A command whose data fits a frame is carried by the frame that is written for it. -/
theorem carries_toFrame (fits : cmd.data.length ≤ 255) : Carries cmd.toFrame cmd := by
  obtain ⟨cla, ins, p1, p2, data, le⟩ := cmd
  by_cases blank : data = []
  · subst blank
    cases le with
    | none => exact .header cla ins p1 p2
    | some le => exact .expecting cla ins p1 p2 le
  · have counted : data.length = (UInt8.ofNat data.length).toNat :=
      (UInt8.toNat_ofNat_of_lt (Nat.lt_succ_of_le fits)).symm
    have carries := Carries.full cla ins p1 p2 _ counted
      (List.append_ne_nil_of_left_ne_nil blank le.toList)
    rw [toFrame_of_data cla ins p1 p2 le blank]
    cases le <;> exact carries

namespace Carries

/-- The data that a frame carries fits a frame. -/
theorem length_le (carries : Carries frame cmd) : cmd.data.length ≤ 255 := by
  cases carries with
  | header | expecting => exact Nat.zero_le _
  | full cla ins p1 p2 lc counted =>
    rw [counted]
    exact Nat.le_of_lt_succ lc.toNat_lt

/-- Le is written behind the header where Lc is zero. -/
theorem toFrame_of_blank (carries : Carries frame cmd) (longer : 5 < frame.length)
    (blank : frame[4] = 0) : cmd.toFrame = frame.take 4 ++ [frame[5]] := by
  cases carries with
  | header | expecting => exact absurd longer (by simp)
  | @full cla ins p1 p2 lc data rest counted nonempty =>
    have zero : lc = 0 := blank
    have none : data = [] := List.eq_nil_of_length_eq_zero (by rw [counted, zero]; rfl)
    subst none
    cases rest with
    | nil => exact absurd rfl nonempty
    | cons le others => rfl

/-- What is written is the beginning of what was read. -/
theorem toFrame_prefix (carries : Carries frame cmd)
    (filled : ∀ longer : 5 < frame.length, frame[4] ≠ 0) : cmd.toFrame <+: frame := by
  cases carries with
  | header | expecting => exact List.prefix_refl _
  | @full cla ins p1 p2 lc data rest counted nonempty =>
    have some : data ≠ [] := by
      rintro rfl
      exact filled (by simpa using List.length_pos_iff.mpr nonempty)
        (UInt8.toNat_inj.mp counted.symm)
    -- of the bytes behind the data only the first is kept, as Le
    have first : rest.head?.toList <+: rest := by
      cases rest with
      | nil => exact List.nil_prefix
      | cons le others => exact ⟨others, rfl⟩
    rw [toFrame_of_data cla ins p1 p2 _ some, counted, UInt8.ofNat_toNat]
    simpa using first

end Carries

/-- A frame is read if and only if it has a header and, where it has more than five bytes, the data
that the fifth one declares.  A command with at most 255 bytes of data is read back from its frame.
A command that was read is read again from its frame, which is the beginning of the frame that was
read, or, where this has an Lc of zero, its header and the byte behind Lc.  Bytes behind Le change
nothing. -/
theorem frame_codec_exact :
    (∀ frame, (∃ cmd, ofFrame? frame = .ok cmd) ↔ 4 ≤ frame.length ∧
      ∀ longer : 5 < frame.length, frame[4].toNat ≤ (frame.drop 5).length) ∧
    (∀ cmd, cmd.data.length ≤ 255 → ofFrame? cmd.toFrame = .ok cmd) ∧
    (∀ frame cmd, ofFrame? frame = .ok cmd → ofFrame? cmd.toFrame = .ok cmd ∧
      ((∀ longer : 5 < frame.length, frame[4] ≠ 0) → cmd.toFrame <+: frame) ∧
      ∀ longer : 5 < frame.length, frame[4] = 0 → cmd.toFrame = frame.take 4 ++ [frame[5]]) ∧
    ∀ (frame more : Bytes) (longer : 5 < frame.length), 5 + frame[4].toNat < frame.length →
      ofFrame? (frame ++ more) = ofFrame? frame := by
  simp only [ofFrame?_eq_ok_iff]
  refine ⟨fun frame => exists_carries_iff, fun cmd fits => carries_toFrame fits, ?_, ?_⟩
  · intro frame cmd carries
    exact ⟨carries_toFrame carries.length_le, carries.toFrame_prefix, carries.toFrame_of_blank⟩
  · intro frame more longer complete
    have held : frame[4].toNat ≤ (frame.drop 5).length := by
      rw [List.length_drop]
      omega
    have header : 4 ≤ frame.length := by omega
    obtain ⟨cmd, carries⟩ := exists_carries_iff.mpr ⟨header, fun _ => held⟩
    rw [ofFrame?_eq_ok_iff.mpr carries, ofFrame?_eq_ok_iff]
    exact carries.append longer complete more

/-- PUT DATA with Le and two bytes behind it, and GET DATA with an Lc of zero in front of Le. -/
theorem frame_codec_exact_behind_le :
    let put : Command := ⟨0x00, 0xDA, 0x00, 0x5B, [0x41], some 0x00⟩
    let get : Command := ⟨0x00, 0xCA, 0x00, 0x6E, [], some 0x08⟩
    let frame : Bytes := [0x00, 0xDA, 0x00, 0x5B, 0x01, 0x41, 0x00]
    let blank : Bytes := [0x00, 0xCA, 0x00, 0x6E, 0x00, 0x08, 0x00]
    put.data.length ≤ 255 ∧ ofFrame? put.toFrame = .ok put ∧
      5 < frame.length ∧ 5 + (0x01 : UInt8).toNat < frame.length ∧
      ofFrame? (frame ++ [0xEE, 0xEE]) = .ok put ∧ put.toFrame <+: frame ++ [0xEE, 0xEE] ∧
      5 < blank.length ∧ ofFrame? blank = .ok get ∧ ofFrame? get.toFrame = .ok get ∧
      get.toFrame = [0x00, 0xCA, 0x00, 0x6E] ++ [0x08] := by
  intro put get frame blank
  obtain ⟨-, read_back, reread, behind⟩ := frame_codec_exact
  have read : ofFrame? (frame ++ [0xEE, 0xEE]) = .ok put :=
    behind frame [0xEE, 0xEE] (by decide) (by decide)
  have read' : ofFrame? blank = .ok get := rfl
  obtain ⟨-, beginning, -⟩ := reread _ _ read
  obtain ⟨again, -, written⟩ := reread _ _ read'
  exact ⟨by decide, read_back put (by decide), by decide, by decide, read,
    beginning fun _ => show (0x01 : UInt8) ≠ 0 by decide, by decide, read', again,
    written (by decide) rfl⟩

end PgpCard.Command
