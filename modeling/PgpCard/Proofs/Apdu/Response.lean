import Mathlib.Tactic.IntervalCases
import PgpCard.Apdu.Outgoing
import PgpCard.CardError

/-!
# What an answer reports

* `StatusWord.ofBytes` joins the two bytes in which a status word is sent.
* `Response.statusOf?` reads the status word off a frame that was sent; `Response.reportsSuccess`
  of the frame is the response's own `isOkay`.
* A failure never reports success, and the next part of a response always does.
-/

set_option autoImplicit false

namespace PgpCard

namespace StatusWord

/-- The status word that is sent in two bytes. -/
def ofBytes (high low : UInt8) : StatusWord :=
  high.toUInt16 <<< 8 ||| low.toUInt16

theorem ofBytes_high_low (sw : StatusWord) : ofBytes sw.high sw.low = sw := by
  have bound := sw.toNat_lt
  have low : sw.toNat % 256 < 2 ^ 8 := Nat.mod_lt _ (by decide)
  apply UInt16.toNat_inj.mp
  simp only [ofBytes, StatusWord.high, StatusWord.low, UInt16.toNat_or, UInt16.toNat_shiftLeft,
    UInt8.toNat_toUInt16, UInt16.toNat_toUInt8, UInt16.toNat_shiftRight,
    UInt16.reduceToNat, Nat.reduceMod, Nat.reducePow]
  rw [Nat.mod_eq_of_lt (by omega), ← Nat.shiftLeft_add_eq_or_of_lt low]
  omega

theorem isSuccess_moreData (next : UInt8) : (moreData next).isSuccess = true := by
  have more : (moreData next).isMoreData = true := by
    unfold moreData isMoreData
    rw [beq_iff_eq]
    apply UInt16.eq_of_toBitVec_eq
    ext i bound
    simp only [UInt16.toBitVec_and, UInt16.toBitVec_or, UInt16.toBitVec_ofNat,
      UInt8.toBitVec_toUInt16, BitVec.getElem_and, BitVec.getElem_or, BitVec.getElem_setWidth]
    interval_cases i <;> simp
  rw [isSuccess, more, Bool.or_true]

theorem toNat_moreData (next : UInt8) : (moreData next).toNat = 0x6100 + next.toNat := by
  have fits : next.toNat < 2 ^ 8 := next.toNat_lt
  show ((0x6100 : UInt16) ||| next.toUInt16).toNat = 0x61 <<< 8 + next.toNat
  rw [Nat.shiftLeft_add_eq_or_of_lt fits, UInt16.toNat_or, UInt8.toNat_toUInt16]
  rfl

/-- The word that announces more bytes is sent as `61` and their number. -/
theorem high_moreData (next : UInt8) : (moreData next).high = 0x61 := by
  have fits : next.toNat < 256 := next.toNat_lt
  apply UInt8.toNat_inj.mp
  have shifted : (0x6100 + next.toNat) >>> 8 % 256 = 0x61 := by
    rw [Nat.shiftRight_eq_div_pow]
    omega
  rw [high, UInt16.toNat_toUInt8, UInt16.toNat_shiftRight, toNat_moreData]
  exact shifted

theorem low_moreData (next : UInt8) : (moreData next).low = next := by
  have fits : next.toNat < 256 := next.toNat_lt
  apply UInt8.toNat_inj.mp
  rw [low, UInt16.toNat_toUInt8, toNat_moreData]
  omega

end StatusWord

namespace Response

/-- The status word at the end of a frame reports success. -/
def reportsSuccess (frame : Bytes) : Bool :=
  match frame.reverse with
  | low :: high :: _ => (StatusWord.ofBytes high low).isSuccess
  | _ => false

/-- The status word at the end of a frame. -/
def statusOf? (frame : Bytes) : Option StatusWord :=
  match frame.reverse with
  | low :: high :: _ => some (StatusWord.ofBytes high low)
  | _ => none

theorem statusOf?_toFrame (response : Response) :
    statusOf? response.toFrame = some response.status := by
  simp [statusOf?, toFrame, StatusWord.ofBytes_high_low]

theorem reportsSuccess_toFrame (response : Response) :
    reportsSuccess response.toFrame = response.isOkay := by
  simp [reportsSuccess, toFrame, isOkay, StatusWord.ofBytes_high_low]

end Response

theorem CardError.isSuccess_status (e : CardError) : e.status.isSuccess = false := by
  cases e <;> simp only [status] <;> decide

theorem Response.isOkay_error (e : CardError) : (error e.status).isOkay = false :=
  e.isSuccess_status

theorem Outgoing.isOkay_next (outgoing : Outgoing) : outgoing.next.1.isOkay = true := by
  unfold next
  dsimp only
  split
  · rfl
  · exact StatusWord.isSuccess_moreData _

end PgpCard
