import PgpCard.Proofs.Apdu.Response
import PgpCard.Proofs.Card.Delivery

/-!
# The form of an answer

* `StatusWord.failures` : the status words of an answer without data that does not report success;
* `WellFormed` : the form of an answer after which a number of bytes are pending;
* `wellFormed_process` : every frame is answered in this form, whatever the card and its store.
-/

set_option autoImplicit false

namespace PgpCard

/-- The status words of failures. -/
def StatusWord.failures : List StatusWord :=
  [0x6200, 0x6700, 0x6982, 0x6983, 0x6984, 0x6985, 0x6A80, 0x6A83, 0x6A86, 0x6A88, 0x6B00, 0x6D00,
    0x6F00]

/-- The form of an answer after which `pending` bytes wait for GET RESPONSE. -/
inductive WellFormed (pending : Nat) : Bytes → Prop
  /-- Data that are complete, or none. -/
  | complete {data : Bytes} (short : data.length ≤ 255) : WellFormed pending (data ++ [0x90, 0x00])
  /-- Data of which more is pending, with how much of it comes next. -/
  | more {data : Bytes} {next : UInt8} (short : data.length ≤ 255) (waiting : 1 ≤ next.toNat)
    (announced : next.toNat = min 255 pending) : WellFormed pending (data ++ [0x61, next])
  /-- A failure, without data. -/
  | failed {status : StatusWord} (listed : status ∈ StatusWord.failures) :
    WellFormed pending [status.high, status.low]

/-! ## Responses -/

theorem CardError.status_mem_failures (e : CardError) : e.status ∈ StatusWord.failures := by
  cases e <;> simp only [status] <;> decide

theorem wellFormed_ok (pending : Nat) : WellFormed pending Response.ok.toFrame :=
  .complete (Nat.zero_le 255)

theorem wellFormed_error (pending : Nat) {status : StatusWord}
    (listed : status ∈ StatusWord.failures) : WellFormed pending (Response.error status).toFrame :=
  .failed listed

/-- The next part of a response announces what is left of it. -/
theorem wellFormed_next (outgoing : Outgoing) :
    WellFormed outgoing.next.2.pending outgoing.next.1.toFrame := by
  obtain ⟨data⟩ := outgoing
  rcases Nat.lt_or_ge Response.capacity data.length with long | short
  · have left : (data.drop Response.capacity).length = data.length - 255 := List.length_drop
    have positive : 255 < data.length := long
    rw [Card.next_of_long long]
    simp only [Response.toFrame, Response.moreData, StatusWord.high_moreData,
      StatusWord.low_moreData, Outgoing.pending]
    refine .more ?_ ?_ ?_
    · exact List.length_take_le _ _
    · rw [UInt8.toNat_ofNat', left]
      show 1 ≤ min (data.length - 255) 255 % 256
      omega
    · rw [UInt8.toNat_ofNat', left]
      show min (data.length - 255) 255 % 256 = _
      omega
  · rw [Card.next_of_short short]
    have status : [StatusWord.success.high, StatusWord.success.low] = [0x90, 0x00] := by decide
    simp only [Response.toFrame, Response.success, status]
    exact .complete (List.length_take_le _ _)

/-! ## Answers -/

namespace Card

variable {σ : Type} [Backend σ]

/-- A response in the right form, given what the card has left to send. -/
def Presents (result : Response × Card σ) : Prop :=
  WellFormed result.2.memory.outgoing.pending result.1.toFrame

theorem presents_execute (env : Environment) (cmd : Command) (card : Card σ) :
    Presents (execute env cmd card) := by
  unfold execute
  split
  · split
    · exact wellFormed_error _ (by decide)
    · exact wellFormed_next card.memory.outgoing
  · dsimp only
    split
    · exact wellFormed_error _ (by decide)
    · split
      · rename_i data final _
        exact wellFormed_next ⟨data⟩
      · rename_i e final _
        exact wellFormed_error _ e.status_mem_failures

theorem presents_answer (env : Environment) (cmd : Command) (card : Card σ) :
    Presents (answer env cmd card) := by
  unfold answer
  split
  · exact wellFormed_ok _
  · exact wellFormed_ok _
  · unfold receive
    rcases card.memory.chain.accept cmd with ⟨_ | whole | e, chain⟩
    · exact wellFormed_ok _
    · exact presents_execute env whole _
    · exact wellFormed_error _ e.status_mem_failures

theorem presents_respond (env : Environment) (cmd : Command) (card : Card σ) :
    Presents (respond env cmd card) := by
  unfold respond
  split
  · split
    · exact presents_answer env cmd _
    · exact wellFormed_error _ (by decide)
  · exact presents_answer env cmd card

/-- Every frame is answered in the right form. -/
theorem wellFormed_process (env : Environment) (frame : Bytes) (card : Card σ) :
    WellFormed (process env frame card).2.memory.outgoing.pending (process env frame card).1 := by
  unfold process
  split
  · exact wellFormed_error _ (by decide)
  · exact presents_respond env _ card

end Card

end PgpCard
