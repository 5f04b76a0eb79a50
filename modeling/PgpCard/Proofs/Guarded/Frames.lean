import PgpCard.Apdu.Chain
import PgpCard.Apdu.Outgoing
import PgpCard.Proofs.Guarded.Basic

/-!
# Frames, chains and responses within range

* `Guarded.ofFrame?` reads a frame byte by byte; `ofFrame?_eq` : whatever the frame, every position
  is in range, and the command read is that of `Command.ofFrame?`.
* `Guarded.accept` adds up the lengths of a chain; `accept_eq` : the sum does not overflow.
  `Fits` bounds what a chain holds, and `Fits.accept` keeps the bound.
* `Buffer` is a response of which some bytes are sent; `Buffer.next_eq` : the next frame is cut out
  of it within range, and is that of `Outgoing.next`.
* `Guarded.toFrame_eq` : so are the bytes of an answer.
-/

set_option autoImplicit false

namespace PgpCard.Guarded

variable {ε α : Type}

/-! ## Commands -/

/-- The command that a frame carries. -/
def ofFrame? (frame : Bytes) : Except (Halt FrameError) Command := do
  if frame.length < 4 then
    throw (.failed (.tooShort frame.length))
  let cla ← element frame 0
  let ins ← element frame 1
  let p1 ← element frame 2
  let p2 ← element frame 3
  if frame.length = 4 then
    return { cla, ins, p1, p2 }
  if frame.length = 5 then
    return { cla, ins, p1, p2, le := some (← element frame 4) }
  let lc ← element frame 4
  let body ← sliceFrom frame 5
  if body.length < lc.toNat then
    throw (.failed (.dataMissing lc.toNat body.length))
  return { cla, ins, p1, p2, data := ← slice body 0 lc.toNat, le := body[lc.toNat]? }

/-- Whatever the frame, it is read within range. -/
theorem ofFrame?_eq (frame : Bytes) :
    ofFrame? frame = (Command.ofFrame? frame).mapError .failed := by
  rcases frame with _ | ⟨cla, _ | ⟨ins, _ | ⟨p1, _ | ⟨p2, _ | ⟨lc, _ | ⟨first, rest⟩⟩⟩⟩⟩⟩
  iterate 6 · rfl
  · have body : sliceFrom (ε := FrameError) (cla :: ins :: p1 :: p2 :: lc :: first :: rest) 5 =
        .ok (first :: rest) := sliceFrom_of_le (by simp)
    unfold ofFrame? Command.ofFrame?
    simp only [element, List.getElem?_cons_zero, List.getElem?_cons_succ, body, bind, Except.bind,
      pure, Except.pure]
    rw [if_neg (by simp), if_neg (by simp), if_neg (by simp)]
    by_cases short : (first :: rest).length < lc.toNat
    · rw [if_pos short, if_pos short]
      rfl
    · rw [if_neg short, if_neg short, slice_of_le (Nat.zero_le _) (Nat.not_lt.mp short)]
      rfl

/-- A command that a frame carries has at most as much data as one byte counts. -/
theorem length_data_of_ofFrame? {frame : Bytes} {cmd : Command}
    (h : Command.ofFrame? frame = .ok cmd) : cmd.data.length < 256 := by
  unfold Command.ofFrame? at h
  split at h
  · cases h
    exact Nat.zero_lt_succ _
  · cases h
    exact Nat.zero_lt_succ _
  · rename_i lc body _
    split at h
    · cases h
    · cases h
      exact Nat.lt_of_le_of_lt (List.length_take_le _ _) lc.toNat_lt
  · cases h

/-! ## Chains -/

/-- Keeps one more segment, if there is room for it. -/
def keep (chain : CommandChain) (segments : Segments) (more : Bytes) :
    Except (Halt ε) (ChainStep × CommandChain) := do
  if chain.capacity < (← add wordSize segments.data.length more.length) then
    return (.failed .wrongData, chain.reset)
  return (.awaiting, { chain with pending := some { segments with data := segments.data ++ more } })

/-- Closes the chain with its last segment, if there is room for it. -/
def close (chain : CommandChain) (segments : Segments) (last : Command) :
    Except (Halt ε) (ChainStep × CommandChain) := do
  if chain.capacity < (← add wordSize segments.data.length last.data.length) then
    return (.failed .wrongData, chain.reset)
  return (.complete { last with cla := last.cla &&& 0xEF, data := segments.data ++ last.data },
    chain.reset)

/-- Takes one frame. -/
def accept (chain : CommandChain) (cmd : Command) : Except (Halt ε) (ChainStep × CommandChain) :=
  match chain.pending with
  | none =>
    if cmd.isChained then keep chain ⟨cmd.ins, cmd.p1, cmd.p2, []⟩ cmd.data
    else .ok (.complete cmd, chain)
  | some segments =>
    if segments.belongs cmd then
      if cmd.isChained then keep chain segments cmd.data else close chain segments cmd
    else if cmd.isChained then .ok (.failed .conditionsNotSatisfied, chain.reset)
    else .ok (.failed (CommandChain.notClosed cmd), chain.reset)

/-- The chain of a card, with no more data than it may hold. -/
structure Fits (chain : CommandChain) : Prop where
  capacity : chain.capacity = CommandChain.cardCapacity
  data : chain.data.length ≤ CommandChain.cardCapacity

theorem Fits.reset {chain : CommandChain} (fits : Fits chain) : Fits chain.reset :=
  ⟨fits.capacity, Nat.zero_le _⟩

variable {chain chain' : CommandChain} {segments : Segments} {cmd : Command}

theorem keep_eq {more : Bytes} (short : segments.data.length + more.length < wordSize) :
    (keep chain segments more : Except (Halt ε) _) = .ok (chain.keep segments more) := by
  rw [keep, add_of_lt short, CommandChain.keep]
  split <;> rename_i h <;> simp [h, bind, Except.bind, pure, Except.pure]

theorem close_eq (short : segments.data.length + cmd.data.length < wordSize) :
    (close chain segments cmd : Except (Halt ε) _) = .ok (chain.close segments cmd) := by
  rw [close, add_of_lt short, CommandChain.close]
  split <;> rename_i h <;> simp [h, bind, Except.bind, pure, Except.pure]

/-- The lengths of what a chain holds and of a segment are added within range. -/
theorem accept_eq (short : chain.data.length + cmd.data.length < wordSize) :
    (accept chain cmd : Except (Halt ε) _) = .ok (chain.accept cmd) := by
  rw [CommandChain.data] at short
  unfold accept CommandChain.accept
  cases pending : chain.pending with
  | none =>
    rw [pending] at short
    cases chained : cmd.isChained with
    | true => exact keep_eq short
    | false => rfl
  | some segments =>
    rw [pending] at short
    cases chained : cmd.isChained with
    | true =>
      dsimp only
      split
      · exact keep_eq short
      · rfl
    | false =>
      dsimp only
      split
      · exact close_eq short
      · rfl

theorem Fits.keep {step : ChainStep} {more : Bytes} (fits : Fits chain)
    (keeps : chain.keep segments more = (step, chain')) :
    Fits chain' ∧ ∀ whole, step ≠ .complete whole := by
  unfold CommandChain.keep at keeps
  split at keeps
  · cases keeps
    exact ⟨fits.reset, nofun⟩
  · rename_i room
    cases keeps
    rw [Nat.not_lt, fits.capacity, ← List.length_append] at room
    exact ⟨⟨fits.capacity, room⟩, nofun⟩

theorem Fits.close {step : ChainStep} (fits : Fits chain)
    (closes : chain.close segments cmd = (step, chain')) :
    Fits chain' ∧ ∀ whole, step = .complete whole →
      whole.data.length ≤ CommandChain.cardCapacity := by
  unfold CommandChain.close at closes
  split at closes
  · cases closes
    exact ⟨fits.reset, nofun⟩
  · rename_i room
    cases closes
    rw [Nat.not_lt, fits.capacity, ← List.length_append] at room
    refine ⟨fits.reset, ?_⟩
    rintro _ ⟨⟩
    exact room

/-- A chain of a card fits after a frame as well, and so does the command that it makes whole. -/
theorem Fits.accept {step : ChainStep} (fits : Fits chain) (short : cmd.data.length < 256)
    (accepts : chain.accept cmd = (step, chain')) :
    Fits chain' ∧ ∀ whole, step = .complete whole →
      whole.data.length ≤ CommandChain.cardCapacity := by
  have kept : ∀ {segments more}, chain.keep segments more = (step, chain') →
      Fits chain' ∧ ∀ whole, step = .complete whole →
        whole.data.length ≤ CommandChain.cardCapacity := fun keeps =>
    ⟨(fits.keep keeps).1, fun whole same => absurd same ((fits.keep keeps).2 whole)⟩
  unfold CommandChain.accept at accepts
  split at accepts
  · cases accepts
    refine ⟨fits, ?_⟩
    rintro _ ⟨⟩
    exact Nat.le_trans (Nat.le_of_lt short) (by decide)
  · exact kept accepts
  · split at accepts
    · exact kept accepts
    · cases accepts
      exact ⟨fits.reset, nofun⟩
  · split at accepts
    · exact fits.close accepts
    · cases accepts
      exact ⟨fits.reset, nofun⟩

/-! ## Responses -/

/-- A response in memory, of which some bytes are sent. -/
structure Buffer where
  data : Bytes := []
  sent : Nat := 0
  deriving DecidableEq, Repr

/-- A position in a list, moved on.  The length of a list that is held in memory is a number of the
machine, so a position within the list does not overflow. -/
def advance (list : List α) (position count : Nat) : Except (Halt ε) Nat :=
  if position + count ≤ list.length ∨ position + count < wordSize then .ok (position + count)
  else .error (.misused .overflow)

theorem advance_of_le {list : List α} {position count : Nat}
    (within : position + count ≤ list.length) :
    (advance list position count : Except (Halt ε) Nat) = .ok (position + count) :=
  if_pos (.inl within)

namespace Buffer

/-- How many bytes wait to be sent. -/
def pending (buffer : Buffer) : Except (Halt ε) Nat := sub buffer.data.length buffer.sent

/-- The next frame, and what the buffer holds after it. -/
def next (buffer : Buffer) : Except (Halt ε) (Response × Buffer) := do
  let chunk := min (← buffer.pending) Response.capacity
  let frame ← slice buffer.data buffer.sent (← advance buffer.data buffer.sent chunk)
  let sent ← advance buffer.data buffer.sent chunk
  let left ← pending { buffer with sent }
  if left = 0 then
    return (.success frame, {})
  return (.moreData frame (UInt8.ofNat (min left Response.capacity)), { buffer with sent })

/-- The bytes that wait to be sent. -/
def unsent (buffer : Buffer) : Bytes := buffer.data.drop buffer.sent

/-- No more is sent than there is. -/
def InRange (buffer : Buffer) : Prop := buffer.sent ≤ buffer.data.length

theorem pending_eq {buffer : Buffer} (inRange : buffer.InRange) :
    (buffer.pending : Except (Halt ε) Nat) = .ok buffer.unsent.length := by
  rw [pending, sub_of_le inRange, unsent, List.length_drop]

/-- What is left after some bytes more are sent. -/
theorem drop_unsent (buffer : Buffer) (count : Nat) :
    unsent { buffer with sent := buffer.sent + count } = buffer.unsent.drop count := by
  rw [unsent, unsent, List.drop_drop]

/-- The next frame is cut out of the buffer within range. -/
theorem next_eq {buffer : Buffer} (inRange : buffer.InRange) :
    ∃ after : Buffer, after.InRange ∧ (Outgoing.next ⟨buffer.unsent⟩).2 = ⟨after.unsent⟩ ∧
      (buffer.next : Except (Halt ε) _) = .ok ((Outgoing.next ⟨buffer.unsent⟩).1, after) := by
  have length : buffer.unsent.length = buffer.data.length - buffer.sent := List.length_drop
  -- a chunk is no more than what is left, so the position behind it is still in the data
  generalize chunked : min buffer.unsent.length Response.capacity = chunk
  have within : buffer.sent + chunk ≤ buffer.data.length := by
    have : buffer.sent ≤ buffer.data.length := inRange
    omega
  have frame : (buffer.data.take (buffer.sent + chunk)).drop buffer.sent =
      buffer.unsent.take Response.capacity := by
    rw [List.drop_take, Nat.add_sub_cancel_left, ← chunked, Nat.min_comm, ← List.take_take]
    exact congrArg _ List.take_length
  have rest : unsent { buffer with sent := buffer.sent + chunk } =
      buffer.unsent.drop Response.capacity := by
    rw [drop_unsent, ← chunked]
    rcases Nat.le_total buffer.unsent.length Response.capacity with short | long
    · rw [Nat.min_eq_left short, List.drop_length, List.drop_eq_nil_of_le short]
    · rw [Nat.min_eq_right long]
  have after : InRange { buffer with sent := buffer.sent + chunk } := within
  unfold next Outgoing.next
  simp only [pending_eq inRange, bind, Except.bind, chunked, advance_of_le within,
    slice_of_le (Nat.le_add_right _ _) within, frame, pending_eq after, rest,
    List.isEmpty_iff_length_eq_zero]
  split
  · exact ⟨{}, Nat.le_refl _, rfl, rfl⟩
  · exact ⟨_, after, by rw [rest], rfl⟩

end Buffer

/-- The frame sent: at most `Response.capacity` data bytes, then the status word. -/
def toFrame (response : Response) : Except (Halt ε) Bytes := do
  let length := min response.data.length Response.capacity
  let _ ← add wordSize length 2
  let data ← slice response.data 0 length
  return data ++ [response.status.high, response.status.low]

/-- The bytes of an answer are taken within range. -/
theorem toFrame_eq (response : Response) :
    (toFrame response : Except (Halt ε) Bytes) = .ok response.toFrame := by
  have short : min response.data.length Response.capacity + 2 < wordSize := by
    refine Nat.lt_of_le_of_lt (Nat.add_le_add_right (Nat.min_le_right _ _) 2) ?_
    decide
  have cut : response.data.take (min response.data.length Response.capacity) =
      response.data.take Response.capacity := by
    rw [Nat.min_comm, ← List.take_take, List.take_length]
  unfold toFrame Response.toFrame
  simp only [add_of_lt short, slice_of_le (Nat.zero_le _) (Nat.min_le_left _ _), List.drop_zero,
    cut]
  rfl

end PgpCard.Guarded
