import PgpCard.Apdu.Chain

/-!
# A chain in registers

What a chain keeps stands in registers of their own: a flag, the key of the segments and a buffer.
A chain that begins sets them, and whatever ends one has to clear all of them.

* `ChainRegisters.accept`, `ChainRegisters.reset` : what is done with the registers, step by step;
* `ChainRegisters.ofChain` : the registers of a chain; they are clear where nothing is pending;
* `ChainRegisters.accept_ofChain`, `ChainRegisters.reset_ofChain` : the registers do what the chain
  does, and nothing is left in them that the chain does not have.
-/

set_option autoImplicit false

namespace PgpCard

/-- The registers in which a chain is kept. -/
structure ChainRegisters where
  /-- A chain is in progress. -/
  active : Bool
  ins : UInt8
  p1p2 : Nat
  /-- The data kept so far. -/
  buffer : Bytes
  capacity : Nat
  deriving DecidableEq, Repr

namespace ChainRegisters

/-- New registers. -/
def clear (capacity : Nat) : ChainRegisters := ⟨false, 0, 0, [], capacity⟩

/-- The chain in progress is dropped. -/
def reset (registers : ChainRegisters) : ChainRegisters :=
  { registers with active := false, ins := 0, p1p2 := 0, buffer := [] }

/-- A chain begins with the key of a command. -/
def start (registers : ChainRegisters) (cmd : Command) : ChainRegisters :=
  { registers with active := true, ins := cmd.ins, p1p2 := cmd.p1p2, buffer := [] }

/-- A command has the key that is kept. -/
def belongs (registers : ChainRegisters) (cmd : Command) : Bool :=
  registers.ins == cmd.ins && registers.p1p2 == cmd.p1p2

/-- Puts more bytes into the buffer.  Where there is no room for them, the chain is dropped. -/
def append (registers : ChainRegisters) (more : Bytes) : Except CardError Unit × ChainRegisters :=
  if registers.capacity < registers.buffer.length + more.length then
    (.error .wrongData, registers.reset)
  else (.ok (), { registers with buffer := registers.buffer ++ more })

/-- Keeps one more segment. -/
def keep (registers : ChainRegisters) (cmd : Command) : ChainStep × ChainRegisters :=
  match registers.append cmd.data with
  | (.error e, registers) => (.failed e, registers)
  | (.ok (), registers) => (.awaiting, registers)

/-- Closes the chain: its last bytes are put into the buffer, which becomes the data. -/
def close (registers : ChainRegisters) (last : Command) : ChainStep × ChainRegisters :=
  match registers.append last.data with
  | (.error e, registers) => (.failed e, registers)
  | (.ok (), registers) =>
    (.complete { last with cla := last.cla &&& 0xEF, data := registers.buffer }, registers.reset)

/-- Takes one frame. -/
def accept (registers : ChainRegisters) (cmd : Command) : ChainStep × ChainRegisters :=
  if cmd.isChained then
    if !registers.active then (registers.start cmd).keep cmd
    else if !registers.belongs cmd then (.failed .conditionsNotSatisfied, registers.reset)
    else registers.keep cmd
  else if !registers.active then (.complete cmd, registers)
  else if !registers.belongs cmd then (.failed (CommandChain.notClosed cmd), registers.reset)
  else registers.close cmd

/-! ## The registers of a chain -/

/-- The registers while some segments are kept. -/
def ofSegments (segments : Segments) (capacity : Nat) : ChainRegisters :=
  ⟨true, segments.ins, 256 * segments.p1.toNat + segments.p2.toNat, segments.data, capacity⟩

/-- The registers of a chain. -/
def ofChain (chain : CommandChain) : ChainRegisters :=
  match chain.pending with
  | none => clear chain.capacity
  | some segments => ofSegments segments chain.capacity

theorem reset_ofChain (chain : CommandChain) : (ofChain chain).reset = ofChain chain.reset := by
  unfold ofChain
  cases chain.pending <;> rfl

/-- P1 and P2 as one number are the same where each of them is. -/
theorem belongs_ofSegments (segments : Segments) (capacity : Nat) (cmd : Command) :
    (ofSegments segments capacity).belongs cmd = segments.belongs cmd := by
  have key : 256 * segments.p1.toNat + segments.p2.toNat = cmd.p1p2 ↔
      segments.p1 = cmd.p1 ∧ segments.p2 = cmd.p2 := by
    have small := segments.p2.toNat_lt
    have small' := cmd.p2.toNat_lt
    rw [Command.p1p2, ← UInt8.toNat_inj, ← UInt8.toNat_inj]
    omega
  rw [Bool.eq_iff_iff, belongs, ofSegments, Segments.belongs]
  simp only [Bool.and_eq_true, beq_iff_eq, key, and_assoc]

/-- The buffer grows as the data of the segments does. -/
theorem append_ofSegments (segments : Segments) (capacity : Nat) (more : Bytes) :
    (ofSegments segments capacity).append more =
      if capacity < segments.data.length + more.length then (.error .wrongData, clear capacity)
      else (.ok (), ofSegments { segments with data := segments.data ++ more } capacity) :=
  rfl

theorem keep_ofSegments (chain : CommandChain) (segments : Segments) (cmd : Command) :
    (ofSegments segments chain.capacity).keep cmd =
      Prod.map id ofChain (chain.keep segments cmd.data) := by
  rw [keep, append_ofSegments, CommandChain.keep]
  by_cases excess : chain.capacity < segments.data.length + cmd.data.length
  · rw [if_pos excess, if_pos excess]
    rfl
  · rw [if_neg excess, if_neg excess]
    rfl

theorem close_ofSegments (chain : CommandChain) (segments : Segments) (last : Command) :
    (ofSegments segments chain.capacity).close last =
      Prod.map id ofChain (chain.close segments last) := by
  rw [close, append_ofSegments, CommandChain.close]
  by_cases excess : chain.capacity < segments.data.length + last.data.length
  · rw [if_pos excess, if_pos excess]
    rfl
  · rw [if_neg excess, if_neg excess]
    rfl

/-- The registers make of a frame what the chain makes of it. -/
theorem accept_ofChain (chain : CommandChain) (cmd : Command) :
    (ofChain chain).accept cmd = Prod.map id ofChain (chain.accept cmd) := by
  obtain ⟨capacity, _ | segments⟩ := chain
  · cases chained : cmd.isChained with
    | false =>
      simp only [accept, ofChain, clear, CommandChain.accept, chained]
      rfl
    | true =>
      have begun := keep_ofSegments { capacity } ⟨cmd.ins, cmd.p1, cmd.p2, []⟩ cmd
      simp only [accept, ofChain, clear, CommandChain.accept, chained, if_true]
      exact begun
  · have key := belongs_ofSegments segments capacity cmd
    have cleared := reset_ofChain { capacity, pending := some segments }
    cases chained : cmd.isChained <;> cases belongs : segments.belongs cmd
    all_goals
      rw [belongs] at key
      simp only [accept, ofChain, CommandChain.accept, chained, belongs, key]
    case false.false | true.false => exact congrArg (Prod.mk _) cleared
    case false.true => exact close_ofSegments { capacity, pending := some segments } segments cmd
    case true.true => exact keep_ofSegments { capacity, pending := some segments } segments cmd

end ChainRegisters

end PgpCard
