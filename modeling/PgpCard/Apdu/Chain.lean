import PgpCard.Apdu.Command
import PgpCard.CardError

/-!
# Command chaining

A long command arrives in several frames.  Every frame but the last has class bit `10` set and
is kept until the last one arrives; all frames of a chain share INS, P1 and P2.

* `CommandChain.accept` takes one frame: it asks for more, completes a command, or fails.
* A chain that fails is dropped, and so is every byte kept for it.
-/

set_option autoImplicit false

namespace PgpCard

/-- The segments of a chain that have arrived so far. -/
structure Segments where
  ins : UInt8
  p1 : UInt8
  p2 : UInt8
  /-- Their data, in order of arrival. -/
  data : Bytes
  deriving DecidableEq, Repr

/-- A command belongs to the same chain as the segments. -/
def Segments.belongs (segments : Segments) (cmd : Command) : Bool :=
  segments.ins == cmd.ins && segments.p1 == cmd.p1 && segments.p2 == cmd.p2

/-- The reassembly of chained commands. -/
structure CommandChain where
  /-- The most data bytes a chain may hold. -/
  capacity : Nat
  /-- The chain in progress. -/
  pending : Option Segments := none
  deriving DecidableEq, Repr

/-- What becomes of one frame. -/
inductive ChainStep
  /-- The segment is kept and the next one is awaited. -/
  | awaiting
  /-- The command is whole. -/
  | complete (cmd : Command)
  | failed (error : CardError)
  deriving DecidableEq, Repr

namespace CommandChain

/-- The capacity of the card's chain. -/
def cardCapacity : Nat := 1221

/-- A chain with nothing pending. -/
def idle (capacity : Nat) : CommandChain := { capacity }

/-- A chain is in progress. -/
def isActive (chain : CommandChain) : Bool := chain.pending.isSome

/-- The data kept so far. -/
def data (chain : CommandChain) : Bytes :=
  match chain.pending with
  | some segments => segments.data
  | none => []

/-- The chain in progress is dropped. -/
def reset (chain : CommandChain) : CommandChain := idle chain.capacity

/-- Keeps one more segment, if there is room for it. -/
def keep (chain : CommandChain) (segments : Segments) (more : Bytes) :
    ChainStep × CommandChain :=
  if chain.capacity < segments.data.length + more.length then (.failed .wrongData, chain.reset)
  else (.awaiting, { chain with pending := some { segments with data := segments.data ++ more } })

/-- Closes the chain with its last segment, if there is room for it. -/
def close (chain : CommandChain) (segments : Segments) (last : Command) :
    ChainStep × CommandChain :=
  if chain.capacity < segments.data.length + last.data.length then
    (.failed .wrongData, chain.reset)
  else
    (.complete { last with cla := last.cla &&& 0xEF, data := segments.data ++ last.data },
      chain.reset)

/-- The failure of a last segment that belongs to another command. -/
def notClosed (cmd : Command) : CardError :=
  .internal s!"final segment INS {Hex.upperByte cmd.ins} does not close the active chain"

/-- Takes one frame. -/
def accept (chain : CommandChain) (cmd : Command) : ChainStep × CommandChain :=
  match chain.pending, cmd.isChained with
  | none, false => (.complete cmd, chain)
  | none, true => chain.keep ⟨cmd.ins, cmd.p1, cmd.p2, []⟩ cmd.data
  | some segments, true =>
    if segments.belongs cmd then chain.keep segments cmd.data
    else (.failed .conditionsNotSatisfied, chain.reset)
  | some segments, false =>
    if segments.belongs cmd then chain.close segments cmd
    else (.failed (notClosed cmd), chain.reset)

end CommandChain

end PgpCard
