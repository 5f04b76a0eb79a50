import PgpCard.Bytes

/-!
# Command frames

A command frame in short form is

`CLA INS P1 P2 [Lc data] [Le]`

with one byte each for `Lc` and `Le`.  A frame of five bytes carries `Le` and no data; in a
longer frame the fifth byte is `Lc`, and what follows `Le` is ignored.

* `Command.ofFrame?` reads a frame, `Command.toFrame` writes one.
* `Instruction.ofByte` names the instructions that the card knows.
-/

set_option autoImplicit false

namespace PgpCard

/-- A frame that is no command. -/
inductive FrameError
  /-- The frame has fewer than the four bytes of a header. -/
  | tooShort (length : Nat)
  /-- `Lc` declares more data than the frame holds. -/
  | dataMissing (declared available : Nat)
  deriving DecidableEq, Repr

/-- The text reported for a frame that is no command. -/
def FrameError.message : FrameError → String
  | .tooShort length => s!"APDU too short: expected at least 4 bytes, got {length}"
  | .dataMissing declared available =>
    s!"Lc declares {declared} data bytes but only {available} are present"

/-- What a command asks for. -/
inductive Instruction
  | select
  | verify
  | changeReferenceData
  | resetRetryCounter
  | performSecurityOperation
  | invalidate
  | internalAuthenticate
  | generateKeyPair
  | getChallenge
  | getData
  | putData
  | importKey
  | getResponse
  | terminate
  | activate
  | getVersion
  | setRetries
  /-- A byte that names no instruction of the card. -/
  | unsupported (byte : UInt8)
  deriving DecidableEq, Repr

/-- The instruction that an INS byte names. -/
def Instruction.ofByte (byte : UInt8) : Instruction :=
  match byte with
  | 0xA4 => .select
  | 0x20 => .verify
  | 0x24 => .changeReferenceData
  | 0x2C => .resetRetryCounter
  | 0x2A => .performSecurityOperation
  | 0x55 => .invalidate
  | 0x88 => .internalAuthenticate
  | 0x47 => .generateKeyPair
  | 0x84 => .getChallenge
  | 0xCA => .getData
  | 0xDA => .putData
  | 0xDB => .importKey
  | 0xC0 => .getResponse
  | 0xE6 => .terminate
  | 0x44 => .activate
  | 0xF1 => .getVersion
  | 0xF2 => .setRetries
  | other => .unsupported other

/-- A command. -/
structure Command where
  /-- Class byte; bit `10` marks a segment that is not the last of a chain. -/
  cla : UInt8
  ins : UInt8
  p1 : UInt8
  p2 : UInt8
  data : Bytes := []
  /-- The expected response length, where the frame carries one. -/
  le : Option UInt8 := none
  deriving DecidableEq, Repr

namespace Command

/-- The command is a segment that is not the last of its chain. -/
def isChained (cmd : Command) : Bool :=
  cmd.cla &&& 0x10 != 0

/-- P1 and P2 as one number. -/
def p1p2 (cmd : Command) : Nat :=
  256 * cmd.p1.toNat + cmd.p2.toNat

/-- What the command asks for. -/
def instruction (cmd : Command) : Instruction :=
  .ofByte cmd.ins

/-- The frame of a command; the length byte keeps the low eight bits of the data's length. -/
def toFrame (cmd : Command) : Bytes :=
  [cmd.cla, cmd.ins, cmd.p1, cmd.p2]
    ++ (if cmd.data.isEmpty then [] else UInt8.ofNat cmd.data.length :: cmd.data)
    ++ cmd.le.toList

/-- The command that a frame carries. -/
def ofFrame? : Bytes → Except FrameError Command
  | [cla, ins, p1, p2] => .ok { cla, ins, p1, p2 }
  | [cla, ins, p1, p2, le] => .ok { cla, ins, p1, p2, le := some le }
  | cla :: ins :: p1 :: p2 :: lc :: body =>
    if body.length < lc.toNat then .error (.dataMissing lc.toNat body.length)
    else .ok { cla, ins, p1, p2, data := body.take lc.toNat, le := body[lc.toNat]? }
  | short => .error (.tooShort short.length)

end Command

end PgpCard
