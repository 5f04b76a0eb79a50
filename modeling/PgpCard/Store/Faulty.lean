import PgpCard.Store.Backend

/-!
# A store that fails on schedule

A store may refuse any read and any write.  Which ones it refuses is given by two schedules, one
bit for each read and each write in turn, so that a statement about all schedules is one about
every pattern of failures.  A refused write leaves the store below as it was.

The store keeps a journal of the writes that were done, of those that its schedule refused, and
of the sensitive steps announced between them.
-/

set_option autoImplicit false

namespace PgpCard

/-- An entry of the journal. -/
inductive JournalEntry
  | byte (key : String) (value : UInt8)
  | word (key : String) (value : UInt16)
  | blob (name : String) (data : Bytes)
  | refusedByte (key : String)
  | refusedWord (key : String)
  | refusedBlob (name : String)
  | audit (step : Audit)
  deriving DecidableEq, Repr

/-- A store with schedules of failures and a journal. -/
structure FaultyStore (σ : Type) where
  inner : σ
  /-- The read with a given number fails. -/
  readFails : Nat → Bool := fun _ => false
  /-- The write with a given number fails. -/
  writeFails : Nat → Bool := fun _ => false
  /-- How many reads there have been. -/
  reads : Nat := 0
  /-- How many writes there have been. -/
  writes : Nat := 0
  /-- The journal, its latest entry first. -/
  journal : List JournalEntry := []

namespace FaultyStore

variable {σ α : Type}

/-- The failure that a refused operation reports. -/
def refusal : StoreError := .medium ["flaky"]

/-- The store with schedules that start now: reads fail as `reads` says, and writes fail after
the next `spare` ones, if a number is given. -/
def schedule (store : FaultyStore σ) (reads : Bool) (spare : Option Nat) : FaultyStore σ :=
  { store with
    readFails := fun _ => reads
    writeFails := fun n =>
      match spare with
      | none => false
      | some count => store.writes + count ≤ n }

/-- Reads unless the schedule says no. -/
def read (act : Attempt StoreError σ α) : Attempt StoreError (FaultyStore σ) α := fun store =>
  let counted := { store with reads := store.reads + 1 }
  if store.readFails store.reads then .error refusal counted
  else match act store.inner with
    | .ok a inner => .ok a { counted with inner }
    | .error e inner => .error e { counted with inner }

/-- Writes unless the schedule says no, and records what was done or refused.  A write that
fails in the store below leaves no entry. -/
def write (act : Attempt StoreError σ Unit) (done refused : JournalEntry) :
    Attempt StoreError (FaultyStore σ) Unit := fun store =>
  let counted := { store with writes := store.writes + 1 }
  if store.writeFails store.writes then
    .error refusal { counted with journal := refused :: store.journal }
  else match act store.inner with
    | .ok () inner => .ok () { counted with inner, journal := done :: store.journal }
    | .error e inner => .error e { counted with inner }

instance [Backend σ] : Backend (FaultyStore σ) where
  readByte key := read (Backend.readByte key)
  writeByte key value := write (Backend.writeByte key value) (.byte key value) (.refusedByte key)
  readWord key := read (Backend.readWord key)
  writeWord key value := write (Backend.writeWord key value) (.word key value) (.refusedWord key)
  readBlob name := read (Backend.readBlob name)
  writeBlob name data := write (Backend.writeBlob name data) (.blob name data) (.refusedBlob name)
  note audit := fun store => { store with
    inner := Backend.note audit store.inner
    journal := .audit audit :: store.journal }

end FaultyStore

end PgpCard
