import PgpCard.Host.Session
import PgpCard.Settings.Arguments
import Std.Time.DateTime.Timestamp

/-!
# Running a card

The program runs a card for one host on standard input and output.  A line of hexadecimal digits
is one read of the host's stream, and each answer is written as such a line.

The card works on a volume in memory.  The files of its directory are put on the volume at the
start, and those that changed are written back before an answer is sent.
-/

set_option autoImplicit false

namespace PgpCard.Program

/-- What the program says about its arguments. -/
def usage : String :=
  "usage: pgpcard [--connect ADDRESS | --listen ADDRESS] [--storage-dir DIRECTORY] " ++
    "[--ephemeral] [--reconnect-delay-ms MILLISECONDS] [--serial HEX]"

/-- The names of the files in the directory of a card. -/
def fileNames : List String :=
  DirectoryStore.scalarsName :: Card.recordNames.map DirectoryStore.blobFileName

/-- Puts the files of a card's directory on a volume. -/
def loadFiles (directory : String) : IO Volume := do
  let place := Path.ofText directory
  let mut volume := (Volume.makeDirectory place).reach Volume.empty
  for name in fileNames do
    try
      let data ← IO.FS.readBinFile (Settings.below directory name)
      volume := (Volume.fill (place ++ [name]) data.toList).reach volume
    catch
      | .noFileOrDirectory .. => pure ()
      | e => throw e
  return volume

/-- Writes the files that differ between two volumes, each in one step. -/
def saveFiles (directory : String) (before after : Volume) : IO Unit := do
  let place := Path.ofText directory
  for name in fileNames do
    let new := (after.read (place ++ [name])).toOption
    if new ≠ (before.read (place ++ [name])).toOption then
      let file := Settings.below directory name
      IO.FS.writeBinFile (file ++ ".tmp") ⟨(new.getD []).toArray⟩
      IO.FS.rename (file ++ ".tmp") file

/-- Makes a directory that only its owner may use. -/
def prepare (directory : String) : IO Unit := do
  IO.FS.createDirAll directory
  IO.setAccessRights directory { user := { read := true, write := true, execution := true } }

/-- Writes back what changed below a card. -/
def synchronize (settings : Settings) (before after : ChosenStore) : IO Unit :=
  match before, after with
  | .directory old, .directory new => saveFiles settings.storageDirectory old.volume new.volume
  | _, _ => pure ()

/-- What the world gives to the next frames. -/
def environments : IO (Nat → Environment) := do
  let seed ← IO.getRandomBytes 32
  let now ← Std.Time.Timestamp.now
  let seconds := UInt32.ofNat now.toSecondsSinceUnixEpoch.val.toNat
  return fun frame => .ofSeed (Bytes.ofNat 8 frame ++ seed.toList) seconds

/-- Answers lines until there are no more. -/
partial def answerLines (settings : Settings) (card : Card ChosenStore) : IO Unit := do
  let line ← (← IO.getStdin).getLine
  if line.isEmpty then
    return
  match Hex.decodeChars? (line.toList.filter (!·.isWhitespace)) with
  | none =>
    IO.eprintln "the line holds no bytes in hexadecimal digits"
    answerLines settings card
  | some read =>
    let (_, stream, next) := serve (← environments) ({ incoming := [.bytes read] } : Stream) card
    synchronize settings card.store next.store
    for answer in stream.written do
      IO.println (Hex.encode answer)
    (← IO.getStdout).flush
    answerLines settings next

/-- Runs a card with settings. -/
def run (settings : Settings) : IO UInt32 := do
  let volume ←
    if settings.ephemeral then pure Volume.empty
    else do
      prepare settings.storageDirectory
      loadFiles settings.storageDirectory
  match settings.openStore volume with
  | (.error e, _) =>
    IO.eprintln s!"cannot open the store: {e.message}"
    return 1
  | (.ok store, _) =>
    match Card.openOn settings.profile store with
    | .error e _ =>
      IO.eprintln s!"cannot load the card: {e.message}"
      return 1
    | .ok memory opened =>
      synchronize settings store opened
      answerLines settings ⟨memory, opened⟩
      return 0

end PgpCard.Program

open PgpCard in
/-- Reads the arguments and runs a card. -/
def main (arguments : List String) : IO UInt32 := do
  match Arguments.parse arguments with
  | .error .helpRequested =>
    IO.println Program.usage
    return 0
  | .error .versionRequested =>
    IO.println s!"pgpcard {Hex.spaced Card.version}"
    return 0
  | .error e =>
    IO.eprintln s!"{e.message}; {Program.usage}"
    return 2
  | .ok given =>
    let surroundings : Surroundings := {
      storageDirectory := ← IO.getEnv "NETCARD_STORAGE_DIR"
      home := ← IO.getEnv "HOME" }
    Program.run (given.settings surroundings)
