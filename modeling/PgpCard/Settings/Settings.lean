import PgpCard.Profile
import PgpCard.Settings.Address
import PgpCard.Store.Choice

/-!
# Settings

What a running card needs to know: where its state is kept, how it reaches its host, and its
serial number.
-/

set_option autoImplicit false

namespace PgpCard

/-- How the card reaches its host. -/
inductive LinkMode
  /-- It dials the host, and dials again after every disconnection. -/
  | connect
  /-- It waits for hosts. -/
  | listen
  deriving DecidableEq, Repr

/-- The settings of a running card. -/
structure Settings where
  storageDirectory : String
  /-- The state is kept in memory only. -/
  ephemeral : Bool
  mode : LinkMode
  /-- The host's address, or the one to wait at. -/
  address : SocketAddress
  /-- The pause before dialling again, in milliseconds. -/
  reconnectDelay : Nat
  serial : UInt32
  deriving DecidableEq, Repr

/-- What the settings take from the environment of the program. -/
structure Surroundings where
  /-- A directory named for the state of the card. -/
  storageDirectory : Option String
  /-- The home directory of the user. -/
  home : Option String
  deriving DecidableEq, Repr

namespace Settings

/-- The port at which hosts wait. -/
def defaultPort : Nat := 5511

/-- The pause before dialling again, in milliseconds. -/
def defaultDelay : Nat := 3000

/-- The directory below the home directory. -/
def homeDirectoryName : String := ".netcard"

/-- The directory where there is no home directory. -/
def systemDirectory : String := "/var/lib/netcard"

/-- A name below a directory. -/
def below (directory name : String) : String :=
  if directory.endsWith "/" then directory ++ name else directory ++ "/" ++ name

/-- The directory that is used when none is asked for. -/
def defaultDirectory (surroundings : Surroundings) : String :=
  match surroundings.storageDirectory with
  | some directory => directory
  | none =>
    match surroundings.home with
    | some home => if home.isEmpty then systemDirectory else below home homeDirectoryName
    | none => systemDirectory

/-- The settings that are used when nothing is asked for. -/
def default (surroundings : Surroundings) : Settings where
  storageDirectory := defaultDirectory surroundings
  ephemeral := false
  mode := .connect
  address := .v4 127 0 0 1 defaultPort
  reconnectDelay := defaultDelay
  serial := Profile.defaultSerial

/-- The identity of the card. -/
def profile (settings : Settings) : Profile := .withSerial settings.serial

/-- Opens the store that the settings ask for, on a volume where it may be needed. -/
def openStore (settings : Settings) (volume : Volume) : Except StoreError ChosenStore × Volume :=
  if settings.ephemeral then (.ok (.memory .empty), volume)
  else
    match DirectoryStore.openAt (Path.ofText settings.storageDirectory) volume with
    | (.ok store, volume) => (.ok (.directory store), volume)
    | (.error e, volume) => (.error e, volume)

end Settings

end PgpCard
