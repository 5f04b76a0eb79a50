import PgpCard.Settings.Serial
import PgpCard.Settings.Settings

/-!
# Command-line arguments

An option takes its value after `=` or as the next argument.  A value that stands alone is
looked at when the next option or flag is met, or at the end, so that an argument which is no
option at all is reported before a bad value in front of it.

* `Arguments.parse` reads the arguments, `Arguments.settings` makes the settings.
-/

set_option autoImplicit false

namespace PgpCard

/-- Why arguments give no settings. -/
inductive UsageError
  /-- Two options exclude each other, or one stands twice. -/
  | conflict
  /-- A value cannot be read. -/
  | badValue
  /-- A value is missing, or empty where that is not allowed. -/
  | missingValue
  /-- A flag is given a value. -/
  | unexpectedValue
  | unknownArgument
  | helpRequested
  | versionRequested
  deriving DecidableEq, Repr

/-- The failure in words. -/
def UsageError.message : UsageError → String
  | .conflict => "an option stands twice or beside one that it excludes"
  | .badValue => "the value of an option cannot be read"
  | .missingValue => "an option has no value"
  | .unexpectedValue => "a flag takes no value"
  | .unknownArgument => "there is no such argument"
  | .helpRequested => "help was asked for"
  | .versionRequested => "the version was asked for"

/-- An option with a value. -/
inductive ValueOption
  | connect
  | listen
  | storageDirectory
  | reconnectDelay
  | serial
  deriving DecidableEq, Repr

/-- What a long name stands for. -/
inductive LongName
  | option (option : ValueOption)
  | ephemeral
  | help
  | version
  deriving DecidableEq, Repr

/-- What was asked for. -/
structure Arguments where
  connect : Option SocketAddress := none
  listen : Option SocketAddress := none
  storageDirectory : Option String := none
  reconnectDelay : Option Nat := none
  serial : Option UInt32 := none
  ephemeral : Bool := false
  deriving DecidableEq, Repr

namespace Arguments

/-- What a long name stands for. -/
def longName? (name : String) : Option LongName :=
  match name with
  | "connect" => some (.option .connect)
  | "listen" => some (.option .listen)
  | "storage-dir" => some (.option .storageDirectory)
  | "reconnect-delay-ms" => some (.option .reconnectDelay)
  | "serial" => some (.option .serial)
  | "ephemeral" => some .ephemeral
  | "help" => some .help
  | "version" => some .version
  | _ => none

/-- The option has a value already. -/
def isGiven (given : Arguments) : ValueOption → Bool
  | .connect => given.connect.isSome
  | .listen => given.listen.isSome
  | .storageDirectory => given.storageDirectory.isSome
  | .reconnectDelay => given.reconnectDelay.isSome
  | .serial => given.serial.isSome

/-- Reads the value of an option. -/
def readValue (option : ValueOption) (value : String) (given : Arguments) :
    Except UsageError Arguments :=
  match option with
  | .connect =>
    match SocketAddress.parse? value with
    | none => .error .badValue
    | some address => .ok { given with connect := some address }
  | .listen =>
    match SocketAddress.parse? value with
    | none => .error .badValue
    | some address => .ok { given with listen := some address }
  | .storageDirectory =>
    if value.isEmpty then .error .missingValue
    else .ok { given with storageDirectory := some value }
  | .reconnectDelay =>
    match parseUnsigned 10 UInt64.size value.toList with
    | .error _ => .error .badValue
    | .ok delay => .ok { given with reconnectDelay := some delay }
  | .serial =>
    match Serial.parse value with
    | .error _ => .error .badValue
    | .ok serial => .ok { given with serial := some serial }

/-- Gives an option its value; no option has two. -/
def accept (option : ValueOption) (value : String) (given : Arguments) :
    Except UsageError Arguments :=
  if given.isGiven option then .error .conflict else readValue option value given

/-- An option whose value has not been read: the value is still to come, or stood alone. -/
abbrev Waiting := Option (ValueOption × Option String)

/-- Reads the value of the option that waits for it. -/
def settle (waiting : Waiting) (given : Arguments) : Except UsageError Arguments :=
  match waiting with
  | none => .ok given
  | some (_, none) => .error .missingValue
  | some (option, some value) => accept option value given

/-- The parts of an argument before and after its first equals sign. -/
def splitEquals (text : List Char) : String × Option String :=
  let name := String.ofList (text.takeWhile (· != '='))
  match text.dropWhile (· != '=') with
  | [] => (name, none)
  | _ :: value => (name, some (String.ofList value))

/-- Takes an argument that starts with two dashes. -/
def takeLong (text : List Char) (waiting : Waiting) (given : Arguments) :
    Except UsageError (Waiting × Arguments) :=
  let (name, attached) := splitEquals text
  match longName? name, attached with
  | none, _ => .error .unknownArgument
  | some (.option option), none => do
    let given ← settle waiting given
    return (some (option, none), given)
  | some (.option option), some value => do
    let given ← settle waiting given
    return (none, ← accept option value given)
  | some _, some _ => .error .unexpectedValue
  | some .ephemeral, none => do
    let given ← settle waiting given
    if given.ephemeral then .error .conflict else return (none, { given with ephemeral := true })
  | some .help, none => do
    let _ ← settle waiting given
    .error .helpRequested
  | some .version, none => do
    let _ ← settle waiting given
    .error .versionRequested

/-- Takes an argument that starts with one dash; only the first letter after it matters. -/
def takeShort (letter : Char) (waiting : Waiting) (given : Arguments) :
    Except UsageError (Waiting × Arguments) :=
  if letter = 'h' then do
    let _ ← settle waiting given
    .error .helpRequested
  else if letter = 'V' then do
    let _ ← settle waiting given
    .error .versionRequested
  else .error .unknownArgument

/-- Takes the arguments one after another.  After two dashes alone no argument is an option, and
there are no others. -/
def take : List String → Waiting → Arguments → Except UsageError Arguments
  | [], waiting, given => settle waiting given
  | argument :: rest, waiting, given =>
    match argument.toList with
    | ['-', '-'] => if rest.isEmpty then settle waiting given else .error .unknownArgument
    | '-' :: '-' :: text => do
      let (waiting, given) ← takeLong text waiting given
      take rest waiting given
    | '-' :: letter :: _ => do
      let (waiting, given) ← takeShort letter waiting given
      take rest waiting given
    | _ =>
      match waiting with
      | some (option, none) => take rest (some (option, some argument)) given
      | _ => .error .unknownArgument

/-- What the arguments ask for. -/
def parse (arguments : List String) : Except UsageError Arguments := do
  let given ← take arguments none {}
  if given.connect.isSome && given.listen.isSome then .error .conflict else return given

/-- The settings that arguments ask for. -/
def settings (given : Arguments) (surroundings : Surroundings) : Settings :=
  let base := Settings.default surroundings
  let (mode, address) :=
    match given.listen, given.connect with
    | some address, _ => (.listen, address)
    | none, some address => (.connect, address)
    | none, none => (base.mode, base.address)
  { base with
    mode, address
    storageDirectory := given.storageDirectory.getD base.storageDirectory
    serial := given.serial.getD base.serial
    ephemeral := given.ephemeral
    reconnectDelay := given.reconnectDelay.getD base.reconnectDelay }

end Arguments

end PgpCard
