import PgpCard.Store.Backend
import PgpCard.Text.Utf8

/-!
# Volumes

A volume is a tree of directories and files, given by what stands at each place.  A place is
the list of names that lead to it from the root, which is itself a directory.  A path may hold
more than names: empty components and `.` stay where they are, and `..` goes back by one name.

Each change of a volume is one step, and a schedule decides the fate of each step in turn: it is
done, it is refused and changes nothing, or the machine stops before it.  A machine that has
stopped does nothing more until it is started again.  What was done before a stop stays done.

* `Volume.locate` finds the place that a path leads to.
* `Volume.create`, `Volume.fill`, `Volume.flush`, `Volume.move` and `Volume.remove` are the steps
  of writing a file.
-/

set_option autoImplicit false

namespace PgpCard

/-- The components that lead from the root to a place. -/
abbrev Path := List String

namespace Path

/-- The components of a text that separates them by slashes, seen from the root. -/
def ofText (text : String) : Path :=
  match (text.toList.splitOn '/').map String.ofList with
  | "" :: rest => rest
  | components => components

/-- The path of a text, seen from a directory unless the text starts at the root. -/
def resolve (directory : Path) (text : String) : Path :=
  if text.toList.head? = some '/' then ofText text else directory ++ ofText text

/-- The length of a path as text, in bytes, with a slash in front of each component. -/
def size : Path → Nat
  | [] => 0
  | component :: rest => (Utf8.ofString component).length + 1 + size rest

/-- The characters before the last dot, unless there is no dot or only one in front. -/
def stem (name : List Char) : List Char :=
  match name.reverse.dropWhile (· != '.') with
  | _ :: before => if before.isEmpty then name else before.reverse
  | [] => name

/-- The name with another ending behind its last dot.  Where only one dot stands before the
ending, the name without it is `..`, which takes no ending. -/
def rename (ending name : String) : String :=
  match stem name.toList with
  | ['.'] => ".."
  | kept => String.ofList kept ++ "." ++ ending

/-- The path with another ending behind the last dot of its last name. -/
def withEnding (ending : String) (path : Path) : Path :=
  match path.getLast? with
  | none => path
  | some name => path.dropLast ++ [rename ending name]

end Path

/-- Why a place on a volume cannot be used. -/
inductive VolumeError
  | notFound
  | notDirectory
  | isDirectory
  | alreadyThere
  | nameTooLong
  | invalidName
  /-- The schedule refused the step. -/
  | refused
  /-- The machine has stopped. -/
  | stopped
  deriving DecidableEq, Repr

/-- What stands at a path. -/
inductive Node
  | file (data : Bytes)
  | directory (mode : Nat)
  deriving DecidableEq, Repr

/-- The fate of a step. -/
inductive Fate
  | done
  | refused
  | stopped
  deriving DecidableEq, Repr

/-- A tree of directories and files. -/
structure Volume where
  /-- What stands at each path; the root is left out. -/
  nodes : List (Path × Node) := []
  /-- The fate of each step. -/
  fates : Nat → Fate := fun _ => .done
  /-- How many steps there have been. -/
  steps : Nat := 0
  /-- The machine is running. -/
  running : Bool := true

namespace Volume

/-- The permissions of a new directory. -/
def defaultMode : Nat := 0o755

/-- The permissions of a new file. -/
def fileMode : Nat := 0o644

/-- The permissions of a directory that only its owner may use. -/
def privateMode : Nat := 0o700

/-- The longest name, in bytes. -/
def maxName : Nat := 255

/-- The longest path as text, in bytes. -/
def maxPath : Nat := 4095

/-- Nothing but a root. -/
def empty : Volume := {}

/-- What stands at a path. -/
def node? (volume : Volume) (path : Path) : Option Node :=
  if path.isEmpty then some (.directory defaultMode)
  else (volume.nodes.find? (·.1 == path)).map (·.2)

/-- A directory stands at a path. -/
def isDirectory (volume : Volume) (path : Path) : Bool :=
  match volume.node? path with
  | some (.directory _) => true
  | _ => false

/-- The permissions of what stands at a path. -/
def mode? (volume : Volume) (path : Path) : Option Nat :=
  match volume.node? path with
  | some (.directory mode) => some mode
  | some (.file _) => some fileMode
  | none => none

/-- The volume with something else at a path. -/
def put (volume : Volume) (path : Path) (node : Node) : Volume :=
  { volume with nodes := volume.nodes.filter (·.1 != path) ++ [(path, node)] }

/-- The volume with nothing at a path. -/
def drop (volume : Volume) (path : Path) : Volume :=
  { volume with nodes := volume.nodes.filter (·.1 != path) }

/-- The volume without a path and all that is below it. -/
def dropTree (volume : Volume) (path : Path) : Volume :=
  { volume with nodes := volume.nodes.filter fun entry => !path.isPrefixOf entry.1 }

/-- The place to which components lead from a directory.  What a name leads to must be a
directory if another component follows. -/
def follow (volume : Volume) (current : Path) : List String → Except VolumeError Path
  | [] => .ok current
  | "" :: rest | "." :: rest => follow volume current rest
  | ".." :: rest => follow volume current.dropLast rest
  | name :: rest =>
    if maxName < (Utf8.ofString name).length then .error .nameTooLong
    else
      let next := current ++ [name]
      if rest.isEmpty then .ok next
      else match volume.node? next with
        | none => .error .notFound
        | some (.file _) => .error .notDirectory
        | some (.directory _) => follow volume next rest

/-- The place that a path leads to. -/
def locate (volume : Volume) (path : Path) : Except VolumeError Path :=
  if path.any fun name => name.toList.contains '\x00' then .error .invalidName
  else if maxPath < path.size then .error .nameTooLong
  else follow volume [] path

/-- The content of a file. -/
def read (volume : Volume) (path : Path) : Except VolumeError Bytes :=
  match volume.locate path with
  | .error e => .error e
  | .ok place =>
    match volume.node? place with
    | none => .error .notFound
    | some (.directory _) => .error .isDirectory
    | some (.file data) => .ok data

/-- Something stands where a path leads. -/
def has (volume : Volume) (path : Path) : Bool :=
  match volume.locate path with
  | .error _ => false
  | .ok place => (volume.node? place).isSome

/-- The machine is started again. -/
def restart (volume : Volume) : Volume := { volume with running := true }

/-! ## Steps -/

/-- One step: a change that may be impossible, with the fate that the schedule gives it. -/
def step (change : Volume → Except VolumeError Volume) : Attempt VolumeError Volume Unit :=
  fun volume =>
    if !volume.running then .error .stopped volume
    else
      let counted := { volume with steps := volume.steps + 1 }
      match volume.fates volume.steps with
      | .stopped => .error .stopped { counted with running := false }
      | .refused => .error .refused counted
      | .done =>
        match change counted with
        | .ok changed => .ok () changed
        | .error e => .error e counted

/-- Makes an empty file, or empties the one that is there. -/
def create (path : Path) : Attempt VolumeError Volume Unit := step fun volume =>
  match volume.locate path with
  | .error e => .error e
  | .ok place =>
    if volume.isDirectory place then .error .isDirectory else .ok (volume.put place (.file []))

/-- Writes the content of a file. -/
def fill (path : Path) (data : Bytes) : Attempt VolumeError Volume Unit := step fun volume =>
  match volume.locate path with
  | .error e => .error e
  | .ok place => .ok (volume.put place (.file data))

/-- Makes sure that what was written to a file or a directory is on the medium. -/
def flush : Attempt VolumeError Volume Unit := step .ok

/-- Puts a file where another one may be. -/
def move (source target : Path) : Attempt VolumeError Volume Unit := step fun volume =>
  match volume.read source, volume.locate source, volume.locate target with
  | .ok data, .ok old, .ok new =>
    if volume.isDirectory new then .error .isDirectory
    else .ok ((volume.drop old).put new (.file data))
  | .error e, _, _ | _, .error e, _ | _, _, .error e => .error e

/-- Removes a file. -/
def remove (path : Path) : Attempt VolumeError Volume Unit := step fun volume =>
  match volume.read path, volume.locate path with
  | .ok _, .ok place => .ok (volume.drop place)
  | .error e, _ | _, .error e => .error e

/-- Makes the directories on the way from one that is there, one step for each that is
missing. -/
def descend (current : Path) : List String → Attempt VolumeError Volume Unit
  | [] => pure ()
  | "" :: rest | "." :: rest => descend current rest
  | ".." :: rest => descend current.dropLast rest
  | name :: rest => do
    let next := current ++ [name]
    match (← get).node? next with
    | some (.directory _) => descend next rest
    | some (.file _) => throw .alreadyThere
    | none =>
      step fun volume => (volume.locate next).map (volume.put · (.directory defaultMode))
      descend next rest

/-- Makes a directory and those that lead to it, where they are missing. -/
def makeDirectory (path : Path) : Attempt VolumeError Volume Unit := descend [] path

/-- Gives a directory permissions. -/
def setMode (path : Path) (mode : Nat) : Attempt VolumeError Volume Unit := step fun volume =>
  match volume.locate path with
  | .error e => .error e
  | .ok place =>
    if volume.isDirectory place then .ok (volume.put place (.directory mode))
    else .error .notDirectory

/-- The names in a directory, those of directories marked, in the order of their characters. -/
def list (volume : Volume) (path : Path) : List (String × Bool) :=
  volume.nodes.filterMap fun (place, node) =>
    if place.dropLast = path ∧ place ≠ [] then
      place.getLast?.map fun name => (name, node matches .directory _)
    else none

end Volume

end PgpCard
