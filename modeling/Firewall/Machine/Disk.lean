/-
A disk: files and folders, each at its place.

A place is the list of names that lead to it, from the root, whose name is the
slash, or from the working folder.  A path is followed name by name, and every
name on the way has to be that of a folder: a missing one, and a file, are
different refusals.

Requests may also be refused for no reason on the disk itself.  `failing` says
which ones are, and how much of a file was written before.
-/
import Firewall.Machine.Basic
import Firewall.Order.Dictionary

namespace Firewall

/-- The names that lead to a place. -/
abbrev Place := List String

/-- What is at a place. -/
inductive Node where
  | file (contents : ByteArray)
  | folder

instance : DecidableEq Node
  | .file a, .file b => decidable_of_iff (a.data = b.data)
      ⟨fun h => congrArg Node.file (ByteArray.ext h),
        fun h => congrArg ByteArray.data (Node.file.inj h)⟩
  | .folder, .folder => isTrue rfl
  | .file _, .folder => isFalse Node.noConfusion
  | .folder, .file _ => isFalse Node.noConfusion

/-- A request to a disk. -/
inductive DiskRequest where
  | read (path : String)
  | write (path : String)
  | rename (source target : String)
  | remove (path : String)
  | createFolders (path : String)
  deriving DecidableEq, Repr

/-- A refusal that the disk itself gives no reason for. -/
structure Failure where
  fault : Fault
  /-- What a file that was to be written holds afterwards, if it was begun. -/
  written : Option ByteArray := none

/-- A disk. -/
structure Disk where
  nodes : Dictionary Place Node
  failing : DiskRequest → Option Failure := fun _ => none

namespace Disk

/-! ### Places -/

/-- The place of the root. -/
def root : Place := ["/"]

/-- Whether a place is there without being on any disk. -/
def isGiven (p : Place) : Bool := p.isEmpty || p == root

/-- What is at a place. -/
def at? (d : Disk) (p : Place) : Option Node := if isGiven p then some .folder else d.nodes.get? p

/-- Refuses what is no folder. -/
def checkFolder (d : Disk) (p : Place) : Except Fault Unit :=
  match d.at? p with
  | some .folder => .ok ()
  | some (.file _) => .error .notADirectory
  | none => .error .notFound

/-- The place that a name leads to. -/
def step (p : Place) (name : List Char) : Place :=
  if Path.isIdle name then p
  else if name = ['.', '.'] then (if isGiven p then p else p.dropLast)
  else p ++ [String.ofList name]

/-- The longest name that a file can have, in bytes. -/
def longestName : Nat := 255

/-- Follows names from a place. -/
def follow (d : Disk) (p : Place) : List (List Char) → Except Fault Place
  | [] => .ok p
  | name :: rest => do
    d.checkFolder p
    if (String.ofList name).utf8ByteSize > longestName then throw .nameTooLong
    follow d (step p name) rest

/-- Where a path starts, and the names in it. -/
def start (path : String) : Place × List (List Char) :=
  match Text.pieces '/' path.toList with
  | [] :: names => (root, names)
  | names => ([], names)

/-- Refuses a text that is no path. -/
def checkPath (path : String) : Except Fault Unit :=
  if path.toList.contains '\x00' then .error .nulInPath
  else if path = "" then .error .notFound
  else .ok ()

/-- The place that a path leads to, whatever is there. -/
def placeOf (d : Disk) (path : String) : Except Fault Place := do
  checkPath path
  d.follow (start path).1 (start path).2

/-! ### Requests -/

/-- The disk with something at a place. -/
def put (d : Disk) (p : Place) (n : Node) : Disk := { d with nodes := d.nodes.insert p n }

/-- The disk with nothing at a place. -/
def clear (d : Disk) (p : Place) : Disk := { d with nodes := d.nodes.erase p }

/-- Refuses a request that fails. -/
def checkRequest (d : Disk) (r : DiskRequest) : Except Fault Unit :=
  match d.failing r with
  | some failure => .error failure.fault
  | none => .ok ()

/-- The contents of the file that a path leads to. -/
def contents? (d : Disk) (path : String) : Except Fault ByteArray := do
  match d.at? (← d.placeOf path) with
  | some (.file contents) => return contents
  | some .folder => throw .isADirectory
  | none => throw .notFound

/-- What a file holds. -/
def read (d : Disk) (path : String) : Except Fault ByteArray := do
  d.checkRequest (.read path)
  d.contents? path

/-- The place of a file that can be written. -/
def writable (d : Disk) (path : String) : Except Fault Place := do
  let p ← d.placeOf path
  if d.at? p = some .folder then throw .isADirectory
  return p

/-- Makes a file hold something. -/
def write (d : Disk) (path : String) (contents : ByteArray) : Except Fault Unit × Disk :=
  match d.writable path, d.failing (.write path) with
  | .error fault, _ => (.error fault, d)
  | .ok p, some ⟨fault, some begun⟩ => (.error fault, d.put p (.file begun))
  | .ok _, some ⟨fault, none⟩ => (.error fault, d)
  | .ok p, none => (.ok (), d.put p (.file contents))

/-- What a change leaves: the changed disk, or the refusal and the disk as it was. -/
def orUnchanged (d : Disk) : Except Fault Disk → Except Fault Unit × Disk
  | .ok d => (.ok (), d)
  | .error fault => (.error fault, d)

/-- Gives a file another name. -/
def rename (d : Disk) (source target : String) : Except Fault Unit × Disk := d.orUnchanged do
  d.checkRequest (.rename source target)
  let contents ← d.contents? source
  let p ← d.placeOf source
  let q ← d.writable target
  return (d.clear p).put q (.file contents)

/-- Removes a file. -/
def remove (d : Disk) (path : String) : Except Fault Unit × Disk := d.orUnchanged do
  d.checkRequest (.remove path)
  let _ ← d.contents? path
  return d.clear (← d.placeOf path)

/-- Follows names from a place and creates the folders that are missing. -/
def create (d : Disk) (p : Place) : List (List Char) → Except Fault Unit × Disk
  | [] => (.ok (), d)
  | name :: rest =>
    let q := step p name
    if (String.ofList name).utf8ByteSize > longestName then (.error .nameTooLong, d)
    else match d.at? q with
    | some .folder => create d q rest
    | some (.file _) =>
      (.error (if rest.all Path.isIdle then .alreadyExists else .notADirectory), d)
    | none => create (d.put q .folder) q rest

/-- Creates a folder, and those that it is in. -/
def createFolders (d : Disk) (path : String) : Except Fault Unit × Disk :=
  match (do checkPath path; d.checkRequest (.createFolders path)) with
  | .error fault => (.error fault, d)
  | .ok () => d.create (start path).1 (start path).2

/-! ### Looking at a disk -/

/-- The names in a folder, in ascending order. -/
def names (d : Disk) (p : Place) : List String :=
  d.nodes.keys.filterMap fun q =>
    if q.length = p.length + 1 && q.dropLast == p then q.getLast? else none

end Disk

end Firewall
