/-
What the program asks of the machine it runs on.

Files, programs, sockets and the clock are reached through `Machine` alone.  What
the library decides is therefore written once, and runs on a real machine as well
as on the one of `World`, of which theorems speak.

Every request may be refused.  A refusal is a value, and who asked decides whether
it ends the work.
-/
import Firewall.Address.Endpoint
import Firewall.Text.Blank
import Firewall.Text.Split
import Firewall.Time.Instant

namespace Firewall

/-- Why the system refuses a request. -/
inductive Fault where
  | notFound
  | permissionDenied
  | alreadyExists
  | notADirectory
  | isADirectory
  | nameTooLong
  | addressInUse
  | addressNotAvailable
  /-- A path holds the character that ends one. -/
  | nulInPath
  /-- What is to be run, or an argument of it, holds the character that ends one. -/
  | nulInArgument
  /-- A file that is to be read as text is none. -/
  | notText
  | other (text : String)
  deriving DecidableEq, Repr, Inhabited

/-- The system's words for a refusal. -/
def Fault.message : Fault → String
  | notFound => "No such file or directory (os error 2)"
  | permissionDenied => "Permission denied (os error 13)"
  | alreadyExists => "File exists (os error 17)"
  | notADirectory => "Not a directory (os error 20)"
  | isADirectory => "Is a directory (os error 21)"
  | nameTooLong => "File name too long (os error 36)"
  | addressInUse => "Address already in use (os error 98)"
  | addressNotAvailable => "Cannot assign requested address (os error 99)"
  | nulInPath => "file name contained an unexpected NUL byte"
  | nulInArgument => "nul byte found in provided data"
  | notText => "stream did not contain valid UTF-8"
  | other text => text

/-- How a program ended, and what it had to say about it. -/
structure Exit where
  success : Bool
  complaint : String := ""
  deriving DecidableEq, Repr

/-- What can be asked of a machine. -/
class Machine (m : Type → Type) where
  /-- What a file holds. -/
  read (path : String) : m (Except Fault ByteArray)
  /-- Makes a file hold something, whatever it held. -/
  write (path : String) (contents : ByteArray) : m (Except Fault Unit)
  /-- Gives a file another name, in place of whatever had that name. -/
  rename (source target : String) : m (Except Fault Unit)
  /-- Removes a file. -/
  remove (path : String) : m (Except Fault Unit)
  /-- Creates a folder, and those that it is in. -/
  createFolders (path : String) : m (Except Fault Unit)
  /-- Runs a program to its end. -/
  launch (program : String) (arguments : List String) : m (Except Fault Exit)
  /-- Listens on an endpoint, for datagrams and for connections. -/
  listen (endpoint : Endpoint) : m (Except Fault Unit)
  /-- The time. -/
  now : m Instant

namespace Machine

variable {m : Type → Type} [Monad m] [Machine m]

/-- What a file holds, as a text. -/
def readText (path : String) : m (Except Fault String) := do
  match ← read path with
  | .error fault => return .error fault
  | .ok contents => return match String.fromUTF8? contents with
    | some text => .ok text
    | none => .error .notText

/-- What a request gives, if a missing file is nothing to complain about. -/
def unlessMissing {α : Type} : Except Fault α → Except Fault (Option α)
  | .ok a => .ok (some a)
  | .error .notFound => .ok none
  | .error fault => .error fault

end Machine

/-! ### Paths -/

namespace Path

/-- Whether a part of a path leads nowhere else. -/
def isIdle (part : List Char) : Bool := part.isEmpty || part == ['.']

/-- The path of the folder that a path is in, unless the path is a name
alone or that of the root. -/
def parent? (path : String) : Option String :=
  let parts := (Text.pieces '/' path.toList).reverse.dropWhile isIdle
  let text := Text.join ['/'] (parts.drop 1).reverse
  if text.isEmpty then none else some (String.ofList text)

end Path

end Firewall
