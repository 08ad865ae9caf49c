/-
What checks ruleset files and loads them.

On a real machine this is a program, run once with the arguments for a check and
once with those for loading.  In a `World` it is a behaviour, which may be any
function of the path and of what the file holds, and every handover is noted.
-/
import Firewall.Error
import Firewall.Machine.World

namespace Firewall

/-- What checks ruleset files and loads them. -/
structure Loader (m : Type → Type) where
  check (path : String) : Work m Unit
  load (path : String) : Work m Unit

namespace Loader

variable {m : Type → Type} [Monad m] [Machine m]

/-- The text of a command. -/
def commandText (program : String) (arguments : List String) : String :=
  String.intercalate " " (program :: arguments)

/-- Runs a program, which must end well. -/
def run (program : String) (arguments : List String) : Work m Unit := do
  let exit ← Work.request (Machine.launch program arguments)
  if exit.success then return
  throw (.commandFailed (commandText program arguments) (Text.trimmed exit.complaint))

/-- Turns the failure of the command into a refusal of the ruleset. -/
def asRefusal (path : String) : Error → Error
  | .commandFailed _ complaint => .rulesetInvalid path complaint
  | e => e

/-- Checks and loads with a program. -/
def ofProgram (program : String) : Loader m where
  check path := ExceptT.adapt (asRefusal path) (run program ["-c", "-f", path])
  load path := run program ["-f", path]

end Loader

/-- How a loader behaves, given the path of a file and what it holds. -/
structure Behaviour where
  check : String → Except Fault ByteArray → Except Error Unit := fun _ _ => .ok ()
  /-- Whether the file that is checked is gone afterwards. -/
  removesChecked : Bool := false
  load : String → Except Fault ByteArray → Except Error Unit := fun _ _ => .ok ()

namespace World

/-- Notes a handover. -/
def note (h : Handover) : StateM World Unit :=
  modify fun w => { w with handovers := w.handovers ++ [h] }

/-- The loader that behaves in a given way. -/
def loader (b : Behaviour) : Loader (StateM World) where
  check path := show StateM World (Except Error Unit) from do
    let contents ← Machine.read path
    note (.checked path contents)
    if b.removesChecked then
      let _ ← (Machine.remove path : StateM World (Except Fault Unit))
    return b.check path contents
  load path := show StateM World (Except Error Unit) from do
    let contents ← Machine.read path
    let verdict := b.load path contents
    note (.loaded path contents verdict.isOk)
    return verdict

end World

end Firewall
