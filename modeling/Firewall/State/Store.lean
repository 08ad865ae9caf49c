/-
The file of the saved state.

A state is written under another name first and then takes the place of the saved
one, so that the saved one is never seen half written.
-/
import Firewall.Error
import Firewall.State.Saved

namespace Firewall.Saved

variable {m : Type → Type} [Monad m] [Machine m]

/-- Reads the saved state; where there is none it is empty. -/
def load (path : String) : Work m PolicyStates := do
  match ← Work.request (Machine.unlessMissing <$> Machine.readText path) with
  | none => return ∅
  | some text => match ofText? text with
    | some states => return states
    | none => throw (.stateMalformed path)

/-- The name of the file that a state is written to first. -/
def stagedName (path : String) : String := path ++ ".tmp"

/-- Saves a state, and creates the folders that its file is in. -/
def save (path : String) (states : PolicyStates) : Work m Unit := do
  match Path.parent? path with
  | some folder => Work.request (Machine.createFolders folder)
  | none => pure ()
  Work.request (Machine.write (stagedName path) (text states).toUTF8)
  Work.request (Machine.rename (stagedName path) path)

end Firewall.Saved
