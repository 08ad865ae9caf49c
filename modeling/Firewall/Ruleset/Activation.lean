/-
Making a ruleset the active one.

The active ruleset is a file.  A ruleset whose digest is that of the active file
changes nothing.  Any other is written next to that file first, checked there, and
takes its place only if the check accepts it; a ruleset that is refused is removed
again.  So what becomes active is always what was checked.
-/
import Firewall.Ruleset.Loader
import Firewall.Text.Digest

namespace Firewall.Ruleset

variable {m : Type → Type} [Monad m] [Machine m]

/-- The name of the file that a ruleset is checked in. -/
def stagedName (path : String) : String := path ++ ".new"

/-- Checks a staged ruleset.  If it is refused it is removed, as far as that can be done. -/
def checkStaged (loader : Loader m) (staged : String) : Work m Unit :=
  tryCatch (loader.check staged) fun e => do
    let _ ← (Machine.remove staged : m (Except Fault Unit))
    throw e

/-- What the active file holds, if there is one. -/
def active (path : String) : Work m (Option ByteArray) :=
  Work.request (Machine.unlessMissing <$> Machine.read path)

/-- Makes a text the active ruleset, unless it is; tells whether it was not. -/
def activate (loader : Loader m) (path text : String) : Work m Bool := do
  if (← active path).map Digest.ofBytes = some (Digest.ofText text) then return false
  let staged := stagedName path
  Work.request (Machine.write staged text.toUTF8)
  checkStaged loader staged
  Work.request (Machine.rename staged path)
  return true

end Firewall.Ruleset
