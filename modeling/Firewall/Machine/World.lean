/-
A machine that is a value.

The world has a disk, programs that behave in a given way, endpoints that may be
taken, and a clock that stands still.  Work that is run in it is a function of the
world it starts in, and leaves the world it ends in.
-/
import Firewall.Machine.Disk

namespace Firewall

/-- What happens to a ruleset file that is handed over. -/
inductive Handover where
  /-- The file was checked. -/
  | checked (path : String) (contents : Except Fault ByteArray)
  /-- The file was loaded, or refused. -/
  | loaded (path : String) (contents : Except Fault ByteArray) (accepted : Bool)

/-- A machine that is a value. -/
structure World where
  disk : Disk
  /-- How each program behaves. -/
  programs : String → List String → Except Fault Exit := fun _ _ => .error .notFound
  /-- Whether an endpoint can be listened on. -/
  endpoints : Endpoint → Except Fault Unit := fun _ => .ok ()
  clock : Instant
  /-- The ruleset files that were handed over, the first one first. -/
  handovers : List Handover := []

namespace World

/-- Runs a request to the disk. -/
def onDisk {α : Type} (f : Disk → α × Disk) : StateM World α := fun w =>
  let (a, disk) := f w.disk
  (a, { w with disk := disk })

instance : Machine (StateM World) where
  read path := fun w => (w.disk.read path, w)
  write path contents := onDisk (·.write path contents)
  rename source target := onDisk (·.rename source target)
  remove path := onDisk (·.remove path)
  createFolders path := onDisk (·.createFolders path)
  launch program arguments := fun w => (w.programs program arguments, w)
  listen endpoint := fun w => (w.endpoints endpoint, w)
  now := fun w => (w.clock, w)

end World

end Firewall
