/-
The program itself: files, the clock and the command line of a real machine.

Programs are not started and sockets are not opened from here, so a ruleset that
would have to be checked or loaded is refused, and the DNS proxy cannot listen.
-/
import Firewall.CommandLine.Run
import Std.Time.DateTime.Timestamp

namespace Firewall

/-- The refusal behind an error of the system. -/
def Fault.ofError : IO.Error → Fault
  | .noFileOrDirectory .. => .notFound
  | .permissionDenied .. => .permissionDenied
  | .alreadyExists .. => .alreadyExists
  | e@(.inappropriateType _ code _) =>
    if code = 20 then .notADirectory else if code = 21 then .isADirectory else .other (toString e)
  | e => .other (toString e)

/-- What an action gives, or the refusal. -/
def attempting {α : Type} (action : IO α) : IO (Except Fault α) := do
  match ← action.toBaseIO with
  | .ok a => return .ok a
  | .error e => return .error (.ofError e)

/-- The time of the clock. -/
def currentTime : IO Instant := do
  let t ← Std.Time.Timestamp.now
  let nanos : Int := t.toNanosecondsSinceUnixEpoch.val
  return ⟨nanos / 1_000_000_000, (nanos % 1_000_000_000).toNat, .inl (by omega)⟩

instance : Machine IO where
  read path := attempting (IO.FS.readBinFile path)
  write path contents := attempting (IO.FS.writeBinFile path contents)
  rename source target := attempting (IO.FS.rename source target)
  remove path := attempting (IO.FS.removeFile path)
  createFolders path := attempting (IO.FS.createDirAll path)
  launch program _ := return .error (.other ("programs cannot be started: " ++ program))
  listen _ := return .error (.other "sockets cannot be opened")
  now := currentTime

/-- Cycle after cycle, without end. -/
partial def keepUp (d : Daemon) : IO Unit := do
  let d ← d.turn
  IO.sleep (d.interval * 1000).toUInt32
  keepUp d

end Firewall

open Firewall in
/-- Runs the program with the words behind its name. -/
def main (words : List String) : IO UInt32 := do
  let report ← CommandLine.run keepUp words
  IO.print report.output
  IO.eprint report.complaints
  return report.exit.toUInt32
