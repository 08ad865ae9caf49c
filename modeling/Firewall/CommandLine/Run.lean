/-
What the program does for its arguments.

A dry run prints the ruleset and says which rules were refused; a single run goes
through one cycle; otherwise the program serves until it is told to stop.  What
keeps it serving is handed in, for it may never end.
-/
import Firewall.CommandLine.Arguments
import Firewall.Reconcile.Daemon

namespace Firewall

/-- What a run leaves behind. -/
structure Report where
  exit : Nat := 0
  output : String := ""
  complaints : String := ""
  deriving DecidableEq, Repr, Inhabited

namespace CommandLine

/-- The text that explains the arguments. -/
def helpText : String := String.join ([
  "Compile network policies into an nftables ruleset with FQDN-aware DNS proxying",
  "",
  "Usage: nftwall [OPTIONS]",
  "",
  "Options:",
  "      --config <PATH>    Path to configuration file (TOML)",
  "      --snapshot <PATH>  Path to the policy and service snapshot (TOML), overrides the config file",
  "      --once             Run a single reconcile cycle and exit",
  "      --dry-run          Print the rendered ruleset instead of writing and applying it",
  "  -h, --help             Print help",
  "  -V, --version          Print version"].map (· ++ "\n"))

/-- The text that tells the version. -/
def versionText : String := "nftwall 0.0.1\n"

/-- What is said about wrong arguments. -/
def complaint : Stop → String
  | .unknownArgument => "unexpected argument"
  | .invalidValue => "a value is required"
  | .tooManyValues => "unexpected value"
  | .argumentConflict => "the argument cannot be used multiple times"
  | .help | .version => ""

/-- What is left behind where no run begins. -/
def Stop.report : Stop → Report
  | .help => { output := helpText }
  | .version => { output := versionText }
  | stop => { exit := 2, complaints := "error: " ++ complaint stop ++ "\n" }

variable {m : Type → Type} [Monad m] [Machine m]

/-- The settings of a run. -/
def settings (a : Arguments) : Work m Settings := do
  let s ← match a.config with
    | some path => Settings.load path
    | none => pure {}
  return match a.snapshot with
    | some path => { s with paths := { s.paths with snapshot := path } }
    | none => s

/-- The line on a refused rule. -/
def rejectedLine (r : Rejected) : String :=
  "rejected " ++ r.rule ++ " of " ++ r.object ++ ": " ++ r.reason ++ "\n"

/-- Prints the ruleset, and says which rules were refused. -/
def dryRun (s : Settings) : Work m Report := do
  let daemon ← Daemon.prepare s
  let now ← (Machine.now : m Instant)
  let (text, compiled) ← daemon.perform (daemon.reconciler.renderAt now)
  return { output := text, complaints := String.join (compiled.rejected.toList.map rejectedLine) }

/-- Goes through one cycle. -/
def runOnce (s : Settings) : Work m Report := do
  let daemon ← Daemon.prepare s
  let _ ← daemon.perform (daemon.reconciler.cycle daemon.loader)
  return {}

/-- Serves, which is kept up by what is handed in. -/
def serve (keepUp : Daemon → m Unit) (s : Settings) : Work m Report := do
  keepUp (← Daemon.start s)
  return {}

/-- Does what the arguments ask for. -/
def perform (keepUp : Daemon → m Unit) (a : Arguments) : Work m Report := do
  let s ← settings a
  if a.dryRun then dryRun s else if a.once then runOnce s else serve keepUp s

/-- Runs the program. -/
def run (keepUp : Daemon → m Unit) (words : List String) : m Report := do
  match Arguments.parse words with
  | .error stop => return Stop.report stop
  | .ok a => match ← (perform keepUp a : m (Except Error Report)) with
    | .ok report => return report
    | .error e => return { exit := 1, complaints := "Error: " ++ e.message ++ "\n" }

end CommandLine

end Firewall
