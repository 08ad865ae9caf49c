/-
What is read from files: settings, snapshots, and the resolver of the system.
-/
import Firewall.Cache.Basic
import Firewall.Policy.Snapshot
import Firewall.Settings.Reader
import Firewall.State.Store

namespace Firewall

variable {m : Type → Type} [Monad m] [Machine m]

/-- Reads a file of settings. -/
def Settings.load (path : String) : Work m Settings := do
  match Settings.ofText? (← Work.request (Machine.readText path)) with
  | some settings => return settings
  | none => throw (.settingsMalformed path)

/-- Reads a snapshot. -/
def Snapshot.load (path : String) : Work m Snapshot := do
  match Snapshot.ofText? (← Work.request (Machine.readText path)) with
  | some snapshot => return snapshot
  | none => throw (.snapshotMalformed path)

/-- Where the resolver of the system is configured. -/
def Resolver.path : String := "/etc/resolv.conf"

/-- The resolver to forward queries to: the one that is set, or that of the system, which
must not be the machine itself. -/
def DnsSettings.forwardTo (s : DnsSettings) : Work m Endpoint := do
  match s.forwarder with
  | some endpoint => return endpoint
  | none =>
    let text ← (Machine.readText Resolver.path : m (Except Fault String))
    Work.orFail .resolver (Resolver.forwarder text.toOption true)

/-- The cache to start with, which holds what was saved; without DNS there is none. -/
def Settings.openCache (s : Settings) : Work m (Option Cache) := do
  if !s.dns.enabled then return none
  let forwarder ← s.dns.forwardTo
  let saved ← Saved.load s.paths.state
  return some ((Cache.fresh forwarder).restore (Saved.allSets saved)).1

end Firewall
