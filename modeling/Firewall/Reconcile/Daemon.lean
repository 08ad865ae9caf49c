/-
What runs cycle after cycle.
-/
import Firewall.Dns.Proxy
import Firewall.Reconcile.Cycle

namespace Firewall

/-- What runs cycle after cycle. -/
structure Daemon where
  reconciler : Reconciler
  /-- The program that checks and loads rulesets. -/
  program : String
  /-- Seconds between two cycles. -/
  interval : Nat
  cache : Option Cache

namespace Daemon

variable {m : Type → Type} [Monad m] [Machine m]

/-- What the settings ask for; nothing is listened on yet. -/
def prepare (s : Settings) : Work m Daemon := do
  let cache ← s.openCache
  let reconciler ← Work.orFail .prefixInvalid (Reconciler.ofSettings s)
  return ⟨reconciler, s.firewall.binary, s.firewall.interval, cache⟩

/-- What the settings ask for, with the DNS proxy listening if there is a cache. -/
def start (s : Settings) : Work m Daemon := do
  let daemon ← prepare s
  if daemon.cache.isSome then s.dns.proxy.start
  return daemon

/-- What checks and loads rulesets. -/
def loader (d : Daemon) : Loader m := .ofProgram d.program

/-- Does a part of a cycle with the cache there is. -/
def perform {α : Type} (d : Daemon) (part : Cycle m α) : Work m α :=
  ExceptT.mk (part.run.run' d.cache)

/-- Goes through one cycle of many. -/
def turn (d : Daemon) : m Daemon := do
  let (_, cache) ← (d.reconciler.turn d.loader).run d.cache
  return { d with cache }

end Daemon

end Firewall
