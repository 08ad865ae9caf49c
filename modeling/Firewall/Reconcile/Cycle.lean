/-
One cycle: from the snapshot to the ruleset that is active.

A cycle reads the snapshot, compiles it against the cache at one point in time,
renders the ruleset, makes it the active one, loads it if that changed anything,
and saves the sets that its rules use.  It is given up at the first step that
fails.  The one thing that it does to the cache is to purge it.
-/
import Firewall.Reconcile.Sources
import Firewall.Ruleset.Activation
import Firewall.Ruleset.Render

namespace Firewall

/-- What cycles are run with. -/
structure Reconciler where
  snapshotPath : String
  statePath : String
  rulesetPath : String
  options : CompileOptions
  clusterPrefixes : PrefixSet
  rateLimits : List RateLimit
  nat : List NatEntry
  /-- Where the DNS proxy listens, if there is a cache. -/
  listen : Endpoint

/-- What came of a cycle. -/
structure Outcome where
  /-- Whether a ruleset was activated and loaded. -/
  changed : Bool
  /-- How many rules were refused. -/
  rejected : Nat
  deriving DecidableEq, Repr

/-- A part of a cycle, which works with the cache and may be given up. -/
abbrev Cycle (m : Type → Type) := ExceptT Error (StateT (Option Cache) m)

namespace Reconciler

/-- What the settings say. -/
def ofSettings (s : Settings) : Except Prefix.Invalid Reconciler := do
  let options ← s.firewall.compileOptions
  let clusterPrefixes ← s.firewall.clusterPrefixes
  return {
    snapshotPath := s.paths.snapshot, statePath := s.paths.state
    rulesetPath := s.firewall.rulesetPath
    options, clusterPrefixes
    rateLimits := s.firewall.rateLimits, nat := s.firewall.nat
    listen := s.dns.listenEndpoint }

/-- The ruleset of what was compiled. -/
def ruleset (r : Reconciler) (cache : Option Cache) (now : Instant) (c : Compiled) : Ruleset where
  ingress := c.ingress.toList
  egress := c.egress.toList
  sets := (cache.map (·.setsForRendering now)).getD []
  clusterPrefixes := r.clusterPrefixes
  rateLimits := r.rateLimits
  nat := r.nat
  dnsProxy := cache.map fun _ => r.listen

/-- The text of the ruleset for a snapshot, and what it was compiled to. -/
def renderSnapshot (r : Reconciler) (snapshot : Snapshot) (cache : Option Cache) (now : Instant) :
    Except Error (String × Compiled) := do
  let view := cache.map fun c selector => c.setsFor selector true now
  let compiled ← (compile r.options view snapshot.policies snapshot.services).mapError
    .cacheUnavailable
  let text ← (r.ruleset cache now compiled).render.mapError .prefixInvalid
  return (text, compiled)

variable {m : Type → Type} [Monad m] [Machine m]

/-- Work that has nothing to do with the cache is part of a cycle too. -/
instance : MonadLift (Work m) (Cycle m) := ⟨fun work => ExceptT.mk (StateT.lift work)⟩

/-- The text of the ruleset at a time, and what it was compiled to. -/
def renderAt (r : Reconciler) (now : Instant) : Cycle m (String × Compiled) := do
  let snapshot ← (Snapshot.load r.snapshotPath : Work m Snapshot)
  modify (Option.map (·.purge now))
  match r.renderSnapshot snapshot (← get) now with
  | .ok rendered => return rendered
  | .error e => throw e

/-- A cycle at a time. -/
def cycleAt (r : Reconciler) (loader : Loader m) (now : Instant) : Cycle m Outcome := do
  let (text, compiled) ← r.renderAt now
  let changed ← (Ruleset.activate loader r.rulesetPath text : Work m Bool)
  if changed then loader.load r.rulesetPath
  if (← get).isSome then (Saved.save r.statePath compiled.states : Work m Unit)
  return ⟨changed, compiled.rejected.size⟩

/-- A cycle now. -/
def cycle (r : Reconciler) (loader : Loader m) : Cycle m Outcome := do
  r.cycleAt loader (← (Machine.now : m Instant))

/-- A cycle of many: if it is given up, the next one may do better. -/
def turn (r : Reconciler) (loader : Loader m) : StateT (Option Cache) m Unit := do
  let _ ← (r.cycle loader).run

end Reconciler

end Firewall
