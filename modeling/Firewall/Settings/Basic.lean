/-
The settings of the program.
-/
import Firewall.Policy.Compile
import Firewall.Ruleset.Basic

namespace Firewall

/-- The settings of the DNS proxy. -/
structure DnsSettings where
  /-- Whether the proxy runs, and rules for host names are resolved. -/
  enabled : Bool := true
  listen : Address := .unspecified .v4
  port : PortNumber := dnsPort
  /-- The resolver to forward to; without it, that of the system. -/
  forwarder : Option Endpoint := none
  /-- How long to wait for an answer, in seconds. -/
  queryTimeout : Nat := 5
  deriving DecidableEq

/-- Where the proxy listens. -/
def DnsSettings.listenEndpoint (s : DnsSettings) : Endpoint := ⟨s.listen, s.port, 0⟩

/-- The program that checks and loads rulesets, unless another is set. -/
def defaultBinary : String := "nft"

/-- The settings of the ruleset. -/
structure FirewallSettings where
  rulesetPath : String := "/etc/nftables/nftwall.nft"
  binary : String := defaultBinary
  /-- The cluster's own prefixes, from which alone egress rules let traffic out. -/
  internalPrefixes : List String := []
  allowedIngress : Option (List String) := none
  allowedEgress : Option (List String) := none
  logAccepted : Bool := false
  rateLimits : List RateLimit := []
  nat : List NatEntry := []
  /-- Seconds between two cycles. -/
  reconcileInterval : Nat := 10
  deriving DecidableEq

namespace FirewallSettings

/-- What applies to every rule, or the first entry that is no prefix. -/
def compileOptions (s : FirewallSettings) : Except Prefix.Invalid CompileOptions := do
  let ingress ← s.allowedIngress.mapM PrefixSet.parse
  let egress ← s.allowedEgress.mapM PrefixSet.parse
  return ⟨ingress, egress, s.logAccepted⟩

/-- The cluster's own prefixes, or the first entry that is no prefix. -/
def clusterPrefixes (s : FirewallSettings) : Except Prefix.Invalid PrefixSet :=
  PrefixSet.parse s.internalPrefixes

/-- Seconds between two cycles, at least one. -/
def interval (s : FirewallSettings) : Nat := max s.reconcileInterval 1

end FirewallSettings

/-- The settings of where files are. -/
structure PathSettings where
  snapshot : String := "/etc/nftwall/snapshot.toml"
  state : String := "/var/lib/nftwall/fqdn-state.json"
  deriving DecidableEq, Repr

/-- All settings. -/
structure Settings where
  dns : DnsSettings := {}
  firewall : FirewallSettings := {}
  paths : PathSettings := {}
  deriving DecidableEq

end Firewall
