/-
Reading settings.

Everything has a default, so an empty document is a document of settings; what is
given must be of the right form, and names that mean nothing are passed over.
-/
import Firewall.Settings.Basic
import Firewall.Toml.Decode
import Firewall.Toml.Document

namespace Firewall.Settings

open Toml (Value boolean? fields? list? natural? port? read? string?)

/-- The settings of the DNS proxy. -/
def dns? (v : Value) : Option DnsSettings := do
  let fs ← fields? ["enabled", "listen", "port", "upstream", "query_timeout_secs"] v
  let d : DnsSettings := {}
  return {
    enabled := ← fs.getD? "enabled" d.enabled boolean?
    listen := ← fs.getD? "listen" d.listen (read? Address.ofText?)
    port := ← fs.getD? "port" d.port port?
    forwarder := ← fs.optional? "upstream" (read? Endpoint.ofText?)
    queryTimeout := ← fs.getD? "query_timeout_secs" d.queryTimeout (natural? (Nat.pow 2 64)) }

/-- A limit on an interface. -/
def rateLimit? (v : Value) : Option RateLimit := do
  let fs ← fields? ["interface", "rate_mbps"] v
  return ⟨← fs.required? "interface" string?, ← fs.required? "rate_mbps" (natural? (Nat.pow 2 32))⟩

/-- A NAT entry. -/
def natEntry? (v : Value) : Option NatEntry := do
  let fs ← fields? ["out_interface", "source_prefixes", "to"] v
  return ⟨← fs.required? "out_interface" string?, ← fs.required? "source_prefixes" (list? string?),
    ← fs.optional? "to" (read? Address.ofText?)⟩

/-- The settings of the ruleset. -/
def firewall? (v : Value) : Option FirewallSettings := do
  let fs ← fields? ["ruleset_path", "nft_binary", "internal_prefixes", "allowed_ingress",
    "allowed_egress", "log_accepted_connections", "rate_limits", "snat",
    "reconcile_interval_secs"] v
  let d : FirewallSettings := {}
  return {
    rulesetPath := ← fs.getD? "ruleset_path" d.rulesetPath string?
    binary := ← fs.getD? "nft_binary" d.binary string?
    internalPrefixes := ← fs.getD? "internal_prefixes" d.internalPrefixes (list? string?)
    allowedIngress := ← fs.optional? "allowed_ingress" (list? string?)
    allowedEgress := ← fs.optional? "allowed_egress" (list? string?)
    logAccepted := ← fs.getD? "log_accepted_connections" d.logAccepted boolean?
    rateLimits := ← fs.getD? "rate_limits" d.rateLimits (list? rateLimit?)
    nat := ← fs.getD? "snat" d.nat (list? natEntry?)
    reconcileInterval := ← fs.getD? "reconcile_interval_secs" d.reconcileInterval
      (natural? (Nat.pow 2 64)) }

/-- The settings of where files are. -/
def paths? (v : Value) : Option PathSettings := do
  let fs ← fields? ["snapshot", "state"] v
  let d : PathSettings := {}
  return ⟨← fs.getD? "snapshot" d.snapshot string?, ← fs.getD? "state" d.state string?⟩

/-- All settings. -/
def ofValue? (v : Value) : Option Settings := do
  let fs ← fields? ["dns", "firewall", "paths"] v
  return ⟨← fs.getD? "dns" {} dns?, ← fs.getD? "firewall" {} firewall?,
    ← fs.getD? "paths" {} paths?⟩

/-- Reads a document of settings. -/
def ofText? (text : String) : Option Settings := (Toml.ofText? text).bind ofValue?

end Firewall.Settings
