/-
Snapshots: the policies and services of one moment, as they are handed over.
-/
import Firewall.Policy.Basic
import Firewall.Toml.Decode
import Firewall.Toml.Document

namespace Firewall

/-- The policies and services of one moment. -/
structure Snapshot where
  policies : List Policy := []
  services : List Service := []
  deriving DecidableEq, Repr

namespace Snapshot

open Toml (Value fields? list? port? string? word?)

/-- A protocol. -/
def protocol? : Value → Option Protocol := word? Protocol.ofLabel?

/-- An entry of a policy's list of ports. -/
def policyPort? (v : Value) : Option PolicyPort := do
  let fs ← fields? ["protocol", "port", "endPort"] v
  return ⟨← fs.optional? "protocol" protocol?, ← fs.optional? "port" port?,
    ← fs.optional? "endPort" port?⟩

/-- A block of peers. -/
def block? (v : Value) : Option Block := do
  let fs ← fields? ["cidr", "except"] v
  return ⟨← fs.required? "cidr" string?, ← fs.getD? "except" [] (list? string?)⟩

/-- A selector of names. -/
def selector? (v : Value) : Option Selector := do
  let fs ← fields? ["matchName", "matchPattern"] v
  return ⟨← fs.optional? "matchName" string?, ← fs.optional? "matchPattern" string?⟩

/-- An ingress rule. -/
def ingressRule? (v : Value) : Option IngressRule := do
  let fs ← fields? ["ports", "from"] v
  return ⟨← fs.getD? "ports" [] (list? policyPort?), ← fs.getD? "from" [] (list? block?)⟩

/-- An egress rule. -/
def egressRule? (v : Value) : Option EgressRule := do
  let fs ← fields? ["ports", "to", "toFQDNs"] v
  return ⟨← fs.getD? "ports" [] (list? policyPort?), ← fs.getD? "to" [] (list? block?),
    ← fs.getD? "toFQDNs" [] (list? selector?)⟩

/-- A policy. -/
def policy? (v : Value) : Option Policy := do
  let fs ← fields? ["name", "ingress", "egress"] v
  return ⟨← fs.required? "name" string?, ← fs.getD? "ingress" [] (list? ingressRule?),
    ← fs.getD? "egress" [] (list? egressRule?)⟩

/-- A port of a service. -/
def servicePort? (v : Value) : Option ServicePort := do
  let fs ← fields? ["protocol", "port", "nodePort"] v
  return ⟨← fs.optional? "protocol" protocol?, ← fs.required? "port" port?,
    ← fs.optional? "nodePort" port?⟩

/-- An address assigned from outside, if it is there yet. -/
def assignedAddress? (v : Value) : Option (Option String) := do
  let fs ← fields? ["ip"] v
  fs.optional? "ip" string?

/-- The addresses of a load balancer. -/
def loadBalancer? (v : Value) : Option (List (Option String)) := do
  let fs ← fields? ["ingress"] v
  fs.getD? "ingress" [] (list? assignedAddress?)

/-- The addresses in the status of a service. -/
def status? (v : Value) : Option (List (Option String)) := do
  let fs ← fields? ["loadBalancer"] v
  fs.getD? "loadBalancer" [] loadBalancer?

/-- A service. -/
def service? (v : Value) : Option Service := do
  let fs ← fields? ["name", "namespace", "type", "ports", "loadBalancerIP",
    "loadBalancerSourceRanges", "status"] v
  return {
    name := ← fs.required? "name" string?
    nameSpace := ← fs.getD? "namespace" "" string?
    type := ← fs.getD? "type" .clusterIP (word? ServiceType.ofLabel?)
    ports := ← fs.getD? "ports" [] (list? servicePort?)
    loadBalancerIP := ← fs.optional? "loadBalancerIP" string?
    sourceRanges := ← fs.getD? "loadBalancerSourceRanges" [] (list? string?)
    assigned := ← fs.getD? "status" [] status? }

/-- A snapshot. -/
def ofValue? (v : Value) : Option Snapshot := do
  let fs ← fields? ["policies", "services"] v
  return ⟨← fs.getD? "policies" [] (list? policy?), ← fs.getD? "services" [] (list? service?)⟩

/-- Reads a document of policies and services. -/
def ofText? (text : String) : Option Snapshot := (Toml.ofText? text).bind ofValue?

end Snapshot

end Firewall
