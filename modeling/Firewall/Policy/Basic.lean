/-
Policies and services, as they are handed over for compilation.
-/
import Firewall.Name.Selector
import Firewall.Rule.Ports

namespace Firewall

/-- Peers given by a prefix, less some parts of it. -/
structure Block where
  cidr : String
  except : List String := []
  deriving DecidableEq, Repr

/-- Lets traffic in. -/
structure IngressRule where
  ports : List PolicyPort := []
  sources : List Block := []
  deriving DecidableEq, Repr

/-- Lets traffic out, to prefixes or to host names. -/
structure EgressRule where
  ports : List PolicyPort := []
  destinations : List Block := []
  selectors : List Selector := []
  deriving DecidableEq, Repr

/-- A network policy. -/
structure Policy where
  name : String
  ingress : List IngressRule := []
  egress : List EgressRule := []
  deriving DecidableEq, Repr

/-- Whether a policy has rules for host names. -/
def Policy.hasNameRules (p : Policy) : Bool := p.egress.any fun r => !r.selectors.isEmpty

/-- How a service is exposed. -/
inductive ServiceType where
  | clusterIP
  | nodePort
  | loadBalancer
  | externalName
  deriving DecidableEq, Repr, Inhabited

namespace ServiceType

/-- The word for a type of service. -/
def label : ServiceType → String
  | clusterIP => "ClusterIP"
  | nodePort => "NodePort"
  | loadBalancer => "LoadBalancer"
  | externalName => "ExternalName"

/-- Reads the word for a type of service. -/
def ofLabel? (s : String) : Option ServiceType :=
  [clusterIP, nodePort, loadBalancer, externalName].find? fun t => t.label == s

end ServiceType

/-- A port of a service, and the port of the node that leads to it. -/
structure ServicePort where
  protocol : Option Protocol := none
  port : PortNumber
  nodePort : Option PortNumber := none
  deriving DecidableEq, Repr

/-- A service. -/
structure Service where
  name : String
  nameSpace : String := ""
  type : ServiceType := .clusterIP
  ports : List ServicePort := []
  loadBalancerIP : Option String := none
  sourceRanges : List String := []
  /-- The addresses that were assigned from outside, each of which may still be missing. -/
  assigned : List (Option String) := []
  deriving DecidableEq, Repr

namespace Service

/-- The name of a service, behind its namespace if it has one. -/
def qualifiedName (s : Service) : String :=
  if s.nameSpace = "" then s.name else s.nameSpace ++ "/" ++ s.name

/-- The addresses under which a service is reached from outside, the configured one first. -/
def externalAddresses (s : Service) : List String :=
  (s.loadBalancerIP.toList ++ s.assigned.filterMap id).filter (· != "")

end Service

end Firewall
