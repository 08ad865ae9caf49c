/-
From policies and services to rule lines.

Each rule of a policy, and each service, is compiled on its own: it either gives
lines, or is refused with a reason and gives none.  What the rules give is put
together by `Fragment.append`, so compiling two lists one after the other is
compiling each and appending, and a refused rule takes nothing else with it.

Only one thing stops a compilation as a whole: a policy that names hosts while
there is no cache to look them up in.
-/
import Firewall.Cache.NamedSet
import Firewall.Order.Dictionary
import Firewall.Policy.Basic
import Firewall.Prefix.Targets
import Firewall.Rule.Line

namespace Firewall

/-- What applies to every rule. -/
structure CompileOptions where
  /-- Sources outside these are refused; without it any source may be let in. -/
  allowedIngress : Option PrefixSet := none
  /-- Destinations outside these are refused; without it any destination may be let out to. -/
  allowedEgress : Option PrefixSet := none
  logAccepted : Bool := false
  deriving DecidableEq

/-- Why a rule is refused. -/
inductive Refusal where
  | ports (fault : PortFault)
  | entry (invalid : Prefix.Invalid)
  | selector (fault : Selector.Fault)
  /-- Both prefixes and host names are given. -/
  | mixedPeers
  /-- Any peer is meant, but not any peer is allowed. -/
  | anyPeer
  | outsideAllowed (cidr : Prefix)
  | exceptOutside (except cidr : Prefix)
  | sourceOutside (source : Prefix)
  deriving DecidableEq

/-- The words for a refusal. -/
def Refusal.reason : Refusal → String
  | ports fault => fault.reason
  | entry invalid => invalid.message
  | selector fault => fault.message
  | mixedPeers => "to and toFQDNs are mutually exclusive"
  | anyPeer => "any peer is outside the allowed prefixes"
  | outsideAllowed cidr => cidr.text ++ " is outside the allowed prefixes"
  | exceptOutside except cidr => "except " ++ except.text ++ " is not inside " ++ cidr.text
  | sourceOutside source =>
    "source range " ++ source.text ++ " is outside the allowed ingress prefixes"

/-- A rule that was refused: the object it belongs to, its place there, and the reason. -/
structure Rejected where
  object : String
  rule : String
  reason : String
  deriving DecidableEq, Repr

namespace Rejected

theorem ext {a b : Rejected} (ho : a.object = b.object) (hr : a.rule = b.rule)
    (hs : a.reason = b.reason) : a = b := by
  cases a; cases b; cases ho; cases hr; cases hs; rfl

/-- Refusals are ordered by object, then place, then reason. -/
instance : Ord Rejected :=
  ⟨compareLex (compareOn object) (compareLex (compareOn rule) (compareOn reason))⟩

instance : Std.TransOrd Rejected :=
  inferInstanceAs (Std.TransCmp
    (compareLex (compareOn object) (compareLex (compareOn rule) (compareOn reason))))

instance : Std.LawfulEqOrd Rejected where
  compare_self {a} := by
    show compareLex (compareOn object) (compareLex (compareOn rule) (compareOn reason)) a a = .eq
    exact Std.ReflCmp.compare_self
  eq_of_compare {a b} h := by
    obtain ⟨ho, h⟩ := compareLex_eq_eq.1 (show compareLex (compareOn object)
      (compareLex (compareOn rule) (compareOn reason)) a b = .eq from h)
    obtain ⟨hr, hs⟩ := compareLex_eq_eq.1 h
    exact ext (Std.LawfulEqOrd.eq_of_compare ho) (Std.LawfulEqOrd.eq_of_compare hr)
      (Std.LawfulEqOrd.eq_of_compare hs)

end Rejected

/-- The sets behind a selector, under the selector's text. -/
abbrev NameState := Dictionary String (List NamedSet)

/-- The sets behind the selectors of each policy. -/
abbrev PolicyStates := Dictionary String NameState

/-- What looks up the sets behind a selector. -/
abbrev View := Selector → List NamedSet

/-- What compiling some rules gives. -/
structure Fragment where
  ingress : List Line := []
  egress : List Line := []
  /-- The sets found, with the policy and the text of the selector they were looked up for. -/
  states : List (String × String × List NamedSet) := []
  rejected : List Rejected := []
  deriving DecidableEq

namespace Fragment

instance : Inhabited Fragment := ⟨{}⟩

/-- Both, one after the other. -/
def append (a b : Fragment) : Fragment where
  ingress := a.ingress ++ b.ingress
  egress := a.egress ++ b.egress
  states := a.states ++ b.states
  rejected := a.rejected ++ b.rejected

instance : Append Fragment := ⟨append⟩

/-- All of them, one after the other. -/
def concat (fs : List Fragment) : Fragment := fs.foldr append {}

/-- What a rule gives, or its refusal. -/
def ofResult (object rule : String) (result : Except Refusal Fragment) : Fragment :=
  match result with
  | .ok f => f
  | .error r => { rejected := [⟨object, rule, r.reason⟩] }

end Fragment

/-- The outcome of a compilation. -/
structure Compiled where
  ingress : Ascending String
  egress : Ascending String
  states : PolicyStates
  rejected : Ascending Rejected
  deriving DecidableEq

namespace Compile

/-! ### Peers -/

/-- Reads an entry; what is no prefix refuses the rule. -/
def prefixOf (entry : String) : Except Refusal Prefix := (Prefix.parse entry).mapError .entry

/-- Adds an excluded part of a prefix. -/
def addExcept (cidr : Prefix) (targets : PerFamily Targets) (entry : String) :
    Except Refusal (PerFamily Targets) := do
  let except ← prefixOf entry
  if cidr.covers except then return targets.modify except.family (·.addExcept except)
  else throw (.exceptOutside except cidr)

/-- Adds the peers of a block: its prefix, which must be allowed, and its
exceptions, which must lie in that prefix. -/
def addBlock (allowed : Option PrefixSet) (targets : PerFamily Targets) (b : Block) :
    Except Refusal (PerFamily Targets) := do
  let cidr ← prefixOf b.cidr
  if allowed.all (·.contains cidr) then
    b.except.foldlM (addExcept cidr) (targets.modify cidr.family (·.addAllow cidr))
  else throw (.outsideAllowed cidr)

/-- The peers of a list of blocks, by family.  No block means any peer, which no list of allowed
prefixes admits. -/
def targetsOf (blocks : List Block) (allowed : Option PrefixSet) :
    Except Refusal (PerFamily Targets) :=
  if blocks.isEmpty && allowed.isSome then .error .anyPeer
  else blocks.foldlM (addBlock allowed) ⟨{}, {}⟩

/-- The families that have peers. -/
def familiesOf (targets : PerFamily Targets) : List Family :=
  Family.all.filter fun f => !(targets.get f).isEmpty

/-- The match for the excluded peers of a family, if there are any, then
that for the allowed ones. -/
def peerClauses (family : Family) (direction : Direction) (targets : Targets) : List Clause :=
  (if targets.except.isEmpty then [] else [.notAmong family direction targets.except])
    ++ (if targets.allow.isEmpty then [] else [.among family direction targets.allow])

/-! ### Lines -/

/-- A line for each list of matches and each clause on ports; without ports, a line for each list.
The comment is told the protocol. -/
def expand (logged : Bool) (ports : Ports) (comment : String → String)
    (constraints : List (List Clause)) :
    List Line :=
  if ports.isEmpty then constraints.map fun clauses => ⟨clauses, none, logged, comment "any"⟩
  else ports.clauses.flatMap fun port =>
    constraints.map fun clauses => ⟨clauses, some port, logged, comment port.protocol.keyword⟩

/-- The matches of an ingress rule: on the sources of each family, or none for any source. -/
def ingressConstraints (targets : PerFamily Targets) : List (List Clause) :=
  match familiesOf targets with
  | [] => [[]]
  | families => families.map fun f => peerClauses f .source (targets.get f)

/-- The matches of an egress rule: from the cluster, and on the destinations of
each family unless all are meant. -/
def egressConstraints (targets : PerFamily Targets) : List (List Clause) :=
  match familiesOf targets with
  | [] => Family.all.map fun f => [.fromCluster f]
  | families => families.map fun f =>
    let t := targets.get f
    .fromCluster f :: (if t.allowsEverything then [] else peerClauses f .destination t)

/-- The ports of a rule. -/
def portsOf (entries : List PolicyPort) : Except Refusal Ports :=
  (Ports.ofPolicy entries).mapError .ports

/-- Compiles an ingress rule. -/
def ingressRule (options : CompileOptions) (policy : String) (r : IngressRule) :
    Except Refusal Fragment := do
  let ports ← portsOf r.ports
  let targets ← targetsOf r.sources options.allowedIngress
  let comment protocol := "accept traffic for network policy " ++ policy ++ " (" ++ protocol ++ ")"
  return { ingress := expand options.logAccepted ports comment (ingressConstraints targets) }

/-- Compiles one selector of an egress rule. -/
def selectorLines (options : CompileOptions) (view : View) (policy : String) (ports : Ports)
    (s : Selector) : Fragment :=
  let sets := view s
  let comment protocol :=
    "accept egress traffic for network policy " ++ policy ++ " to " ++ s.text ++
      " (" ++ protocol ++ ")"
  let constraints := sets.map fun set =>
    [.fromCluster set.family, .inSet set.family .destination set.setName]
  { egress := expand options.logAccepted ports comment constraints
    states := [(policy, s.text, sets)] }

/-- Refuses a rule for its first selector that is not one. -/
def checkSelectors (selectors : List Selector) : Except Refusal Unit :=
  match selectors.findSome? Selector.fault? with
  | some fault => .error (.selector fault)
  | none => .ok ()

/-- Compiles an egress rule. -/
def egressRule (options : CompileOptions) (view : Option View) (policy : String) (r : EgressRule) :
    Except Refusal Fragment := do
  if !r.destinations.isEmpty && !r.selectors.isEmpty then throw .mixedPeers
  let ports ← portsOf r.ports
  if r.selectors.isEmpty then
    let targets ← targetsOf r.destinations options.allowedEgress
    let comment protocol :=
      "accept egress traffic for network policy " ++ policy ++ " (" ++ protocol ++ ")"
    return { egress := expand options.logAccepted ports comment (egressConstraints targets) }
  else
    checkSelectors r.selectors
    match view with
    | none => return {}
    | some view => return .concat (r.selectors.map (selectorLines options view policy ports))

/-- The place of a rule in its policy. -/
def place (kind : String) (index : Nat) : String := kind ++ "[" ++ toString index ++ "]"

/-- Compiles a policy: its ingress rules, then its egress rules. -/
def policy (options : CompileOptions) (view : Option View) (p : Policy) : Fragment :=
  .concat (p.ingress.mapIdx fun i r =>
    .ofResult p.name (place "ingress" i) (ingressRule options p.name r))
    ++ .concat (p.egress.mapIdx fun i r =>
        .ofResult p.name (place "egress" i) (egressRule options view p.name r))

/-! ### Services -/

/-- The ports under which a service is reached. -/
def servicePorts (s : Service) : Ports :=
  s.ports.foldl (fun ports p =>
    let number := if s.type = .nodePort then p.nodePort.getD p.port else p.port
    ports.insert (p.protocol.getD .tcp) number) .empty

/-- The prefixes of one family. -/
def ofFamily (family : Family) (ps : List Prefix) : Ascending Prefix :=
  .ofList (ps.filter fun p => p.family = family)

/-- The matches on sources and destinations.  Where prefixes are given, only the families that they
are of get a line; where none are given on either side, one line is for both families. -/
def serviceConstraints (sources destinations : List Prefix) : List (List Clause) :=
  if sources.isEmpty && destinations.isEmpty then [[]]
  else (Family.all.filter fun f =>
      (sources.isEmpty || !(ofFamily f sources).isEmpty)
        && (destinations.isEmpty || !(ofFamily f destinations).isEmpty)).map fun f =>
    let clause direction ps : List Clause :=
      if (ofFamily f ps).isEmpty then [] else [.among f direction (ofFamily f ps)]
    clause .source sources ++ clause .destination destinations

/-- Compiles a service that is reached from outside.  A load balancer without an address and a
service without ports give no line. -/
def serviceRule (options : CompileOptions) (s : Service) : Except Refusal Fragment := do
  let sources ← s.sourceRanges.mapM prefixOf
  match options.allowedIngress.bind fun allowed => sources.find? fun p => !allowed.contains p with
  | some outside => throw (.sourceOutside outside)
  | none => pure ()
  let destinations ← if s.type = .loadBalancer then s.externalAddresses.mapM prefixOf else pure []
  if s.type = .loadBalancer && destinations.isEmpty then return {}
  let ports := servicePorts s
  if ports.isEmpty then return {}
  let comment protocol :=
    "accept traffic for service " ++ s.qualifiedName ++ " (" ++ protocol ++ ")"
  return {
    ingress := expand options.logAccepted ports comment
      (serviceConstraints sources destinations) }

/-- Compiles a service; those that are not reached from outside give nothing. -/
def service (options : CompileOptions) (s : Service) : Fragment :=
  match s.type with
  | .loadBalancer | .nodePort => .ofResult s.qualifiedName "service" (serviceRule options s)
  | _ => {}

end Compile

/-- Everything that policies and services give, line by line and in order. -/
def compileParts (options : CompileOptions) (view : Option View) (policies : List Policy)
    (services : List Service) : Fragment :=
  .concat (policies.map (Compile.policy options view)) ++
    .concat (services.map (Compile.service options))

/-- Records the sets behind a selector of a policy. -/
def PolicyStates.record (states : PolicyStates) (entry : String × String × List NamedSet) :
    PolicyStates :=
  states.alter entry.1 fun state => (state.getD ∅).insert entry.2.1 entry.2.2

namespace Fragment

/-- The outcome: the texts of the lines and the refusals, sorted and each once, and the sets behind
each selector, of which the last looked up count. -/
def compiled (f : Fragment) : Compiled where
  ingress := uniqueSorted (f.ingress.map Line.text)
  egress := uniqueSorted (f.egress.map Line.text)
  states := f.states.foldl PolicyStates.record (∅ : Dictionary String NameState)
  rejected := .ofList f.rejected

end Fragment

/-- The first policy with rules for host names, where there is no cache to look them up in. -/
def lacksCache (view : Option View) (policies : List Policy) : Option Policy :=
  if view.isSome then none else policies.find? Policy.hasNameRules

/-- Compiles policies and services.  The error is the name of a policy that needs a cache. -/
def compile (options : CompileOptions) (view : Option View) (policies : List Policy)
    (services : List Service) : Except String Compiled :=
  match lacksCache view policies with
  | some p => .error p.name
  | none => .ok (compileParts options view policies services).compiled

end Firewall
