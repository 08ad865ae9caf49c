/-
Which ports a rule is about.

A policy lists ports one by one or as ranges, each with a protocol.  The list is
sorted into one bucket for each protocol: the ranges named, or every port of the
protocol as soon as one entry names none.  Each bucket that is not empty becomes
one clause of a rule.
-/
import Firewall.Address.Endpoint
import Firewall.Order.Ascending

namespace Firewall

/-- A transport protocol with ports. -/
inductive Protocol where
  | tcp
  | udp
  deriving DecidableEq, Repr, Inhabited

namespace Protocol

/-- The word for a protocol in a rule. -/
def keyword : Protocol → String
  | tcp => "tcp"
  | udp => "udp"

/-- The word for a protocol in a policy. -/
def label : Protocol → String
  | tcp => "TCP"
  | udp => "UDP"

/-- Reads the word for a protocol in a policy. -/
def ofLabel? (s : String) : Option Protocol :=
  if s = "TCP" then some tcp else if s = "UDP" then some udp else none

end Protocol

/-- An entry of a policy's list of ports.  TCP is meant where no protocol is given, and every port
where no port is. -/
structure PolicyPort where
  protocol : Option Protocol := none
  port : Option PortNumber := none
  endPort : Option PortNumber := none
  deriving DecidableEq, Repr

namespace PolicyPort

/-- One TCP port. -/
def tcp (n : PortNumber) : PolicyPort := { protocol := some .tcp, port := some n }

/-- One UDP port. -/
def udp (n : PortNumber) : PolicyPort := { protocol := some .udp, port := some n }

end PolicyPort

/-- The ports from one to another, both included. -/
structure PortRange where
  first : PortNumber
  last : PortNumber
  deriving DecidableEq, Repr

namespace PortRange

theorem ext {a b : PortRange} (hf : a.first = b.first) (hl : a.last = b.last) : a = b := by
  cases a; cases b; cases hf; cases hl; rfl

instance : Ord PortRange := ⟨compareLex (compareOn first) (compareOn last)⟩

instance : Std.TransOrd PortRange :=
  inferInstanceAs (Std.TransCmp (compareLex (compareOn first) (compareOn last)))

instance : Std.LawfulEqOrd PortRange where
  compare_self {a} := by
    show compareLex (compareOn first) (compareOn last) a a = .eq
    exact Std.ReflCmp.compare_self
  eq_of_compare {a b} h := by
    obtain ⟨hf, hl⟩ := compareLex_eq_eq.1
      (show compareLex (compareOn first) (compareOn last) a b = .eq from h)
    exact ext (Std.LawfulEqOrd.eq_of_compare hf) (Std.LawfulEqOrd.eq_of_compare hl)

/-- One port alone. -/
def single (n : PortNumber) : PortRange := ⟨n, n⟩

/-- A port lies in a range. -/
instance : Membership PortNumber PortRange := ⟨fun r n => r.first ≤ n ∧ n ≤ r.last⟩

theorem mem_def {n : PortNumber} {r : PortRange} : n ∈ r ↔ r.first ≤ n ∧ n ≤ r.last := Iff.rfl

instance (n : PortNumber) (r : PortRange) : Decidable (n ∈ r) := decidable_of_iff _ mem_def.symm

/-- The text of a range: one number, or two with a dash between them. -/
def text (r : PortRange) : String :=
  if r.first = r.last then toString r.first.val
  else toString r.first.val ++ "-" ++ toString r.last.val

end PortRange

/-- The ports of one protocol. -/
structure PortBucket where
  /-- Whether every port is meant, whatever the ranges say. -/
  all : Bool := false
  ranges : Ascending PortRange := ∅
  deriving DecidableEq

/-- Whether a bucket holds no port. -/
def PortBucket.isEmpty (b : PortBucket) : Bool := !b.all && b.ranges.isEmpty

/-- The ports of a rule, by protocol. -/
structure Ports where
  tcp : PortBucket := {}
  udp : PortBucket := {}
  deriving DecidableEq

/-- A match on the protocol of a packet and on its destination port. -/
inductive PortClause where
  /-- Every packet of the protocol. -/
  | every (protocol : Protocol)
  /-- The packets of the protocol to one of the ports. -/
  | among (protocol : Protocol) (ranges : Ascending PortRange)
  deriving DecidableEq

namespace PortClause

/-- The protocol that a clause is about. -/
def protocol : PortClause → Protocol
  | every p => p
  | among p _ => p

/-- The text of a clause. -/
def text : PortClause → String
  | every p => "meta l4proto " ++ p.keyword
  | among p ranges =>
    p.keyword ++ " dport \x7b " ++
      String.intercalate ", " (ranges.toList.map PortRange.text) ++ " \x7d"

end PortClause

/-- Why a list of ports is refused. -/
inductive PortFault where
  /-- An entry has an end but no port to begin with. -/
  | endAlone (last : PortNumber)
  /-- An entry ends before it begins. -/
  | endBelow (last first : PortNumber)
  deriving DecidableEq, Repr

/-- The words for a list of ports that is refused. -/
def PortFault.reason : PortFault → String
  | endAlone last => "endPort " ++ toString last.val ++ " given without a port"
  | endBelow last first =>
    "endPort " ++ toString last.val ++ " is lower than port " ++ toString first.val

namespace Ports

/-- No ports. -/
def empty : Ports := {}

/-- The bucket of a protocol. -/
def bucket (p : Ports) : Protocol → PortBucket
  | .tcp => p.tcp
  | .udp => p.udp

/-- Replaces the bucket of a protocol. -/
def modify (p : Ports) (protocol : Protocol) (f : PortBucket → PortBucket) : Ports :=
  match protocol with
  | .tcp => { p with tcp := f p.tcp }
  | .udp => { p with udp := f p.udp }

/-- Adds every port of a protocol. -/
def addAll (p : Ports) (protocol : Protocol) : Ports :=
  p.modify protocol fun b => { b with all := true }

/-- Adds a range of ports of a protocol. -/
def addRange (p : Ports) (protocol : Protocol) (r : PortRange) : Ports :=
  p.modify protocol fun b => { b with ranges := b.ranges.insert r }

/-- Adds one port of a protocol. -/
def insert (p : Ports) (protocol : Protocol) (n : PortNumber) : Ports :=
  p.addRange protocol (.single n)

/-- Adds an entry of a policy's list. -/
def addEntry (p : Ports) (e : PolicyPort) : Except PortFault Ports :=
  let protocol := e.protocol.getD .tcp
  match e.port, e.endPort with
  | none, none => .ok (p.addAll protocol)
  | none, some last => .error (.endAlone last)
  | some first, last =>
    let last := last.getD first
    if last < first then .error (.endBelow last first) else .ok (p.addRange protocol ⟨first, last⟩)

/-- The ports of a policy's list, or the first entry that is refused. -/
def ofPolicy (entries : List PolicyPort) : Except PortFault Ports := entries.foldlM addEntry empty

/-- Whether there is no port. -/
def isEmpty (p : Ports) : Bool := p.tcp.isEmpty && p.udp.isEmpty

/-- The clause for one bucket; an empty one has none. -/
def clause? (protocol : Protocol) (b : PortBucket) : Option PortClause :=
  if b.all then some (.every protocol)
  else if b.ranges.isEmpty then none
  else some (.among protocol b.ranges)

/-- The clauses, at most one for each protocol, that of TCP first. -/
def clauses (p : Ports) : List PortClause :=
  (clause? .tcp p.tcp).toList ++ (clause? .udp p.udp).toList

end Ports

end Firewall
