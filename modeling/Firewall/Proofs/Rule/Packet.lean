/-
What a rule line means for a packet.

A line is read as the kernel reads it: it accepts the packets that meet every one of
its matches.  A match on an address holds only for packets of its family, so a match
that lists what an address must not be is no match for the other family either.  The
cluster's prefixes and the members of the named sets are declared beside the rules,
and are given by an environment.

What a line says about logging limits how much is written to the log; it is no match
on a packet.
-/
import Firewall.Cache.NamedSet
import Firewall.Rule.Line

namespace Firewall

/-- An address lies in a set of prefixes when it lies in one of them. -/
instance : Membership Address PrefixSet := ⟨fun s a => ∃ p ∈ s.prefixes, a ∈ p⟩

instance (a : Address) (s : PrefixSet) : Decidable (a ∈ s) :=
  inferInstanceAs (Decidable (∃ p ∈ s.prefixes, a ∈ p))

/-- What a packet carries: something of a protocol with ports, to a port, or something else. -/
inductive Transport where
  | toPort (protocol : Protocol) (port : PortNumber)
  | other
  deriving DecidableEq

/-- A packet, as far as rules look at it. -/
structure Packet where
  family : Family
  source : Address
  destination : Address
  transport : Transport
  source_family : source.family = family
  destination_family : destination.family = family

/-- The address of a packet that a clause is about. -/
def Direction.addressOf : Direction → Packet → Address
  | source, packet => packet.source
  | destination, packet => packet.destination

theorem Direction.family_addressOf (d : Direction) (packet : Packet) :
    (d.addressOf packet).family = packet.family := by
  cases d with
  | source => exact packet.source_family
  | destination => exact packet.destination_family

/-- What is declared beside the rules. -/
structure Environment where
  /-- The cluster's own prefixes. -/
  cluster : PrefixSet
  sets : List NamedSet := []

/-- An address is a member of the set that is declared under a name. -/
def Environment.IsMember (env : Environment) (name : String) (a : Address) : Prop :=
  ∃ s ∈ env.sets, s.setName = name ∧ a ∈ s.addresses

/-- A packet meets a match on an address. -/
def Clause.Holds (env : Environment) (packet : Packet) : Clause → Prop
  | among family direction prefixes =>
    packet.family = family ∧ ∃ p ∈ prefixes, direction.addressOf packet ∈ p
  | notAmong family direction prefixes =>
    packet.family = family ∧ ¬ ∃ p ∈ prefixes, direction.addressOf packet ∈ p
  | inSet family direction setName =>
    packet.family = family ∧ env.IsMember setName (direction.addressOf packet)
  | fromCluster family => packet.family = family ∧ packet.source ∈ env.cluster

/-- A packet meets a match on the protocol and the port. -/
def PortClause.Holds (packet : Packet) : PortClause → Prop
  | every protocol => ∃ port, packet.transport = .toPort protocol port
  | among protocol ranges =>
    ∃ port, packet.transport = .toPort protocol port ∧ ∃ r ∈ ranges, port ∈ r

/-- A match of a line. -/
inductive RuleMatch where
  | address (clause : Clause)
  | port (clause : PortClause)
  deriving DecidableEq

/-- A packet meets a match. -/
def RuleMatch.Holds (env : Environment) (packet : Packet) : RuleMatch → Prop
  | address clause => clause.Holds env packet
  | port clause => clause.Holds packet

namespace Line

/-- The matches of a line, in order. -/
def ruleMatches (l : Line) : List RuleMatch := l.clauses.map .address ++ l.ports.toList.map .port

/-- A line accepts a packet that meets every one of its matches. -/
def Accepts (env : Environment) (packet : Packet) (l : Line) : Prop :=
  (∀ c ∈ l.clauses, c.Holds env packet) ∧ ∀ c ∈ l.ports, c.Holds packet

theorem accepts_iff_matches {env : Environment} {packet : Packet} {l : Line} :
    l.Accepts env packet ↔ ∀ m ∈ l.ruleMatches, m.Holds env packet := by
  simp only [Accepts, ruleMatches, List.mem_append, List.mem_map, Option.mem_toList, or_imp,
    forall_and, forall_exists_index, and_imp, forall_apply_eq_imp_iff₂]
  rfl

end Line

end Firewall
