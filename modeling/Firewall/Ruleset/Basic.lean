/-
What a ruleset is made of.
-/
import Firewall.Address.Endpoint
import Firewall.Cache.NamedSet
import Firewall.Order.Dictionary
import Firewall.Prefix.Set

namespace Firewall

/-- A limit on what comes in through an interface. -/
structure RateLimit where
  interface : String
  /-- Megabits per second. -/
  megabits : Nat
  deriving DecidableEq, Repr

/-- Hides the sources of what leaves through an interface, behind an address or behind that of the
interface itself. -/
structure NatEntry where
  outInterface : String
  sources : List String
  address : Option Address := none
  deriving DecidableEq

/-- Everything that is written into a ruleset. -/
structure Ruleset where
  ingress : List String := []
  egress : List String := []
  sets : List NamedSet := []
  clusterPrefixes : PrefixSet := ∅
  rateLimits : List RateLimit := []
  nat : List NatEntry := []
  /-- Where the DNS proxy listens, which must be reachable. -/
  dnsProxy : Option Endpoint := none

/-- A NAT rule, for sources of one family. -/
structure NatRule where
  outInterface : String
  family : Family
  sources : List Prefix
  address : Option Address
  deriving DecidableEq

namespace NatEntry

/-- The rules of an entry whose sources are given: one for each family that has sources, unless the
address to hide behind is of the other family. -/
def rulesFor (e : NatEntry) (sources : PrefixSet) : List NatRule :=
  (Family.all.filter fun f => e.address.all fun a => decide (a.family = f)).filterMap fun f =>
    let prefixes := sources.ofFamily f
    if prefixes.isEmpty then none else some ⟨e.outInterface, f, prefixes, e.address⟩

/-- The rules of an entry, or the first of its sources that is no prefix. -/
def rules (e : NatEntry) : Except Prefix.Invalid (List NatRule) :=
  (PrefixSet.parse e.sources).map e.rulesFor

/-- The rules of all entries in order. -/
def allRules (entries : List NatEntry) : Except Prefix.Invalid (List NatRule) :=
  (entries.mapM rules).map List.flatten

end NatEntry

namespace Ruleset

/-- The sets to declare, by name; of two with one name the first. -/
def setsByName (r : Ruleset) : Dictionary String NamedSet :=
  r.sets.foldl (fun d s => d.insertNew s.setName s) ∅

end Ruleset

end Firewall
