/-
Matches on the addresses of a packet.
-/
import Firewall.Prefix.Targets

namespace Firewall

/-- Which of the two addresses of a packet a clause is about. -/
inductive Direction where
  | source
  | destination
  deriving DecidableEq, Repr

/-- The word for an address of a packet. -/
def Direction.keyword : Direction → String
  | source => "saddr"
  | destination => "daddr"

/-- The name of the set that holds the cluster's own prefixes of a family. -/
def clusterSetName : Family → String
  | .v4 => "cluster_prefixes"
  | .v6 => "cluster_prefixes_v6"

/-- A match on an address of a packet; it holds only for packets of its family. -/
inductive Clause where
  /-- The address lies in one of the prefixes. -/
  | among (family : Family) (direction : Direction) (prefixes : Ascending Prefix)
  /-- The address lies in none of the prefixes. -/
  | notAmong (family : Family) (direction : Direction) (prefixes : Ascending Prefix)
  /-- The address is a member of a named set. -/
  | inSet (family : Family) (direction : Direction) (setName : String)
  /-- The source is one of the cluster's own addresses. -/
  | fromCluster (family : Family)
  deriving DecidableEq

namespace Clause

/-- The text of a clause. -/
def text : Clause → String
  | among family direction prefixes =>
    family.keyword ++ " " ++ direction.keyword ++ " \x7b " ++
      Prefix.joinedText prefixes.toList ++ " \x7d"
  | notAmong family direction prefixes =>
    family.keyword ++ " " ++ direction.keyword ++ " != \x7b " ++
      Prefix.joinedText prefixes.toList ++ " \x7d"
  | inSet family direction setName => family.keyword ++ " " ++ direction.keyword ++ " @" ++ setName
  | fromCluster family => family.keyword ++ " saddr == @" ++ clusterSetName family

end Clause

end Firewall
