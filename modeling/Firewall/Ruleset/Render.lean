/-
The text of a ruleset.

The text is a list of lines, and which lines is a function of the ruleset alone:
sets are declared in the order of their names, the members of each in the order
of addresses, rules in the order in which they are given.  Parts that hold
nothing leave no line behind.
-/
import Firewall.Address.Printer
import Firewall.Order.Ascending
import Firewall.Prefix.Text
import Firewall.Rule.Clause
import Firewall.Ruleset.Basic

namespace Firewall.Ruleset

/-- The line that lists elements, unless there are none. -/
def elementLines (texts : List String) : List String :=
  if texts.isEmpty then []
  else ["        elements = \x7b " ++ String.intercalate ", " texts ++ " \x7d"]

/-- The declaration of the set with the cluster's own prefixes of a family. -/
def clusterSetLines (r : Ruleset) (family : Family) : List String :=
  ["    set " ++ clusterSetName family ++ " \x7b",
   "        type " ++ family.setType,
   "        flags interval",
   "        auto-merge"]
  ++ elementLines ((r.clusterPrefixes.ofFamily family).map Prefix.text)
  ++ ["    \x7d"]

/-- The declaration of a named set. -/
def namedSetLines (s : NamedSet) : List String :=
  ["",
   "    set " ++ s.setName ++ " \x7b",
   "        type " ++ s.family.setType,
   "        comment \"" ++ s.fqdn ++ "\""]
  ++ elementLines ((Ascending.ofList s.addresses).toList.map Address.text)
  ++ ["    \x7d"]

/-- The lines that accept queries to the DNS proxy, on its own address unless it listens on all. -/
def proxyLines (e : Endpoint) : List String :=
  let place := if e.address.isUnspecified then ""
    else e.address.family.keyword ++ " daddr " ++ e.address.text ++ " "
  ["udp", "tcp"].map fun protocol =>
    "        " ++ place ++ protocol ++ " dport " ++ toString e.port.val
      ++ " counter accept comment \"allow dns proxy\""

/-- The chain for what comes in to the machine itself. -/
def inputChain (dnsProxy : Option Endpoint) : List String :=
  ["    chain input \x7b",
   "        type filter hook input priority 0; policy drop;",
   "        ct state established,related counter accept comment \"allow tracked connections\"",
   "        ct state invalid counter drop comment \"drop invalid packets\"",
   "        iifname \"lo\" counter accept comment \"allow loopback\"",
   "        meta l4proto \x7b icmp, ipv6-icmp \x7d counter accept comment \"allow icmp\""]
  ++ (dnsProxy.map proxyLines).getD []
  ++ ["    \x7d"]

/-- The chain for what passes through. -/
def forwardChain : List String :=
  ["    chain forward \x7b",
   "        type filter hook forward priority 0; policy drop;",
   "        ct state established,related counter accept comment \"allow tracked connections\"",
   "        ct state invalid counter drop comment \"drop invalid packets\"",
   "        meta l4proto \x7b icmp, ipv6-icmp \x7d counter accept comment \"allow icmp\"",
   "        jump firewall_ingress",
   "        jump firewall_egress",
   "        counter comment \"dropped by policy\"",
   "    \x7d"]

/-- A chain of rule lines. -/
def ruleChain (name : String) (rules : List String) : List String :=
  ["    chain " ++ name ++ " \x7b"] ++ rules.map ("        " ++ ·) ++ ["    \x7d"]

/-- The line of a rate limit. -/
def rateLimitLine (l : RateLimit) : String :=
  "        iifname \"" ++ l.interface ++ "\" limit rate over " ++ toString l.megabits
    ++ " mbit/second counter drop comment \"rate limit " ++ l.interface ++ "\""

/-- The chain of rate limits, unless there are none. -/
def rateLimitChain (limits : List RateLimit) : List String :=
  if limits.isEmpty then []
  else ["", "    chain rate_limit \x7b",
    "        type filter hook forward priority -1; policy accept;"]
    ++ limits.map rateLimitLine ++ ["    \x7d"]

/-- What a NAT rule does. -/
def natAction (rule : NatRule) : String :=
  match rule.address with
  | some a => "snat " ++ rule.family.keyword ++ " to " ++ a.text
  | none => "masquerade"

/-- The line of a NAT rule. -/
def natLine (rule : NatRule) : String :=
  "        oifname \"" ++ rule.outInterface ++ "\" " ++ rule.family.keyword ++ " saddr \x7b "
    ++ Prefix.joinedText rule.sources ++ " \x7d counter " ++ natAction rule
    ++ " comment \"snat " ++ rule.outInterface ++ "\""

/-- The line that begins a table, after whatever was in it before is gone. -/
def tableStart (name : String) : List String :=
  ["table inet " ++ name, "delete table inet " ++ name, "", "table inet " ++ name ++ " \x7b"]

/-- The lines of the table of filters. -/
def filterTable (r : Ruleset) : List String :=
  tableStart "nftwall"
  ++ r.clusterSetLines .v4 ++ [""] ++ r.clusterSetLines .v6
  ++ r.setsByName.values.flatMap namedSetLines
  ++ [""] ++ inputChain r.dnsProxy
  ++ [""] ++ forwardChain
  ++ [""] ++ ruleChain "firewall_ingress" r.ingress
  ++ [""] ++ ruleChain "firewall_egress" r.egress
  ++ rateLimitChain r.rateLimits
  ++ ["\x7d"]

/-- The lines of the NAT table. -/
def natTable (rules : List NatRule) : List String :=
  tableStart "nftwall_nat"
  ++ ["    chain postrouting \x7b",
      "        type nat hook postrouting priority srcnat; policy accept;"]
  ++ rules.map natLine
  ++ ["    \x7d", "\x7d"]

/-- The lines of a ruleset, its NAT rules being given. -/
def lines (r : Ruleset) (nat : List NatRule) : List String :=
  ["# Generated by nftwall. Manual changes are overwritten on the next reconcile.", ""]
  ++ r.filterTable ++ [""] ++ natTable nat

/-- Lines as one text, each with a line feed behind it. -/
def unlines (ls : List String) : String := String.join (ls.map (· ++ "\n"))

/-- The text of a ruleset, or the first NAT source that is no prefix. -/
def render (r : Ruleset) : Except Prefix.Invalid String := do
  let nat ← NatEntry.allRules r.nat
  return unlines (r.lines nat)

end Firewall.Ruleset
