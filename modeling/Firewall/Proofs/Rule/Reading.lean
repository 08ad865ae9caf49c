/-
Rule lines, read back.

The reader knows the language of rules and not how lines are made.  It goes through
the words of a line: each match begins with words of its own, the elements of a set
stand between braces with a comma after each but the last, and the matches end where
the verdict begins.  Words about logging may stand before the verdict; they match
every packet and are passed over.

A line is accepted on a packet when it can be read and the packet meets every match
that was read.
-/
import Firewall.Proofs.Rule.Packet

namespace Firewall

namespace Text

/-- The words of a text: what stands between its spaces. -/
def words (s : String) : List String := (pieces ' ' s.toList).map String.ofList

end Text

open Text (words)

/-! ### Words -/

/-- Reads the word for an address of a packet. -/
def Direction.ofKeyword? (s : String) : Option Direction :=
  if s = "saddr" then some source else if s = "daddr" then some destination else none

/-- Reads the word for a protocol in a rule. -/
def Protocol.ofKeyword? (s : String) : Option Protocol :=
  if s = "tcp" then some tcp else if s = "udp" then some udp else none

/-- Reads one port, or two with a dash between them. -/
def PortRange.ofText? (s : String) : Option PortRange :=
  match Text.cut '-' s.toList with
  | none => (Endpoint.readPort? s.toList).map .single
  | some (first, last) => do return ⟨← Endpoint.readPort? first, ← Endpoint.readPort? last⟩

namespace Line

/-! ### Matches -/

/-- Reads the elements of a set up to the brace that closes it, with the words behind it. -/
def elements? : List String → Option (List String × List String)
  | [] => none
  | word :: rest =>
    if word.toList.getLast? = some ',' then
      (elements? rest).map fun (more, after) => (String.ofList word.toList.dropLast :: more, after)
    else match rest with
      | "\x7d" :: after => some ([word], after)
      | _ => none

/-- Reads the elements of a set, each as what it is. -/
def setOf? {α : Type} [Ord α] [Std.TransOrd α] [Std.LawfulEqOrd α] (element? : String → Option α)
    (words : List String) : Option (Ascending α × List String) := do
  let (elements, after) ← elements? words
  return (.ofList (← elements.mapM element?), after)

/-- Reads what an address is matched with. -/
def clause? (family : Family) (direction : Direction) : List String → Option (Clause × List String)
  | "\x7b" :: rest =>
    (setOf? (fun s => Prefix.read? s.toList) rest).map fun (ps, after) =>
      (.among family direction ps, after)
  | "!=" :: "\x7b" :: rest =>
    (setOf? (fun s => Prefix.read? s.toList) rest).map fun (ps, after) =>
      (.notAmong family direction ps, after)
  | "==" :: word :: rest =>
    if direction = .source ∧ word = "@" ++ clusterSetName family then
      some (.fromCluster family, rest) else none
  | word :: rest =>
    match word.toList with
    | '@' :: name => some (.inSet family direction (String.ofList name), rest)
    | _ => none
  | [] => none

/-- Reads the first match of some words, with the words behind it. -/
def match? : List String → Option (RuleMatch × List String)
  | "meta" :: "l4proto" :: word :: rest => (Protocol.ofKeyword? word).map fun p =>
    (.port (.every p), rest)
  | word :: "dport" :: "\x7b" :: rest => do
    let protocol ← Protocol.ofKeyword? word
    let (ranges, after) ← setOf? PortRange.ofText? rest
    return (.port (.among protocol ranges), after)
  | word :: next :: rest => do
    let family ← Family.ofKeyword? word
    let direction ← Direction.ofKeyword? next
    let (clause, after) ← clause? family direction rest
    return (.address clause, after)
  | _ => none

/-! ### Lines -/

/-- Passes over the words about logging. -/
def passLog (ws : List String) : List String :=
  if (words logClause).isPrefixOf ws then ws.drop (words logClause).length else ws

/-- Whether some words begin the verdict. -/
def isVerdict (ws : List String) : Bool :=
  match passLog ws with
  | "counter" :: "accept" :: "comment" :: _ => true
  | _ => false

/-- Reads matches up to the verdict. -/
def readMatches? (ws : List String) : Option (List RuleMatch) :=
  if isVerdict ws then some []
  else match match? ws with
  | none => none
  | some (m, rest) => if rest.length < ws.length then (readMatches? rest).map (m :: ·) else none
termination_by ws.length

/-- Reads the matches of a line from its text. -/
def read? (text : String) : Option (List RuleMatch) := readMatches? (words text)

/-- What a line says, read from its text, accepts a packet. -/
def TextAccepts (env : Environment) (packet : Packet) (text : String) : Prop :=
  ∃ ms, read? text = some ms ∧ ∀ m ∈ ms, m.Holds env packet

end Line

end Firewall
