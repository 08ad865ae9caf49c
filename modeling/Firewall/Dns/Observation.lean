/-
What one response tells the cache.
-/
import Firewall.Dns.Message
import Firewall.Name.Basic
import Firewall.Order.Ascending

namespace Firewall.Dns

/-- Why a message tells nothing. -/
inductive Malformed where
  | notResponse
  | noAnswers
  | emptyName
  deriving DecidableEq, Repr

namespace Malformed

/-- The words for a message that tells nothing. -/
def reason : Malformed → String
  | notResponse => "message is not a response"
  | noAnswers => "no answer records"
  | emptyName => "answered name is empty"

/-- The message for a message that tells nothing. -/
def message (m : Malformed) : String := "malformed DNS response: " ++ m.reason

end Malformed

/-- The name that was answered, what was asked for, and the addresses that came back, each with its
time to live. -/
structure Observation where
  name : String
  asked : Option QuestionType
  addresses : List (Address × Nat)
  deriving DecidableEq, Repr

namespace Observation

/-- Reads a response.  The answered name is that of the first question or, without a
question, that of the first answer. -/
def ofMessage (m : Message) : Except Malformed Observation :=
  if !m.isResponse then .error .notResponse
  else match m.answers with
    | [] => .error .noAnswers
    | first :: _ =>
      let question := m.questions.head?
      let name := Name.fullyQualified ((question.map (·.name)).getD first.name)
      if name = "." then .error .emptyName
      else .ok {
        name := name
        asked := question.map (·.type)
        addresses := m.answers.filterMap fun r => r.address.map fun a => (a, r.ttl) }

/-- The answers of one family. -/
def ofFamily (o : Observation) (family : Family) : List (Address × Nat) :=
  o.addresses.filter fun e => e.1.family = family

/-- The distinct addresses of one family. -/
def members (o : Observation) (family : Family) : Ascending Address :=
  .ofList ((o.ofFamily family).map (·.1))

/-- The shortest time to live among the answers of one family. -/
def ttl (o : Observation) (family : Family) : Nat := ((o.ofFamily family).map (·.2)).min?.getD 0

/-- Whether addresses of the family were asked for. -/
def askedFor (o : Observation) (family : Family) : Bool := o.asked == some (.ofFamily family)

end Observation

end Firewall.Dns
