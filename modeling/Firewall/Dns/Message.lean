/-
What a DNS message says, as far as the cache asks.

The cache wants to know whether a message is a response, which name it answers,
which type was asked for, and which addresses with which times to live came back.
-/
import Firewall.Address.Basic

namespace Firewall.Dns

/-- What a question asks for. -/
inductive QuestionType where
  | a
  | aaaa
  | other
  deriving DecidableEq, Repr

/-- The type that asks for addresses of a family. -/
def QuestionType.ofFamily : Family → QuestionType
  | .v4 => a
  | .v6 => aaaa

/-- A question: a name, in its textual form, and a type. -/
structure Question where
  name : String
  type : QuestionType
  deriving DecidableEq, Repr

/-- An answer record: its name, its time to live in seconds, and the address that it
carries if it is an address record. -/
structure Answer where
  name : String
  ttl : Nat
  address : Option Address
  deriving DecidableEq, Repr

/-- A message. -/
structure Message where
  isResponse : Bool
  questions : List Question
  answers : List Answer
  deriving DecidableEq, Repr

end Firewall.Dns
