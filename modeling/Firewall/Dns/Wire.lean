/-
DNS messages as they travel.

A message is a header of six numbers, then questions, answers, authorities and
additional records, as many of each as the header announces.  Only what the cache
asks for is kept, but everything announced must be there and must decode; whatever
follows it is ignored.
-/
import Firewall.Dns.Message
import Firewall.Dns.Wire.Data

namespace Firewall.Dns.Wire

/-- A record: its type and what an answer tells. -/
structure Record where
  type : Nat
  answer : Answer
  deriving Repr

/-- The type of the records that carry options of the message as a whole. -/
def optionType : Nat := 41

/-- The address in the data of an address record; a record without data carries none. -/
def address? (m : Array UInt8) (type start length : Nat) : Option Address :=
  if length = 0 then none
  else match type with
    | 1 => (number? m 4 start).bind fun n => Address.ofNat? .v4 n.1
    | 28 => (number? m 16 start).bind fun n => Address.ofNat? .v6 n.1
    | _ => none

/-- Reads a record. -/
def record? (m : Array UInt8) (pos : Nat) : Option (Record × Nat) := do
  let (labels, pos) ← name? m pos
  let (type, pos) ← number? m 2 pos
  if type = optionType ∧ labels ≠ [] then none
  let (_, pos) ← number? m 2 pos
  let (ttl, pos) ← number? m 4 pos
  let (length, pos) ← number? m 2 pos
  let stop := pos + length
  if stop ≤ m.size ∧ (length = 0 ∨ fits m type pos stop) then
    return (⟨type, nameText labels, ttl, address? m type pos length⟩, stop)
  else none

/-- Reads a question. -/
def question? (m : Array UInt8) (pos : Nat) : Option (Question × Nat) := do
  let (labels, pos) ← name? m pos
  let (type, pos) ← number? m 2 pos
  let (_, pos) ← number? m 2 pos
  let type : QuestionType := if type = 1 then .a else if type = 28 then .aaaa else .other
  return (⟨nameText labels, type⟩, pos)

/-- Reads a given count of items one after the other. -/
def many? {α : Type} (read : Nat → Option (α × Nat)) : (count pos : Nat) → Option (List α × Nat)
  | 0, pos => some ([], pos)
  | count + 1, pos => do
    let (a, pos) ← read pos
    let (rest, pos) ← many? read count pos
    return (a :: rest, pos)

/-- Reads a message.  Options may stand among the answers and authorities in any number, but only
once among the additional records. -/
def message? (m : Array UInt8) : Option Message := do
  let (flags, pos) ← number? m 2 2
  let (questionCount, pos) ← number? m 2 pos
  let (answerCount, pos) ← number? m 2 pos
  let (authorityCount, pos) ← number? m 2 pos
  let (additionalCount, pos) ← number? m 2 pos
  let (questions, pos) ← many? (question? m) questionCount pos
  let (answers, pos) ← many? (record? m) answerCount pos
  let (_, pos) ← many? (record? m) authorityCount pos
  let (additional, _) ← many? (record? m) additionalCount pos
  if additional.countP (fun r => r.type == optionType) ≤ 1 then
    return {
      isResponse := 0x8000 ≤ flags
      questions := questions
      answers := answers.map (·.answer) }
  else none

end Firewall.Dns.Wire
