/-
What a message says, and what is observed of it.

An observation is made from a message in one go.  Here the message is asked one thing at a time:
whether it tells anything, which name it is about, which family it asks for, and which addresses
it gives for how long.  The observation answers each of these the same way, so what is shown of
the cache can be said of messages.
-/
import Mathlib.Order.Bounds.Basic
import Firewall.Dns.Observation

namespace Firewall.Dns

namespace Message

/-- The name that a message is about: that of its first question or, without a
question, that of its first answer. -/
def subject (m : Message) : String :=
  Name.fullyQualified (((m.questions.head?.map (·.name)).or (m.answers.head?.map (·.name))).getD "")

/-- A message tells something: it is a response with answers, and not about the root. -/
structure Tells (m : Message) : Prop where
  response : m.isResponse = true
  answers : m.answers ≠ []
  subject : m.subject ≠ "."

/-- Whether addresses of a family are asked for, by the first question. -/
def asks (m : Message) : Family → Bool
  | .v4 => m.questions.head?.any fun q => q.type = .a
  | .v6 => m.questions.head?.any fun q => q.type = .aaaa

/-- A message gives an address for some seconds. -/
def Gives (m : Message) (a : Address) (ttl : Nat) : Prop :=
  ∃ r ∈ m.answers, r.address = some a ∧ r.ttl = ttl

/-- A message gives addresses of a family. -/
def GivesFamily (m : Message) (family : Family) : Prop := ∃ a ttl, m.Gives a ttl ∧ a.family = family

/-- The shortest time that addresses of a family are given for. -/
def LastsFor (m : Message) (family : Family) (ttl : Nat) : Prop :=
  IsLeast {n | ∃ a, m.Gives a n ∧ a.family = family} ttl

end Message

namespace Observation

variable {m : Message} {o : Observation} {family : Family}

/-- **What is observed of a message that tells something**, and nothing is of any other. -/
theorem ofMessage_eq_ok_iff : ofMessage m = .ok o ↔ m.Tells ∧ o = {
    name := m.subject
    asked := m.questions.head?.map (·.type)
    addresses := m.answers.filterMap fun r => r.address.map fun a => (a, r.ttl) } := by
  unfold ofMessage
  cases hresponse : m.isResponse with
  | false =>
    refine iff_of_false (fun h => nomatch h) fun h => ?_
    rw [h.1.response] at hresponse
    exact nomatch hresponse
  | true =>
    cases hanswers : m.answers with
    | nil => exact iff_of_false (fun h => nomatch h) fun h => h.1.answers hanswers
    | cons first rest =>
      have hsubject :
          Name.fullyQualified ((m.questions.head?.map (·.name)).getD first.name) = m.subject := by
        unfold Message.subject
        rw [hanswers]
        cases m.questions <;> rfl
      simp only [Bool.not_true, Bool.false_eq_true, if_false, hsubject]
      by_cases hroot : m.subject = "."
      · rw [if_pos hroot]
        exact iff_of_false (fun h => nomatch h) fun h => h.1.subject hroot
      · rw [if_neg hroot, Except.ok.injEq, eq_comm]
        exact (and_iff_right ⟨hresponse, by simp [hanswers], hroot⟩).symm

theorem exists_ofMessage_iff : (∃ o, ofMessage m = .ok o) ↔ m.Tells := by
  simp only [ofMessage_eq_ok_iff, exists_and_left, exists_eq, and_true]

theorem name_eq (h : ofMessage m = .ok o) : o.name = m.subject := by
  rw [(ofMessage_eq_ok_iff.1 h).2]

theorem askedFor_eq (h : ofMessage m = .ok o) (family : Family) :
    o.askedFor family = m.asks family := by
  rw [(ofMessage_eq_ok_iff.1 h).2]
  have hfirst : ∀ type, (m.questions.head?.map (·.type) == some type)
      = m.questions.head?.any fun q => q.type = type := by
    intro type
    cases m.questions with
    | nil => rfl
    | cons q rest => exact Bool.eq_iff_iff.2 (by simp)
  cases family with
  | v4 => exact hfirst .a
  | v6 => exact hfirst .aaaa

theorem mem_ofFamily_iff (h : ofMessage m = .ok o) {a : Address} {ttl : Nat} :
    (a, ttl) ∈ o.ofFamily family ↔ m.Gives a ttl ∧ a.family = family := by
  rw [(ofMessage_eq_ok_iff.1 h).2]
  unfold ofFamily Message.Gives
  simp only [List.mem_filter, List.mem_filterMap, Option.map_eq_some_iff, Prod.mk.injEq,
    decide_eq_true_eq]
  refine and_congr_left fun _ => exists_congr fun r => and_congr_right fun _ => ?_
  constructor
  · rintro ⟨b, hb, rfl, rfl⟩
    exact ⟨hb, rfl⟩
  · rintro ⟨ha, rfl⟩
    exact ⟨a, ha, rfl, rfl⟩

theorem ofFamily_ne_nil_iff (h : ofMessage m = .ok o) :
    o.ofFamily family ≠ [] ↔ m.GivesFamily family := by
  rw [Ne, ← List.isEmpty_iff, Bool.not_eq_true, List.isEmpty_eq_false_iff_exists_mem, Prod.exists]
  simp only [mem_ofFamily_iff h]
  rfl

theorem mem_members_iff (h : ofMessage m = .ok o) {a : Address} :
    a ∈ o.members family ↔ (∃ ttl, m.Gives a ttl) ∧ a.family = family := by
  unfold members
  simp only [Ascending.mem_ofList, List.mem_map, Prod.exists, mem_ofFamily_iff h, exists_and_right,
    exists_eq_right]

/-- Where there are answers of a family, one of them has the shortest time to live. -/
theorem isLeast_ttl (h : o.ofFamily family ≠ []) :
    IsLeast {n | ∃ a, (a, n) ∈ o.ofFamily family} (o.ttl family) := by
  have hmem : ∀ n, n ∈ (o.ofFamily family).map (·.2) ↔ ∃ a, (a, n) ∈ o.ofFamily family := by
    intro n
    simp
  unfold ttl
  cases hmin : ((o.ofFamily family).map (·.2)).min? with
  | none => exact absurd (List.map_eq_nil_iff.1 (List.min?_eq_none_iff.1 hmin)) h
  | some n =>
    obtain ⟨hn, hle⟩ := List.min?_eq_some_iff.1 hmin
    exact ⟨(hmem n).1 hn, fun k hk => hle k ((hmem k).2 hk)⟩

/-- The answers of a family last as long as the message gives addresses of the family. -/
theorem lastsFor_iff (h : ofMessage m = .ok o) (hgives : m.GivesFamily family) {ttl : Nat} :
    m.LastsFor family ttl ↔ ttl = o.ttl family := by
  have hleast := isLeast_ttl ((ofFamily_ne_nil_iff h).2 hgives)
  simp only [mem_ofFamily_iff h] at hleast
  exact ⟨fun hlasts => hlasts.unique hleast, fun heq => heq ▸ hleast⟩

/-- No family's answers are over at once exactly if no address is given for no time at all. -/
theorem forall_ttl_ne_zero_iff (h : ofMessage m = .ok o) :
    (∀ family, o.ofFamily family ≠ [] → o.ttl family ≠ 0) ↔ ∀ a, ¬ m.Gives a 0 := by
  constructor
  · intro hlong a hgives
    have hmem : (a, 0) ∈ o.ofFamily a.family := (mem_ofFamily_iff h).2 ⟨hgives, rfl⟩
    have hsome := List.ne_nil_of_mem hmem
    exact hlong a.family hsome (Nat.le_zero.1 ((isLeast_ttl hsome).2 ⟨a, hmem⟩))
  · intro hgives family hsome hzero
    obtain ⟨a, ha⟩ := (isLeast_ttl hsome).1
    rw [hzero, mem_ofFamily_iff h] at ha
    exact hgives a ha.1

end Observation

end Firewall.Dns
