/-
Runs whose names are spelled differently.

A name comes into the cache by two doors, with a message and with a saved set, and at both
it is brought into form before anything looks at it.  So two histories that differ only in
how names are spelled go through the very same caches (`history_eq_of_respelled`), and
report the same at every step.  A selector brings its text into form as well, which is why
its spelling does not matter either.
-/
import Firewall.Proofs.Cache.Consistent
import Firewall.Proofs.Name.Spelling

namespace Firewall

namespace Dns

/-- Two messages differ at most in the spelling of the names that are asked for and answered. -/
structure Message.Respelled (m m' : Message) : Prop where
  kind : m.isResponse = m'.isResponse
  questions : List.Forall₂
    (fun q q' => Name.Respelled q.name q'.name ∧ q.type = q'.type) m.questions m'.questions
  answers : List.Forall₂
    (fun a a' => Name.Respelled a.name a'.name ∧ a.ttl = a'.ttl ∧ a.address = a'.address)
    m.answers m'.answers

theorem ofMessage_eq_of_respelled {m m' : Message} (h : m.Respelled m') :
    Observation.ofMessage m = Observation.ofMessage m' := by
  have haddresses : ∀ {answers answers' : List Answer},
      List.Forall₂ (fun a a' => Name.Respelled a.name a'.name ∧ a.ttl = a'.ttl ∧
        a.address = a'.address)
        answers answers' →
      answers.filterMap (fun a => a.address.map fun address => (address, a.ttl))
        = answers'.filterMap (fun a => a.address.map fun address => (address, a.ttl)) := by
    intro answers answers' hanswers
    induction hanswers with
    | nil => rfl
    | cons hfirst _ ih =>
      obtain ⟨-, httl, haddress⟩ := hfirst
      rw [List.filterMap_cons, List.filterMap_cons, httl, haddress, ih]
  obtain ⟨isResponse, questions, answers⟩ := m
  obtain ⟨isResponse', questions', answers'⟩ := m'
  obtain ⟨hkind, hquestions, hanswers⟩ := h
  dsimp only at hkind hquestions hanswers
  subst hkind
  unfold Observation.ofMessage
  dsimp only
  cases hanswers with
  | nil => rfl
  | @cons first first' _ _ hfirst hrest =>
    -- the name is that of the first question, or for want of one that of the first answer
    have hname : Name.fullyQualified ((questions.head?.map (·.name)).getD first.name)
        = Name.fullyQualified ((questions'.head?.map (·.name)).getD first'.name) := by
      cases hquestions with
      | nil => exact Name.fullyQualified_eq_iff.2 hfirst.1
      | cons hquestion _ => exact Name.fullyQualified_eq_iff.2 hquestion.1
    have hasked : questions.head?.map (·.type) = questions'.head?.map (·.type) := by
      cases hquestions with
      | nil => rfl
      | cons hquestion _ => exact congrArg some hquestion.2
    have hall := haddresses (.cons hfirst hrest)
    dsimp only
    rw [hname, hasked, hall]

end Dns

/-- Two saved sets differ at most in the spelling of their names. -/
structure NamedSet.Respelled (s s' : NamedSet) : Prop where
  name : Name.Respelled s.fqdn s'.fqdn
  rest : { s with fqdn := s'.fqdn } = s'

namespace Cache

/-- Two operations differ at most in the spelling of names. -/
inductive Operation.Respelled : Operation → Operation → Prop
  | response (seen : Instant) {m m' : Dns.Message} (h : m.Respelled m') :
      Respelled (.event (.response seen m)) (.event (.response seen m'))
  | purge (now : Instant) : Respelled (.event (.purge now)) (.event (.purge now))
  | restore {sets sets' : List NamedSet} (h : List.Forall₂ NamedSet.Respelled sets sets') :
      Respelled (.restore sets) (.restore sets')
  | forward (forwarder : Endpoint) : Respelled (.forward forwarder) (.forward forwarder)

variable {c : Cache}

/-! ### Step by step the same cache -/

theorem apply_eq_of_respelled {m m' : Dns.Message} (h : m.Respelled m') (seen : Instant) :
    c.apply seen m = c.apply seen m' := by
  unfold apply
  rw [Dns.ofMessage_eq_of_respelled h]

theorem restoreOne?_eq_of_respelled {s s' : NamedSet} (h : s.Respelled s') :
    c.restoreOne? s = c.restoreOne? s' := by
  obtain ⟨hname, hrest⟩ := h
  have hqualified : Name.fullyQualified s.fqdn = Name.fullyQualified s'.fqdn :=
    Name.fullyQualified_eq_iff.2 hname
  rw [← hrest]
  unfold restoreOne?
  rw [hqualified]

theorem restore_eq_of_respelled {sets sets' : List NamedSet}
    (h : List.Forall₂ NamedSet.Respelled sets sets') :
    c.restore sets = c.restore sets' := by
  unfold restore
  generalize 0 = n
  induction h generalizing c n with
  | nil => rfl
  | cons hfirst _ ih =>
    rw [List.foldl_cons, List.foldl_cons]
    dsimp only
    rw [restoreOne?_eq_of_respelled hfirst]
    split
    · exact ih _
    · exact ih _

theorem perform_eq_of_respelled {operation operation' : Operation}
    (h : operation.Respelled operation') :
    c.perform operation = c.perform operation' := by
  cases h with
  | response seen h => simp only [perform, after, apply_eq_of_respelled h]
  | purge now => rfl
  | restore h => exact congrArg Prod.fst (restore_eq_of_respelled h)
  | forward forwarder => rfl

/-- **Histories that differ only in the spelling of names lead to the same cache.** -/
theorem history_eq_of_respelled {operations operations' : List Operation}
    (h : List.Forall₂ Operation.Respelled operations operations') :
    c.history operations = c.history operations' := by
  induction h generalizing c with
  | nil => rfl
  | cons hfirst _ ih =>
    show (c.perform _).history _ = (c.perform _).history _
    rw [perform_eq_of_respelled hfirst]
    exact ih

/-! ### Look-ups -/

theorem setsFor_withText {selector : Selector} {text : String}
    (hspelled : Name.Respelled selector.text text) (h : text ≠ "" ∨ selector.fault? = none)
    (forPersist : Bool) (now : Instant) :
    c.setsFor (selector.withText text) forPersist now = c.setsFor selector forPersist now := by
  unfold setsFor
  rw [funext fun s : NamedSet => Selector.selects_withText hspelled h s.fqdn]

/--
**Names are compared without regard to how they are spelled.**  Two histories that differ only in
the case of letters, the white space around names and the dot at their end render the same sets at
every time.  In either, a look-up finds the same under every spelling of its selector's text, so
long as the text that is left is not empty where the selector sets two.
-/
theorem spelling_is_immaterial (forwarder : Endpoint) {operations operations' : List Operation}
    (h : List.Forall₂ Operation.Respelled operations operations') :
    let c := (fresh forwarder).history operations
    let c' := (fresh forwarder).history operations'
    (∀ now, c.setsForRendering now = c'.setsForRendering now) ∧
      ∀ {selector : Selector} {text : String}, Name.Respelled selector.text text →
        text ≠ "" ∨ selector.fault? = none → ∀ forPersist now,
        c.setsFor (selector.withText text) forPersist now = c.setsFor selector forPersist now ∧
          c'.setsFor (selector.withText text) forPersist now =
            c.setsFor selector forPersist now := by
  intro c c'
  have hsame : c = c' := history_eq_of_respelled h
  refine ⟨fun now => by rw [hsame], fun hspelled hkept forPersist now => ?_⟩
  rw [← hsame]
  exact ⟨setsFor_withText hspelled hkept forPersist now,
    setsFor_withText hspelled hkept forPersist now⟩

/-- A saved name and a message in two spellings, and a look-up in a third. -/
theorem spelling_is_immaterial_sampleNames :
    let seen := Instant.ofSeconds 1700000000
    let c := (fresh default).history
      [.restore [sampleSaved " C.com" "fqdn_c_com_v4"],
        .event (.response seen (sampleAnswer "A-B.com" 60))]
    let c' := (fresh default).history
      [.restore [sampleSaved "c.com." "fqdn_c_com_v4"],
        .event (.response seen (sampleAnswer "a-b.com." 60))]
    c.setsForRendering seen = c'.setsForRendering seen ∧
      c'.setsFor (.pattern "*.com.") true seen = c.setsFor (.pattern " *.COM") true seen := by
  intro seen c c'
  have hrestored :
      NamedSet.Respelled (sampleSaved " C.com" "fqdn_c_com_v4")
        (sampleSaved "c.com." "fqdn_c_com_v4") :=
    ⟨Name.fullyQualified_eq_iff.1 (by decide +kernel), rfl⟩
  have hname : Name.Respelled "A-B.com" "a-b.com." :=
    Name.fullyQualified_eq_iff.1 (by decide +kernel)
  have hmessage : (sampleAnswer "A-B.com" 60).Respelled (sampleAnswer "a-b.com." 60) :=
    ⟨rfl, .cons ⟨hname, rfl⟩ .nil, .cons ⟨hname, rfl, rfl⟩ .nil⟩
  obtain ⟨hrendered, hlisted⟩ := spelling_is_immaterial default
    (.cons (.restore (.cons hrestored .nil)) (.cons (.response seen hmessage) .nil))
  have htext : Name.Respelled (Selector.pattern " *.COM").text "*.com." :=
    Name.fullyQualified_eq_iff.1 (by decide +kernel)
  exact ⟨hrendered seen, (hlisted htext (.inl (by decide)) true seen).2⟩

/-- Behind white space a dot is not the end of the name before it: without it the white space is
trimmed, with it the white space is part of the name.  And a selector that sets two texts reads the
second when the first is left empty. -/
theorem final_dot_matters_sampleNames :
    let seen := Instant.ofSeconds 1700000000
    let restored := fun name => ((fresh default).restore [sampleSaved name "fqdn_c_com_v4"]).1
    let c := (fresh default).history [.event (.response seen (sampleAnswer "c.com" 60))]
    (restored "c.com ").setsForRendering seen ≠ (restored "c.com .").setsForRendering seen ∧
      c.setsFor (.exact "c.com ") true seen ≠ c.setsFor (.exact "c.com .") true seen ∧
      c.setsFor ⟨some ".", some "*.com"⟩ true seen ≠
        c.setsFor ⟨some "", some "*.com"⟩ true seen := by
  decide +kernel

end Cache

end Firewall
