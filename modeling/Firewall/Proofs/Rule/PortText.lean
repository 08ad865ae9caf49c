/-
The clauses on ports, read back from what is printed.

A list of entries is taken unless one of them is misplaced.  What it leaves is known by
the buckets, and ports that are put in afterwards are more entries of the list, so both
are one question: which ports an entry of a list covers.

Each bucket that is not empty is printed as one clause.  A clause is read by the reader
of rule lines, which knows the words of a rule and not how clauses are made; what it
reads is the clause that was printed, so the printed clauses match the ports that the
buckets hold.
-/
import Firewall.Proofs.Rule.Ports
import Firewall.Proofs.Rule.Text

namespace Firewall

namespace PortClause

/-! ### Reading one clause -/

/-- Reads a clause on ports from its text, which holds nothing else. -/
def read? (text : String) : Option PortClause :=
  match Line.match? (Text.words text) with
  | some (.port c, []) => some c
  | _ => none

/-- What the text of a clause says matches a port of a protocol. -/
def TextMatches (protocol : Protocol) (port : PortNumber) (text : String) : Prop :=
  ∃ c, read? text = some c ∧ c.Matches protocol port

theorem read?_text {c : PortClause} (h : (RuleMatch.port c).Readable) : read? c.text = some c := by
  have hread := Line.match?_parts h []
  rw [List.append_nil, ← Line.words_text] at hread
  unfold read?
  rw [show c.text = (RuleMatch.port c).text from rfl, hread]

end PortClause

namespace Ports

variable {p : Ports}

/-! ### The clauses of all buckets -/

/-- A clause of a bucket is about the protocol of the bucket, and lists
some range if it lists any. -/
private theorem of_mem_clause? {protocol : Protocol} {b : PortBucket} {c : PortClause}
    (h : clause? protocol b = some c) : c.protocol = protocol ∧ (RuleMatch.port c).Readable := by
  unfold clause? at h
  split at h
  · cases h
    exact ⟨rfl, trivial⟩
  · split at h
    · exact nomatch h
    · rename_i hranges
      cases h
      exact ⟨rfl, fun hnil => hranges (List.isEmpty_iff.2 hnil)⟩

theorem readable_of_mem_clauses {c : PortClause} (h : c ∈ p.clauses) :
    (RuleMatch.port c).Readable := by
  rcases List.mem_append.1 h with h | h
  · exact (of_mem_clause? (Option.mem_toList.1 h)).2
  · exact (of_mem_clause? (Option.mem_toList.1 h)).2

theorem protocols_clauses_sublist (p : Ports) :
    (p.clauses.map PortClause.protocol).Sublist [.tcp, .udp] := by
  have hone : ∀ (protocol : Protocol) (b : PortBucket),
      ((clause? protocol b).toList.map PortClause.protocol).Sublist [protocol] := by
    intro protocol b
    cases h : clause? protocol b with
    | none => exact List.nil_sublist _
    | some c =>
      simp only [Option.toList_some, List.map_singleton, (of_mem_clause? h).1, List.Sublist.refl]
  unfold clauses
  rw [List.map_append]
  exact (hone .tcp p.tcp).append (hone .udp p.udp)

theorem clauses_eq_nil_iff : p.clauses = [] ↔ p.isEmpty = true := by
  have hone : ∀ (protocol : Protocol) (b : PortBucket), clause? protocol b = none ↔
      b.isEmpty = true := by
    intro protocol b
    unfold clause? PortBucket.isEmpty
    cases b.all <;> cases b.ranges.isEmpty <;> simp
  unfold clauses isEmpty
  rw [List.append_eq_nil_iff, Option.toList_eq_nil_iff, Option.toList_eq_nil_iff, hone, hone,
    Bool.and_eq_true]

theorem textMatches_clauses {protocol : Protocol} {port : PortNumber} :
    (∃ c ∈ p.clauses, PortClause.TextMatches protocol port c.text) ↔
      (p.bucket protocol).Holds port := by
  rw [← matches_clauses]
  refine exists_congr fun c => and_congr_right fun hc => ?_
  unfold PortClause.TextMatches
  rw [PortClause.read?_text (readable_of_mem_clauses hc)]
  simp

/--
**The clauses on ports denote exactly the ports that are listed.**  A list of entries is
refused exactly if one of them has an end without a port, or one below it.  Where it is not,
and whatever ports are put in afterwards, the printed clauses, read back, match a port of a
protocol exactly if an entry covers it or it was put in.  There is at most one clause for each
protocol, that of TCP first, each is read back as it was printed, and there is none exactly if
nothing was listed and nothing put in.
-/
theorem clauses_denote_listed_ports (entries : List PolicyPort) :
    ((∃ fault, ofPolicy entries = .error fault) ↔ ∃ e ∈ entries, e.Misplaced) ∧
    ∀ ports, ofPolicy entries = .ok ports → ∀ inserted : List (Protocol × PortNumber),
      let clauses := (ports.insertAll inserted).clauses
      (∀ protocol port, (∃ c ∈ clauses, PortClause.TextMatches protocol port c.text) ↔
        (∃ e ∈ entries, e.Covers (.toPort protocol port)) ∨ (protocol, port) ∈ inserted) ∧
      (clauses.map PortClause.protocol).Sublist [.tcp, .udp] ∧
      (∀ c ∈ clauses, PortClause.read? c.text = some c) ∧
      (clauses = [] ↔ entries = [] ∧ inserted = []) := by
  constructor
  · have htaken : (∃ ports, ofPolicy entries = .ok ports) ↔ ∀ e ∈ entries, ¬ e.Misplaced :=
      exists_ofPolicy_iff
    cases h : ofPolicy entries with
    | error fault => simpa [h] using htaken
    | ok ports => simpa [h] using htaken
  · intro ports hports inserted clauses
    -- what was put in is listed behind the entries
    have hall := ofPolicy_insertAll hports inserted
    refine ⟨fun protocol port => ?_, protocols_clauses_sublist _, fun c hc => ?_, ?_⟩
    · rw [textMatches_clauses, holds_ofPolicy hall]
      simp [or_and_right, exists_or, PolicyPort.covers_single, eq_comm]
    · exact PortClause.read?_text (readable_of_mem_clauses hc)
    · rw [clauses_eq_nil_iff, isEmpty_ofPolicy hall, List.append_eq_nil_iff, List.map_eq_nil_iff]

/-- Ranges of TCP that overlap, one port of it twice, and one UDP port beside the whole protocol. -/
def sampleMixed : List PolicyPort :=
  [.tcp ⟨6443, by decide⟩, .udp dnsPort,
    { port := some ⟨8050, by decide⟩, endPort := some ⟨9000, by decide⟩ },
    { protocol := some .tcp, port := some ⟨8000, by decide⟩, endPort := some ⟨8080, by decide⟩ },
    .tcp ⟨6443, by decide⟩, { protocol := some .udp }]

example : (ofPolicy sampleMixed).map
    (fun ports => (ports.insert .tcp ⟨22, by decide⟩).clauses.map PortClause.text)
    = .ok ["tcp dport \x7b 22, 6443, 8000-8080, 8050-9000 \x7d", "meta l4proto udp"] := by
      decide +kernel

/-- The list is taken, and with one more port put in the clauses match that port, the ends of
the two ranges that overlap and every UDP port, but not the port behind the ranges; with an end
before its port the list is refused. -/
theorem clauses_denote_sampleMixed :
    (∃ ports, ofPolicy sampleMixed = .ok ports ∧
      let clauses := (ports.insertAll [(.tcp, ⟨22, by decide⟩)]).clauses
      (∃ c ∈ clauses, PortClause.TextMatches .tcp ⟨22, by decide⟩ c.text) ∧
      (∃ c ∈ clauses, PortClause.TextMatches .tcp ⟨8000, by decide⟩ c.text) ∧
      (∃ c ∈ clauses, PortClause.TextMatches .tcp ⟨9000, by decide⟩ c.text) ∧
      (¬ ∃ c ∈ clauses, PortClause.TextMatches .tcp ⟨9001, by decide⟩ c.text) ∧
      (∃ c ∈ clauses, PortClause.TextMatches .udp ⟨65535, by decide⟩ c.text) ∧ clauses ≠ []) ∧
    ∃ fault, ofPolicy
      (sampleMixed ++ [{ port := some ⟨6443, by decide⟩, endPort := some ⟨80, by decide⟩ }])
      = .error fault := by
  constructor
  · obtain ⟨ports, hports⟩ :=
      Attempt.isOk_iff.1 (by decide +kernel : (ofPolicy sampleMixed).isOk = true)
    obtain ⟨hmatches, -, -, hnone⟩ :=
      (clauses_denote_listed_ports sampleMixed).2 ports hports [(.tcp, ⟨22, by decide⟩)]
    refine ⟨ports, hports, ?_⟩
    simp only [hmatches]
    refine ⟨by decide, by decide, by decide, by decide, by decide, fun hnil => ?_⟩
    exact absurd (hnone.1 hnil).1 (List.cons_ne_nil _ _)
  · refine (clauses_denote_listed_ports _).1.2
      ⟨_, List.mem_append_right _ (List.mem_singleton.2 rfl), ?_⟩
    exact .inr ⟨_, _, rfl, rfl, by decide⟩

end Ports

end Firewall
