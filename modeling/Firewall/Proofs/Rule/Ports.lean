/-
The clauses on ports mean what the entries of a policy say.

Entries are added one by one, and each adds to the bucket of its protocol what it
stands for.  So a bucket holds a port exactly when an entry for its protocol covers
it (`Ports.Holds`, which the fold keeps), and the clauses are read off the buckets.
-/
import Firewall.Proofs.Attempt
import Firewall.Proofs.Rule.Packet

namespace Firewall

/-- An entry of a policy covers a packet's protocol and port. -/
def PolicyPort.Covers (e : PolicyPort) : Transport → Prop
  | .toPort protocol port =>
    e.protocol.getD .tcp = protocol ∧ ∀ first ∈ e.port, first ≤ port ∧ port ≤ e.endPort.getD first
  | .other => False

/-- An entry that covers a single port. -/
def PolicyPort.single (protocol : Protocol) (n : PortNumber) : PolicyPort :=
  { protocol := some protocol, port := some n }

theorem PolicyPort.covers_single {protocol : Protocol} {n : PortNumber} {transport : Transport} :
    (single protocol n).Covers transport ↔ transport = .toPort protocol n := by
  cases transport with
  | other => simp [Covers]
  | toPort other port =>
    constructor
    · rintro ⟨hprotocol, hport⟩
      obtain ⟨hfirst, hlast⟩ : n ≤ port ∧ port ≤ n := hport n rfl
      rw [Fin.le_antisymm hlast hfirst, ← show protocol = other from hprotocol]
    · intro h
      cases h
      exact ⟨rfl, by rintro first ⟨⟩; exact ⟨Fin.le_refl n, Fin.le_refl n⟩⟩

/-- An entry that no list may have: it has an end without a port to begin
with, or it ends before it begins. -/
def PolicyPort.Misplaced (e : PolicyPort) : Prop :=
  (e.port = none ∧ ∃ last, e.endPort = some last) ∨
    ∃ first last, e.port = some first ∧ e.endPort = some last ∧ last < first

/-- A list of entries admits a packet: it is empty, or one of them covers it. -/
def PolicyPort.Admit (entries : List PolicyPort) (transport : Transport) : Prop :=
  entries = [] ∨ ∃ e ∈ entries, e.Covers transport

instance (e : PolicyPort) (transport : Transport) : Decidable (e.Covers transport) :=
  match transport with
  -- the entry's own port is looked at, not every port there is
  | .toPort _ _ => @instDecidableAnd _ _ inferInstance (Option.decidableForallMem e.port)
  | .other => inferInstanceAs (Decidable False)

instance (entries : List PolicyPort) (transport : Transport) :
    Decidable (PolicyPort.Admit entries transport) :=
  inferInstanceAs (Decidable (_ ∨ ∃ e ∈ entries, e.Covers transport))

/-- A clause matches a port of a protocol. -/
def PortClause.Matches (protocol : Protocol) (port : PortNumber) : PortClause → Prop
  | every p => p = protocol
  | among p ranges => p = protocol ∧ ∃ r ∈ ranges, port ∈ r

theorem PortClause.holds_iff {c : PortClause} {packet : Packet} :
    c.Holds packet ↔
      ∃ protocol port, packet.transport = .toPort protocol port ∧ c.Matches protocol port := by
  cases c with
  | every own => simp [Holds, Matches]
  | among own ranges =>
    constructor
    · rintro ⟨port, htransport, hport⟩
      exact ⟨own, port, htransport, rfl, hport⟩
    · rintro ⟨_, port, htransport, rfl, hport⟩
      exact ⟨port, htransport, hport⟩

/-- A bucket holds a port. -/
def PortBucket.Holds (b : PortBucket) (port : PortNumber) : Prop :=
  b.all = true ∨ ∃ r ∈ b.ranges, port ∈ r

namespace Ports

/-! ### What an entry adds to the buckets -/

theorem bucket_modify (p : Ports) (protocol other : Protocol) (f : PortBucket → PortBucket) :
    (p.modify protocol f).bucket other = if other = protocol then f (p.bucket other)
      else p.bucket other := by
  cases protocol <;> cases other <;> rfl

/-- **An entry adds the ports that it covers, and no others.** -/
theorem holds_addEntry {p q : Ports} {e : PolicyPort} (h : p.addEntry e = .ok q)
    (protocol : Protocol) (port : PortNumber) : (q.bucket protocol).Holds port ↔
      (p.bucket protocol).Holds port ∨ e.Covers (.toPort protocol port) := by
  unfold addEntry at h
  simp only at h
  split at h
  · rename_i hport hend
    cases h
    rw [addAll, bucket_modify]
    by_cases hp : protocol = e.protocol.getD .tcp
    · simp [hp, PortBucket.Holds, PolicyPort.Covers, hport]
    · simp [hp, Ne.symm hp, PolicyPort.Covers]
  · exact absurd h (by simp)
  · rename_i first hport
    split at h
    · exact absurd h (by simp)
    · cases h
      rw [addRange, bucket_modify]
      by_cases hp : protocol = e.protocol.getD .tcp
      · simp [hp, PortBucket.Holds, PolicyPort.Covers, hport, PortRange.mem_def,
          or_comm, or_left_comm]
      · simp [hp, Ne.symm hp, PolicyPort.Covers]

theorem isEmpty_addEntry {p q : Ports} {e : PolicyPort} (h : p.addEntry e = .ok q) :
    q.isEmpty = false := by
  have hsome : ∀ protocol : Protocol, (q.bucket protocol).isEmpty = false → q.isEmpty = false := by
    intro protocol hb
    unfold isEmpty
    cases protocol with
    | tcp => rw [show q.tcp.isEmpty = false from hb, Bool.false_and]
    | udp => rw [show q.udp.isEmpty = false from hb, Bool.and_false]
  have hinsert : ∀ (s : Ascending PortRange) (r : PortRange), (s.insert r).isEmpty = false := by
    intro s r
    have hmem : r ∈ (s.insert r).toList := Ascending.mem_insert.2 (.inl rfl)
    exact List.isEmpty_eq_false_iff.2 (List.ne_nil_of_mem hmem)
  unfold addEntry at h
  simp only at h
  split at h
  · cases h
    refine hsome (e.protocol.getD .tcp) ?_
    rw [addAll, bucket_modify, if_pos rfl]
    rfl
  · exact absurd h (by simp)
  · split at h
    · exact absurd h (by simp)
    · cases h
      refine hsome (e.protocol.getD .tcp) ?_
      rw [addRange, bucket_modify, if_pos rfl]
      simp [PortBucket.isEmpty, hinsert]

/-- An entry that is taken covers a port: its first one, or any if it names none. -/
theorem exists_covered {p q : Ports} {e : PolicyPort} (h : p.addEntry e = .ok q) :
    ∃ transport, e.Covers transport := by
  unfold addEntry at h
  simp only at h
  split at h
  · rename_i hport _
    refine ⟨.toPort (e.protocol.getD .tcp) ⟨0, by decide⟩, rfl, fun first hfirst => ?_⟩
    exact absurd (hport.symm.trans hfirst) (by simp)
  · exact absurd h (by simp)
  · rename_i first hport
    split at h
    · exact absurd h (by simp)
    · rename_i hlast
      refine ⟨.toPort (e.protocol.getD .tcp) first, rfl, fun port hfirst => ?_⟩
      cases hport.symm.trans hfirst
      exact ⟨Fin.le_refl first, Fin.not_lt.1 hlast⟩

/-- An entry is taken for every port of its protocol, or for a range
that does not end before it begins. -/
theorem addEntry_eq_ok {p q : Ports} {e : PolicyPort} : p.addEntry e = .ok q ↔
    (e.port = none ∧ e.endPort = none ∧ q = p.addAll (e.protocol.getD .tcp)) ∨
      ∃ first, e.port = some first ∧ first ≤ e.endPort.getD first ∧
        q = p.addRange (e.protocol.getD .tcp) ⟨first, e.endPort.getD first⟩ := by
  unfold addEntry
  cases e.port with
  | none => cases e.endPort <;> simp [eq_comm]
  | some first =>
    dsimp only
    by_cases hlast : e.endPort.getD first < first
    · simp [hlast, Fin.not_le.2 hlast]
    · simp [hlast, Fin.not_lt.1 hlast, eq_comm]

/-- **An entry is taken unless it is misplaced,** whatever was gathered before it. -/
theorem exists_addEntry_iff (p : Ports) (e : PolicyPort) :
    (∃ q, p.addEntry e = .ok q) ↔ ¬ e.Misplaced := by
  cases hport : e.port with
  | none => cases hend : e.endPort <;> simp [addEntry_eq_ok, PolicyPort.Misplaced, hport, hend]
  | some first =>
    cases hend : e.endPort with
    | none => simp [addEntry_eq_ok, PolicyPort.Misplaced, hport, hend]
    | some last =>
      have htaken : (∃ q, p.addEntry e = .ok q) ↔ first ≤ last := by
        simp [addEntry_eq_ok, hport, hend]
      have hmisplaced : e.Misplaced ↔ last < first := by
        simp [PolicyPort.Misplaced, hport, hend]
      rw [htaken, hmisplaced, Fin.not_lt]

theorem addEntry_single (p : Ports) (protocol : Protocol) (n : PortNumber) :
    p.addEntry (.single protocol n) = .ok (p.insert protocol n) := by
  simp [addEntry, insert, PolicyPort.single, PortRange.single]

/-! ### What a list of entries puts into the buckets -/

/-- **A list is taken unless one of its entries is misplaced.** -/
theorem exists_ofPolicy_iff {entries : List PolicyPort} :
    (∃ ports, ofPolicy entries = .ok ports) ↔ ∀ e ∈ entries, ¬ e.Misplaced :=
  Attempt.exists_foldlM_eq_ok_iff exists_addEntry_iff

/-- The ports after more of them were put in, one by one. -/
def insertAll (p : Ports) (inserted : List (Protocol × PortNumber)) : Ports :=
  inserted.foldl (fun p i => p.insert i.1 i.2) p

/-- **Ports that are put in are more entries of the list.** -/
theorem ofPolicy_insertAll {entries : List PolicyPort} {ports : Ports}
    (h : ofPolicy entries = .ok ports) (inserted : List (Protocol × PortNumber)) :
    ofPolicy (entries ++ inserted.map fun i => .single i.1 i.2) =
      .ok (ports.insertAll inserted) := by
  have hinserted : ∀ p : Ports,
      (inserted.map fun i => PolicyPort.single i.1 i.2).foldlM addEntry p =
        .ok (p.insertAll inserted) := by
    induction inserted with
    | nil => exact fun p => rfl
    | cons i rest ih =>
      intro p
      rw [List.map_cons, List.foldlM_cons, addEntry_single]
      exact ih (p.insert i.1 i.2)
  unfold ofPolicy at h ⊢
  rw [List.foldlM_append, h]
  exact hinserted ports

/-- What the buckets hold: every port of the protocols that an entry without a port is for, and
the ranges of the other entries. -/
structure GatheredFrom (entries : List PolicyPort) (ports : Ports) : Prop where
  all : ∀ protocol, (ports.bucket protocol).all = true ↔
    ∃ e ∈ entries, e.protocol.getD .tcp = protocol ∧ e.port = none
  ranges : ∀ protocol r, r ∈ (ports.bucket protocol).ranges ↔
    ∃ e ∈ entries, e.protocol.getD .tcp = protocol ∧ e.port = some r.first ∧
    e.endPort.getD r.first = r.last

/-- **The ports of a rule are gathered from its entries.** -/
theorem gatheredFrom_ofPolicy {entries : List PolicyPort} {ports : Ports}
    (h : ofPolicy entries = .ok ports) :
    GatheredFrom entries ports := by
  refine Attempt.foldlM_induction (motive := GatheredFrom) ?_ h ?_
  · rintro done e p q hdone hq
    rcases addEntry_eq_ok.1 hq with ⟨hport, -, rfl⟩ | ⟨first, hport, -, rfl⟩
    · constructor
      · intro protocol
        rw [addAll, bucket_modify]
        by_cases hp : protocol = e.protocol.getD .tcp
        · simp [hp, hport]
        · simp [hp, hdone.all, Ne.symm hp, or_and_right, exists_or]
      · intro protocol r
        rw [addAll, bucket_modify]
        split <;> simp [hport, hdone.ranges, or_and_right, exists_or]
    · have hrange : ∀ r : PortRange,
          e.port = some r.first ∧ e.endPort.getD r.first = r.last ↔
            r = ⟨first, e.endPort.getD first⟩ := by
        rintro ⟨first', last⟩
        rw [hport, Option.some.injEq, PortRange.mk.injEq]
        constructor
        · rintro ⟨rfl, hlast⟩
          exact ⟨rfl, hlast.symm⟩
        · rintro ⟨rfl, rfl⟩
          exact ⟨rfl, rfl⟩
      constructor
      · intro protocol
        rw [addRange, bucket_modify]
        split <;> simp [hport, hdone.all, or_and_right, exists_or]
      · intro protocol r
        rw [addRange, bucket_modify]
        by_cases hp : protocol = e.protocol.getD .tcp
        · simp [hp, hdone.ranges, hrange, or_and_right, exists_or, or_comm]
        · simp [hp, hdone.ranges, Ne.symm hp, or_and_right, exists_or]
  · have hnone : ∀ r : PortRange, r ∉ (∅ : Ascending PortRange) := fun r => Ascending.not_mem_empty
    constructor
    · intro protocol
      cases protocol <;> simp [empty, bucket]
    · intro protocol r
      cases protocol <;> simp [empty, bucket, hnone]

theorem holds_ofPolicy {entries : List PolicyPort} {ports : Ports}
    (h : ofPolicy entries = .ok ports) (protocol : Protocol) (port : PortNumber) :
    (ports.bucket protocol).Holds port ↔ ∃ e ∈ entries, e.Covers (.toPort protocol port) := by
  refine Attempt.foldlM_induction
    (motive := fun done p => (p.bucket protocol).Holds port ↔ ∃ e ∈ done,
      e.Covers (.toPort protocol port)) ?_ h ?_
  · intro done e p q hp hq
    rw [holds_addEntry hq, hp]
    simp [or_and_right, exists_or]
  · have hnone : ∀ r : PortRange, r ∉ (∅ : Ascending PortRange) := fun r => Ascending.not_mem_empty
    cases protocol <;> simp [empty, bucket, PortBucket.Holds, hnone]

theorem isEmpty_ofPolicy {entries : List PolicyPort} {ports : Ports}
    (h : ofPolicy entries = .ok ports) :
    ports.isEmpty = true ↔ entries = [] := by
  refine Attempt.foldlM_induction
    (motive := fun done p => p.isEmpty = true ↔ done = []) ?_ h (by decide)
  intro done e p q _ hq
  simp [isEmpty_addEntry hq]

theorem exists_admitted {entries : List PolicyPort} {ports : Ports}
    (h : ofPolicy entries = .ok ports) :
    ∃ transport, PolicyPort.Admit entries transport := by
  cases entries with
  | nil => exact ⟨.other, .inl rfl⟩
  | cons e rest =>
    unfold ofPolicy at h
    rw [List.foldlM_cons, Attempt.bind_eq_ok] at h
    obtain ⟨q, hq, -⟩ := h
    obtain ⟨transport, hcovers⟩ := exists_covered hq
    exact ⟨transport, .inr ⟨e, List.mem_cons_self, hcovers⟩⟩

/-! ### What the clauses match -/

private theorem matches_clause? {own protocol : Protocol} {b : PortBucket} {port : PortNumber} :
    (∃ c ∈ clause? own b, c.Matches protocol port) ↔ own = protocol ∧ b.Holds port := by
  unfold clause? PortBucket.Holds
  by_cases hall : b.all = true
  · simp [hall, PortClause.Matches]
  · by_cases hranges : b.ranges.isEmpty = true
    · have hnone : ∀ r, r ∉ b.ranges := by
        intro r hr
        exact List.ne_nil_of_mem hr (List.isEmpty_iff.1 hranges)
      simp [hall, hranges, hnone]
    · simp [hall, hranges, PortClause.Matches]

/-- **The clauses match the ports that the bucket of their protocol holds.** -/
theorem matches_clauses {p : Ports} {protocol : Protocol} {port : PortNumber} :
    (∃ c ∈ p.clauses, c.Matches protocol port) ↔ (p.bucket protocol).Holds port := by
  simp only [clauses, List.mem_append, Option.mem_toList, or_and_right, exists_or]
  refine (or_congr matches_clause? matches_clause?).trans ?_
  cases protocol <;> simp [bucket]

/-- The clauses match the packets to a port that the bucket of their protocol holds. -/
theorem holds_clauses {p : Ports} {packet : Packet} : (∃ c ∈ p.clauses, c.Holds packet) ↔
    ∃ protocol port, packet.transport = .toPort protocol port ∧ (p.bucket protocol).Holds port := by
  simp only [PortClause.holds_iff, ← matches_clauses]
  constructor
  · rintro ⟨c, hc, protocol, port, htransport, hmatches⟩
    exact ⟨protocol, port, htransport, c, hc, hmatches⟩
  · rintro ⟨protocol, port, htransport, c, hc, hmatches⟩
    exact ⟨c, hc, protocol, port, htransport, hmatches⟩

/-- **The clauses of a list of entries mean what the entries say**: without a clause every packet is
admitted, else the packets that an entry covers. -/
theorem holds_clauses_ofPolicy {entries : List PolicyPort} {ports : Ports}
    (h : ofPolicy entries = .ok ports) (packet : Packet) :
    (ports.isEmpty = true ∨ ∃ c ∈ ports.clauses, c.Holds packet) ↔
      PolicyPort.Admit entries packet.transport := by
  unfold PolicyPort.Admit
  rw [isEmpty_ofPolicy h, holds_clauses]
  refine or_congr Iff.rfl ?_
  constructor
  · rintro ⟨protocol, port, htransport, hport⟩
    rw [htransport]
    exact (holds_ofPolicy h protocol port).1 hport
  · rintro ⟨e, he, hcovers⟩
    cases htransport : packet.transport with
    | toPort protocol port =>
      rw [htransport] at hcovers
      exact ⟨protocol, port, rfl, (holds_ofPolicy h protocol port).2 ⟨e, he, hcovers⟩⟩
    | other =>
      rw [htransport] at hcovers
      exact absurd hcovers id

end Ports

end Firewall
