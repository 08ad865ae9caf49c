/-
Peers mean what their blocks say.

The blocks of a rule are taken apart: the prefixes of all blocks go into one list for
each family, and so do the exceptions of all blocks.  An exception therefore counts for
every block of its rule, and not for its own alone.  `targetsOf_ok` says exactly which
prefixes end up in which list, and the rest of the module is about reading the lists.

Why no exception opens a family: a block is taken only when its exceptions lie in its
own prefix, and so are of its family.  A family with exceptions has allowed prefixes too
(`allow_ne_nil`), so each family that has a match has a match on what is allowed.
-/
import Firewall.Policy.Compile
import Firewall.Proofs.Attempt
import Firewall.Proofs.Rule.Packet
import Mathlib.Logic.Basic

namespace Firewall

/-- An address lies in the prefix that an entry gives. -/
def Prefix.InEntry (entry : String) (a : Address) : Prop := ∃ p, Prefix.parse entry = .ok p ∧ a ∈ p

instance (entry : String) (a : Address) : Decidable (Prefix.InEntry entry a) :=
  match h : Prefix.parse entry with
  | .ok p => decidable_of_iff (a ∈ p)
    ⟨fun ha => ⟨p, h, ha⟩, fun ⟨_, hq, ha⟩ => Except.ok.inj (hq.symm.trans h) ▸ ha⟩
  | .error _ => isFalse fun ⟨_, hq, _⟩ => nomatch hq.symm.trans h

namespace Block

/-- An address lies in the prefix of a block. -/
def Contains (b : Block) (a : Address) : Prop := Prefix.InEntry b.cidr a

/-- An address lies in an exception of a block. -/
def Excludes (b : Block) (a : Address) : Prop := ∃ entry ∈ b.except, Prefix.InEntry entry a

/-- A list of blocks admits an address: it is empty, or a block contains the address and
no block of the list excludes it. -/
def Admit (blocks : List Block) (a : Address) : Prop :=
  blocks = [] ∨ (∃ b ∈ blocks, b.Contains a) ∧ ¬ ∃ b ∈ blocks, b.Excludes a

instance (b : Block) (a : Address) : Decidable (b.Contains a) :=
  inferInstanceAs (Decidable (Prefix.InEntry _ _))

instance (b : Block) (a : Address) : Decidable (b.Excludes a) :=
  inferInstanceAs (Decidable (∃ entry ∈ b.except, Prefix.InEntry entry a))

instance (blocks : List Block) (a : Address) : Decidable (Admit blocks a) :=
  inferInstanceAs (Decidable (_ ∨ _ ∧ ¬ _))

end Block

namespace Compile

/-! ### Which prefixes are gathered -/

/-- Between two stages of gathering, what was added: the prefixes that satisfy one condition to what
is allowed, and those that satisfy another to what is excluded, each to its own family. -/
structure Gathers (before after : PerFamily Targets) (Allow Except : Prefix → Prop) : Prop where
  allow : ∀ f p, p ∈ (after.get f).allow ↔ p ∈ (before.get f).allow ∨ p.family = f ∧ Allow p
  except : ∀ f p, p ∈ (after.get f).except ↔ p ∈ (before.get f).except ∨ p.family = f ∧ Except p

namespace Gathers

variable {t t₁ t₂ : PerFamily Targets} {A A₁ A₂ E E₁ E₂ : Prefix → Prop}

theorem refl (t : PerFamily Targets) : Gathers t t (fun _ => False) (fun _ => False) :=
  ⟨fun _ _ => by simp, fun _ _ => by simp⟩

theorem trans (h₁ : Gathers t t₁ A₁ E₁) (h₂ : Gathers t₁ t₂ A₂ E₂) :
    Gathers t t₂ (fun p => A₁ p ∨ A₂ p) (fun p => E₁ p ∨ E₂ p) := by
  constructor
  · intro f p
    rw [h₂.allow, h₁.allow, and_or_left, or_assoc]
  · intro f p
    rw [h₂.except, h₁.except, and_or_left, or_assoc]

theorem congr (h : Gathers t t₁ A₁ E₁) (hA : ∀ p, A₁ p ↔ A₂ p) (hE : ∀ p, E₁ p ↔ E₂ p) :
    Gathers t t₁ A₂ E₂ := by
  constructor
  · intro f p
    rw [h.allow, hA]
  · intro f p
    rw [h.except, hE]

private theorem mem_insert_own_family {s : Ascending Prefix} {f : Family} {p q : Prefix} :
    (if f = q.family then p ∈ s.insert q else p ∈ s) ↔ p ∈ s ∨ p.family = f ∧ p = q := by
  by_cases hf : f = q.family
  · rw [if_pos hf, Ascending.mem_insert, hf]
    constructor
    · rintro (rfl | h)
      · exact .inr ⟨rfl, rfl⟩
      · exact .inl h
    · rintro (h | ⟨-, rfl⟩)
      · exact .inr h
      · exact .inl rfl
  · rw [if_neg hf]
    constructor
    · exact .inl
    · rintro (h | ⟨hp, rfl⟩)
      · exact h
      · exact absurd hp.symm hf

theorem addAllow (t : PerFamily Targets) (q : Prefix) :
    Gathers t (t.modify q.family (·.addAllow q)) (· = q) (fun _ => False) := by
  constructor
  · intro f p
    rw [← mem_insert_own_family, PerFamily.get_modify]
    split <;> rfl
  · intro f p
    rw [PerFamily.get_modify]
    split <;> simp [Targets.addAllow]

theorem addExcept (t : PerFamily Targets) (q : Prefix) :
    Gathers t (t.modify q.family (·.addExcept q)) (fun _ => False) (· = q) := by
  constructor
  · intro f p
    rw [PerFamily.get_modify]
    split <;> simp [Targets.addExcept]
  · intro f p
    rw [← mem_insert_own_family, PerFamily.get_modify]
    split <;> rfl

end Gathers

theorem prefixOf_eq_ok {entry : String} {p : Prefix} :
    prefixOf entry = .ok p ↔ Prefix.parse entry = .ok p :=
  Attempt.mapError_eq_ok

theorem addExcept_eq_ok {cidr : Prefix} {t t' : PerFamily Targets} {entry : String} :
    addExcept cidr t entry = .ok t' ↔
      ∃ q, Prefix.parse entry = .ok q ∧ cidr.covers q = true ∧
      t' = t.modify q.family (·.addExcept q) := by
  unfold addExcept
  rw [Attempt.bind_eq_ok]
  simp only [prefixOf_eq_ok]
  refine exists_congr fun q => and_congr_right fun _ => ?_
  by_cases hc : cidr.covers q = true
  · simp [hc, pure, Except.pure, eq_comm]
  · simp [hc, throw, throwThe, MonadExceptOf.throw]

theorem gathers_excepts {cidr : Prefix} {entries : List String} {t t' : PerFamily Targets}
    (h : entries.foldlM (addExcept cidr) t = .ok t') :
    Gathers t t' (fun _ => False) (fun p => ∃ entry ∈ entries, Prefix.parse entry = .ok p) ∧
      ∀ entry ∈ entries, ∃ p, Prefix.parse entry = .ok p ∧ cidr.covers p = true := by
  refine Attempt.foldlM_induction (motive := fun done s =>
    Gathers t s (fun _ => False) (fun p => ∃ entry ∈ done, Prefix.parse entry = .ok p) ∧
      ∀ entry ∈ done, ∃ p, Prefix.parse entry = .ok p ∧ cidr.covers p = true) ?_ h
    ⟨(Gathers.refl t).congr (by simp) (by simp), by simp⟩
  rintro done entry s s' ⟨hgathers, hcovers⟩ hstep
  obtain ⟨q, hq, hcover, rfl⟩ := addExcept_eq_ok.1 hstep
  constructor
  · refine (hgathers.trans (Gathers.addExcept s q)).congr (by simp) fun p => ?_
    simp only [List.mem_append, List.mem_singleton, or_and_right, exists_or, exists_eq_left, hq,
      Except.ok.injEq]
    exact or_congr_right eq_comm
  · intro e he
    rcases List.mem_append.1 he with he | he
    · exact hcovers e he
    · rw [List.mem_singleton.1 he]
      exact ⟨q, hq, hcover⟩

/-- A block is taken when its prefix is allowed and its exceptions lie in it. -/
theorem addBlock_eq_ok {allowed : Option PrefixSet} {t t' : PerFamily Targets} {b : Block} :
    addBlock allowed t b = .ok t' ↔ ∃ cidr, Prefix.parse b.cidr = .ok cidr ∧
      allowed.all (·.contains cidr) = true ∧
      b.except.foldlM (addExcept cidr) (t.modify cidr.family (·.addAllow cidr)) = .ok t' := by
  unfold addBlock
  rw [Attempt.bind_eq_ok]
  simp only [prefixOf_eq_ok]
  refine exists_congr fun cidr => and_congr_right fun _ => ?_
  by_cases hc : allowed.all (·.contains cidr) = true
  · simp [hc]
  · simp [hc, throw, throwThe, MonadExceptOf.throw]

/-- A block's exceptions lie in its prefix. -/
def Nested (b : Block) : Prop := ∃ cidr, Prefix.parse b.cidr = .ok cidr ∧
  ∀ entry ∈ b.except, ∃ p, Prefix.parse entry = .ok p ∧ cidr.covers p = true

theorem gathers_block {allowed : Option PrefixSet} {t t' : PerFamily Targets} {b : Block}
    (h : addBlock allowed t b = .ok t') :
    Gathers t t' (fun p => Prefix.parse b.cidr = .ok p)
      (fun p => ∃ entry ∈ b.except, Prefix.parse entry = .ok p) ∧
      Nested b := by
  obtain ⟨cidr, hcidr, -, hexcepts⟩ := addBlock_eq_ok.1 h
  obtain ⟨hgathers, hcovers⟩ := gathers_excepts hexcepts
  refine ⟨((Gathers.addAllow t cidr).trans hgathers).congr (fun p => ?_) (by simp), cidr,
    hcidr, hcovers⟩
  rw [hcidr, Except.ok.injEq, or_false, eq_comm]

/-- What the targets of a list of blocks hold: the prefixes of all
blocks, and the exceptions of all. -/
structure GatheredFrom (blocks : List Block) (t : PerFamily Targets) : Prop where
  allow : ∀ f p, p ∈ (t.get f).allow ↔ p.family = f ∧ ∃ b ∈ blocks, Prefix.parse b.cidr = .ok p
  except : ∀ f p, p ∈ (t.get f).except ↔
    p.family = f ∧ ∃ b ∈ blocks, ∃ entry ∈ b.except, Prefix.parse entry = .ok p
  nested : ∀ b ∈ blocks, Nested b

/-- **The targets of a rule are gathered from its blocks.** -/
theorem targetsOf_ok {blocks : List Block} {allowed : Option PrefixSet} {t : PerFamily Targets}
    (h : targetsOf blocks allowed = .ok t) : GatheredFrom blocks t := by
  unfold targetsOf at h
  split at h
  · exact absurd h (by simp)
  · refine Attempt.foldlM_induction (motive := GatheredFrom) ?_ h ?_
    · rintro done b s s' hdone hstep
      obtain ⟨hgathers, hnested⟩ := gathers_block hstep
      constructor
      · intro f p
        rw [hgathers.allow, hdone.allow, ← and_or_left]
        simp [or_and_right, exists_or]
      · intro f p
        rw [hgathers.except, hdone.except, ← and_or_left]
        simp [or_and_right, exists_or]
      · intro c hc
        rcases List.mem_append.1 hc with hc | hc
        · exact hdone.nested c hc
        · rw [List.mem_singleton.1 hc]
          exact hnested
    · have hnone : ∀ p : Prefix, p ∉ (∅ : Ascending Prefix) := fun p => Ascending.not_mem_empty
      constructor
      · intro f p
        cases f <;> simp [PerFamily.get, hnone]
      · intro f p
        cases f <;> simp [PerFamily.get, hnone]
      · simp

/-! ### Reading the lists -/

section Reading

variable {blocks : List Block} {t : PerFamily Targets}

theorem exists_allow_iff (h : GatheredFrom blocks t) (a : Address) :
    (∃ p ∈ (t.get a.family).allow, a ∈ p) ↔ ∃ b ∈ blocks, b.Contains a := by
  constructor
  · rintro ⟨p, hp, ha⟩
    obtain ⟨-, b, hb, hparse⟩ := (h.allow a.family p).1 hp
    exact ⟨b, hb, p, hparse, ha⟩
  · rintro ⟨b, hb, p, hparse, ha⟩
    exact ⟨p, (h.allow a.family p).2 ⟨ha.1.symm, b, hb, hparse⟩, ha⟩

theorem exists_except_iff (h : GatheredFrom blocks t) (a : Address) :
    (∃ p ∈ (t.get a.family).except, a ∈ p) ↔ ∃ b ∈ blocks, b.Excludes a := by
  constructor
  · rintro ⟨p, hp, ha⟩
    obtain ⟨-, b, hb, entry, hentry, hparse⟩ := (h.except a.family p).1 hp
    exact ⟨b, hb, entry, hentry, p, hparse, ha⟩
  · rintro ⟨b, hb, entry, hentry, p, hparse, ha⟩
    exact ⟨p, (h.except a.family p).2 ⟨ha.1.symm, b, hb, entry, hentry, hparse⟩, ha⟩

private theorem family_of_covers {p q : Prefix} (h : p.covers q = true) : p.family = q.family := by
  unfold Prefix.covers at h
  simp only [Bool.and_eq_true, beq_iff_eq] at h
  exact h.1.1

/-- **A family with exceptions has allowed prefixes.** -/
theorem allow_ne_nil (h : GatheredFrom blocks t) {f : Family} (hf : (t.get f).isEmpty = false) :
    (t.get f).allow.toList ≠ [] := by
  intro hnil
  have hexcept : (t.get f).except.toList ≠ [] := by
    intro hno
    simp [Targets.isEmpty, Ascending.isEmpty, hnil, hno] at hf
  obtain ⟨p, hp⟩ := List.exists_mem_of_ne_nil _ hexcept
  obtain ⟨hfamily, b, hb, entry, hentry, hparse⟩ := (h.except f p).1 hp
  obtain ⟨cidr, hcidr, hcovers⟩ := h.nested b hb
  obtain ⟨q, hq, hcover⟩ := hcovers entry hentry
  have hqp : q = p := Except.ok.inj (hq.symm.trans hparse)
  have hmem : cidr ∈ (t.get f).allow :=
    (h.allow f cidr).2 ⟨by rw [family_of_covers hcover, hqp, hfamily], b, hb, hcidr⟩
  rw [Ascending.mem_def, hnil] at hmem
  exact absurd hmem List.not_mem_nil

theorem mem_familiesOf {f : Family} : f ∈ familiesOf t ↔ (t.get f).isEmpty = false := by
  simp [familiesOf, Family.mem_all]

theorem familiesOf_eq_nil (h : GatheredFrom blocks t) : familiesOf t = [] ↔ blocks = [] := by
  constructor
  · intro hnil
    refine List.eq_nil_iff_forall_not_mem.2 fun b hb => ?_
    obtain ⟨cidr, hcidr, -⟩ := h.nested b hb
    have hmem : cidr ∈ (t.get cidr.family).allow := (h.allow cidr.family cidr).2 ⟨rfl, b, hb, hcidr⟩
    have hfamily : cidr.family ∈ familiesOf t := by
      rw [mem_familiesOf, Targets.isEmpty, Ascending.isEmpty]
      simp [List.ne_nil_of_mem hmem]
    rw [hnil] at hfamily
    exact absurd hfamily List.not_mem_nil
  · intro hblocks
    refine List.eq_nil_iff_forall_not_mem.2 fun f hf => ?_
    obtain ⟨p, hp⟩ := List.exists_mem_of_ne_nil _ (allow_ne_nil h (mem_familiesOf.1 hf))
    obtain ⟨-, b, hb, -⟩ := (h.allow f p).1 hp
    rw [hblocks] at hb
    exact absurd hb List.not_mem_nil

/-! ### What the matches mean -/

variable {env : Environment} {packet : Packet}

/-- The matches for a family hold for the packets of the family whose address is contained and not
excluded. -/
theorem holds_peerClauses (h : GatheredFrom blocks t) {f : Family} (hf : (t.get f).isEmpty = false)
    (d : Direction) : (∀ c ∈ peerClauses f d (t.get f), c.Holds env packet) ↔ packet.family = f ∧
      (∃ b ∈ blocks, b.Contains (d.addressOf packet)) ∧
      ¬ ∃ b ∈ blocks, b.Excludes (d.addressOf packet) := by
  have hallow : (t.get f).allow.isEmpty = false := List.isEmpty_eq_false_iff.2 (allow_ne_nil h hf)
  have hfamily : (d.addressOf packet).family = packet.family := d.family_addressOf packet
  rw [← exists_allow_iff h, ← exists_except_iff h, hfamily]
  by_cases hexcept : (t.get f).except.isEmpty = true
  · have hnone : ∀ p, p ∉ (t.get f).except :=
      fun p hp => List.ne_nil_of_mem hp (List.isEmpty_iff.1 hexcept)
    simp only [peerClauses, hexcept, hallow, if_true, Bool.false_eq_true, if_false, List.nil_append,
      List.forall_mem_singleton, Clause.Holds]
    constructor
    · rintro ⟨rfl, hp⟩
      exact ⟨rfl, hp, fun ⟨p, hp, _⟩ => hnone p hp⟩
    · rintro ⟨rfl, hp, -⟩
      exact ⟨rfl, hp⟩
  · simp only [peerClauses, hexcept, hallow, Bool.false_eq_true, if_false, List.singleton_append,
      List.forall_mem_cons, List.not_mem_nil, false_implies, implies_true, and_true, Clause.Holds]
    constructor
    · rintro ⟨⟨rfl, hno⟩, -, hp⟩
      exact ⟨rfl, hp, hno⟩
    · rintro ⟨rfl, hp, hno⟩
      exact ⟨⟨rfl, hno⟩, rfl, hp⟩

/-- Where everything is meant, every address of the family is contained and none is excluded. -/
theorem admits_of_allowsEverything (h : GatheredFrom blocks t) {a : Address}
    (hall : (t.get a.family).allowsEverything = true) :
    (∃ b ∈ blocks, b.Contains a) ∧ ¬ ∃ b ∈ blocks, b.Excludes a := by
  unfold Targets.allowsEverything at hall
  simp only [Bool.and_eq_true, beq_iff_eq, List.all_eq_true] at hall
  obtain ⟨⟨hexcept, hsize⟩, hlength⟩ := hall
  constructor
  · obtain ⟨p, hp⟩ := List.exists_mem_of_length_pos (l := (t.get a.family).allow.toList)
      (by rw [show (t.get a.family).allow.toList.length = 1 from hsize]; exact Nat.one_pos)
    obtain ⟨hfamily, b, hb, hparse⟩ := (h.allow a.family p).1 hp
    -- a prefix of length zero has no bits, and an address has no bits beyond its width
    have hbits : p.bits = 0 := by
      have hlt := p.bits_lt
      rw [hlength p hp] at hlt
      exact Nat.lt_one_iff.1 hlt
    refine ⟨b, hb, p, hparse, hfamily.symm, ?_⟩
    rw [hbits, hlength p hp, hfamily, Nat.sub_zero]
    exact Nat.div_eq_of_lt a.value_lt
  · rw [← exists_except_iff h]
    rintro ⟨p, hp, -⟩
    exact List.ne_nil_of_mem hp (List.isEmpty_iff.1 hexcept)

/-- **The matches of an ingress rule mean what its blocks say** of the source. -/
theorem holds_ingressConstraints (h : GatheredFrom blocks t) :
    (∃ cs ∈ ingressConstraints t, ∀ c ∈ cs, c.Holds env packet) ↔
      Block.Admit blocks packet.source := by
  unfold Block.Admit ingressConstraints
  split
  · rename_i hnil
    simp [(familiesOf_eq_nil h).1 hnil]
  · rename_i hne
    have hblocks : blocks ≠ [] := fun hb => hne ((familiesOf_eq_nil h).2 hb)
    simp only [List.mem_map, exists_exists_and_eq_and, hblocks, false_or]
    constructor
    · rintro ⟨f, hf, hall⟩
      exact ((holds_peerClauses h (mem_familiesOf.1 hf) .source).1 hall).2
    · intro hadmit
      have hf : (t.get packet.family).isEmpty = false := by
        obtain ⟨p, hp, -⟩ := (exists_allow_iff h packet.source).2 hadmit.1
        rw [packet.source_family] at hp
        rw [Targets.isEmpty, Ascending.isEmpty]
        simp [List.ne_nil_of_mem hp]
      exact ⟨packet.family, mem_familiesOf.2 hf, (holds_peerClauses h hf .source).2 ⟨rfl, hadmit⟩⟩

/-- **The matches of an egress rule mean what its blocks say** of the
destination, for packets from the cluster. -/
theorem holds_egressConstraints (h : GatheredFrom blocks t) :
    (∃ cs ∈ egressConstraints t, ∀ c ∈ cs, c.Holds env packet) ↔
      packet.source ∈ env.cluster ∧ Block.Admit blocks packet.destination := by
  unfold Block.Admit egressConstraints
  split
  · rename_i hnil
    simp only [(familiesOf_eq_nil h).1 hnil, true_or, and_true, List.mem_map,
      exists_exists_and_eq_and, List.forall_mem_singleton, Clause.Holds]
    constructor
    · rintro ⟨f, -, -, hsource⟩
      exact hsource
    · intro hsource
      exact ⟨packet.family, Family.mem_all packet.family, rfl, hsource⟩
  · rename_i hne
    have hblocks : blocks ≠ [] := fun hb => hne ((familiesOf_eq_nil h).2 hb)
    simp only [List.mem_map, exists_exists_and_eq_and, hblocks, false_or]
    constructor
    · rintro ⟨f, hf, hall⟩
      obtain ⟨hcluster, hpeers⟩ := List.forall_mem_cons.1 hall
      obtain ⟨rfl, hsource⟩ := hcluster
      refine ⟨hsource, ?_⟩
      split at hpeers
      · rename_i hevery
        rw [← packet.destination_family] at hevery
        exact admits_of_allowsEverything h hevery
      · exact ((holds_peerClauses h (mem_familiesOf.1 hf) .destination).1 hpeers).2
    · rintro ⟨hsource, hadmit⟩
      have hf : (t.get packet.family).isEmpty = false := by
        obtain ⟨p, hp, -⟩ := (exists_allow_iff h packet.destination).2 hadmit.1
        rw [packet.destination_family] at hp
        rw [Targets.isEmpty, Ascending.isEmpty]
        simp [List.ne_nil_of_mem hp]
      refine ⟨packet.family, mem_familiesOf.2 hf, List.forall_mem_cons.2 ⟨⟨rfl, hsource⟩, ?_⟩⟩
      split
      · simp
      · exact (holds_peerClauses h hf .destination).2 ⟨rfl, hadmit⟩

end Reading

end Compile

end Firewall
