/-
Responses about different names, in either order.

What a response does to one owner depends on what is held of that owner, and for the name of a new
record on the registry, which all owners share.  So the names of records are left out of account
first.  Two caches that hold the same of an owner but for the name of its record (`SameButName`)
still do so after the same response, and a response about another name is not noticed by the owner
at all.  That settles what is held and what is found, in either order.

A response also purges.  Where every address is given for some time, nothing that a
response leaves is over at its own time (`purge_observe`), so the purge of the second
response finds nothing to take from the first.

What is left is the registry.  A response registers the owners that it gives
addresses for, one after the other (`names_observe`), and owners with different base
names can be registered in any order.
-/
import Firewall.Proofs.Cache.Candidates
import Firewall.Proofs.Cache.Response

namespace Firewall

/-- The record without its name. -/
def Record.unnamed (r : Record) : Record := { r with setName := "" }

/-- The set without its name. -/
def NamedSet.unnamed (s : NamedSet) : NamedSet := { s with setName := "" }

namespace Cache

variable {b c d : Cache} {owner : Owner} {seen now t : Instant} {o p : Dns.Observation}
  {u : NamedSet}

/-! ### What is held of an owner, but for the name of its record -/

/-- Two caches hold the same of an owner, but for the name of its record. -/
structure SameButName (owner : Owner) (c d : Cache) : Prop where
  record : (c.records.get? owner).map Record.unnamed = (d.records.get? owner).map Record.unnamed
  restored : (c.restored.filter fun s => s.owner = owner) =
    d.restored.filter fun s => s.owner = owner

namespace SameButName

theorem ofSameOf (h : SameOf owner c d) : SameButName owner c d := ⟨congrArg _ h.record, h.restored⟩

theorem symm (h : SameButName owner c d) : SameButName owner d c := ⟨h.record.symm, h.restored.symm⟩

theorem trans (h : SameButName owner b c) (h' : SameButName owner c d) : SameButName owner b d :=
  ⟨h.record.trans h'.record, h.restored.trans h'.restored⟩

theorem membersOf_eq (h : SameButName owner c d) : c.membersOf owner = d.membersOf owner := by
  have hmembers : ∀ e : Cache,
      e.membersOf owner = ((e.records.get? owner).map Record.unnamed).map (·.members) := by
    intro e
    rw [Option.map_map]
    rfl
  rw [hmembers, hmembers, h.record]

/-- **What is found of the owner is the same**, but for its name. -/
theorem setOf?_eq (h : SameButName owner c d) (forPersist : Bool) (now : Instant) :
    (c.setOf? forPersist now owner).map NamedSet.unnamed =
      (d.setOf? forPersist now owner).map NamedSet.unnamed := by
  have hrecord : ∀ e : Cache,
      (((e.records.get? owner).filter (·.isLive now)).map (·.toNamedSet owner)).map
      NamedSet.unnamed =
        (((e.records.get? owner).map Record.unnamed).filter (·.isLive now)).map
          (·.toNamedSet owner) := by
    intro e
    rw [Option.filter_map, Option.map_map, Option.map_map]
    rfl
  unfold setOf?
  rw [Option.map_or, Option.map_or, hrecord, hrecord, h.record, find?_liveRestored,
    find?_liveRestored, h.restored]

theorem get?_eq (h : SameButName owner c d) (hc : c.Coherent) (hd : d.Coherent)
    (hnames : c.names = d.names) :
    c.records.get? owner = d.records.get? owner := by
  have hrecord := h.record
  cases hr : c.records.get? owner with
  | none =>
    rw [hr] at hrecord
    exact (Option.map_eq_none_iff.1 hrecord.symm).symm
  | some r =>
    rw [hr] at hrecord
    obtain ⟨r', hr', hsame⟩ := Option.map_eq_some_iff.1 hrecord.symm
    have hname : some r.setName = some r'.setName := by
      rw [← hc.recorded hr, ← hd.recorded hr', hnames]
    obtain ⟨name, members, expiration⟩ := r
    obtain ⟨name', members', expiration'⟩ := r'
    cases hsame
    cases hname
    exact hr'.symm

/-! ### The same is done to both -/

/-- **A purge goes by times alone.** -/
theorem purge (h : SameButName owner c d) (t : Instant) :
    SameButName owner (c.purge t) (d.purge t) where
  record := by
    have hrecord : ∀ e : Cache, ((e.purge t).records.get? owner).map Record.unnamed
        = ((e.records.get? owner).map Record.unnamed).filter (·.isLive t) := by
      intro e
      rw [get?_purge, Option.filter_map]
      rfl
    rw [hrecord, hrecord, h.record]
  restored := by
    have hrestored : ∀ e : Cache, ((e.purge t).restored.filter fun s => s.owner = owner)
        = (e.restored.filter fun s => s.owner = owner).filter (·.isLive t) := by
      intro e
      show (e.restored.filter _).filter _ = _
      rw [List.filter_filter, List.filter_filter]
      exact List.filter_congr fun s _ => Bool.and_comm _ _
    rw [hrestored, hrestored, h.restored]

/-- **So does a response for one family** by what is held of the owner. -/
theorem observeFamily (h : SameButName owner c d) (seen : Instant) (o : Dns.Observation)
    (family : Family) :
    SameButName owner (c.observeFamily seen o family).1 (d.observeFamily seen o family).1 where
  record := by
    rw [get?_observeFamily, get?_observeFamily]
    by_cases howner : owner = ⟨o.name, family⟩
    · rw [if_pos howner, if_pos howner]
      subst howner
      unfold nextRecord
      by_cases hnone : o.ofFamily family = []
      · have hcleared : ∀ r : Option Record,
          (r.map fun r => if o.askedFor family then { r with members := ∅ } else r).map
            Record.unnamed = (r.map Record.unnamed).map fun r => if o.askedFor family then
              { r with members := ∅ } else r := by
          intro r
          rw [Option.map_map, Option.map_map]
          cases o.askedFor family <;> rfl
        rw [if_pos hnone, if_pos hnone, hcleared, hcleared, h.record]
      · rw [if_neg hnone, if_neg hnone]
        rfl
    · rw [if_neg howner, if_neg howner]
      exact h.record
  restored := by
    have hrestored : ∀ e : Cache,
        ((e.observeFamily seen o family).1.restored.filter fun s => s.owner = owner)
        = if o.ofFamily family = [] then e.restored.filter fun s => s.owner = owner
          else (e.restored.filter fun s => s.owner = owner).filter fun s =>
            s.owner ≠ ⟨o.name, family⟩ := by
      intro e
      rw [restored_observeFamily]
      split
      · rfl
      · rw [List.filter_filter, List.filter_filter]
        exact List.filter_congr fun s _ => Bool.and_comm _ _
    rw [hrestored, hrestored, h.restored]

/-- **And so does a whole response.** -/
theorem observe (h : SameButName owner c d) (seen : Instant) (o : Dns.Observation) :
    SameButName owner (c.observe seen o).1 (d.observe seen o).1 :=
  ((h.purge seen).observeFamily seen o .v4).observeFamily seen o .v6

end SameButName

/-- A response says that something changed exactly if it changed what is
recorded under its own name. -/
theorem observe_snd_iff (c : Cache) (seen : Instant) : (c.observe seen o).2 = true ↔
    ∃ family, (c.observe seen o).1.membersOf ⟨o.name, family⟩ ≠
      (c.purge seen).membersOf ⟨o.name, family⟩ := by
  rw [observe_snd, Ne, funext_iff, not_forall]
  constructor
  · rintro ⟨owner, hne⟩
    have hname : owner.fqdn = o.name := by
      by_contra hname
      exact hne (SameButName.ofSameOf (sameOf_observe_of_ne c seen o hname)).membersOf_eq
    have howner : owner = ⟨o.name, owner.family⟩ := Owner.ext hname rfl
    exact ⟨owner.family, howner ▸ hne⟩
  · rintro ⟨family, hne⟩
    exact ⟨_, hne⟩

/-- **Caches that hold the same of a name are told the same about changes.** -/
theorem observe_snd_congr (h : ∀ family, SameButName ⟨o.name, family⟩ c d) (seen : Instant) :
    (c.observe seen o).2 = (d.observe seen o).2 := by
  rw [Bool.eq_iff_iff, observe_snd_iff, observe_snd_iff]
  refine exists_congr fun family => ?_
  rw [((h family).observe seen o).membersOf_eq, ((h family).purge seen).membersOf_eq]

/-! ### What is found, but for the names -/

theorem unnamed_setsFor_eq (h : ∀ owner, SameButName owner c d) (selector : Selector)
    (forPersist : Bool) (now : Instant) :
    (c.setsFor selector forPersist now).map NamedSet.unnamed =
      (d.setsFor selector forPersist now).map NamedSet.unnamed := by
  have hmem : ∀ {e : Cache} {u}, u ∈ (e.setsFor selector forPersist now).map NamedSet.unnamed ↔
      (e.setOf? forPersist now u.owner).map NamedSet.unnamed = some u ∧
      selector.selects u.fqdn = true := by
    intro e u
    simp only [List.mem_map, mem_setsFor_iff_setOf?, Option.map_eq_some_iff]
    constructor
    · rintro ⟨s, ⟨hs, hselected⟩, rfl⟩
      exact ⟨⟨s, hs, rfl⟩, hselected⟩
    · rintro ⟨⟨s, hs, rfl⟩, hselected⟩
      exact ⟨s, ⟨hs, hselected⟩, rfl⟩
  have hordered : ∀ e : Cache, ((e.setsFor selector forPersist now).map NamedSet.unnamed).Pairwise
      fun s t => compare s.owner t.owner = .lt :=
    fun e => List.pairwise_map.2 Dictionary.pairwise_values_foldl_insertNew
  refine eq_of_mem_iff_of_pairwise
    (R := fun s t : NamedSet => compare s.owner t.owner = .lt) ?_ Std.TransCmp.lt_trans
    (hordered c) (hordered d) ?_
  · intro s hs
    simp at hs
  · intro u
    rw [hmem, hmem, (h u.owner).setOf?_eq]

/-- **And the same is rendered**, but for the names and for the order,
which is that of the names. -/
theorem unnamed_setsForRendering_perm (hc : c.Coherent) (hd : d.Coherent)
    (h : ∀ owner, SameButName owner c d) (now : Instant) :
    ((c.setsForRendering now).map NamedSet.unnamed).Perm
      ((d.setsForRendering now).map NamedSet.unnamed) := by
  have hmem : ∀ {e : Cache} {u}, e.Coherent → (u ∈ (e.setsForRendering now).map NamedSet.unnamed ↔
      (e.setOf? true now u.owner).map NamedSet.unnamed = some u) := by
    intro e u he
    simp only [List.mem_map, he.mem_setsForRendering_iff, Option.map_eq_some_iff]
    constructor
    · rintro ⟨s, hs, rfl⟩
      exact ⟨s, hs, rfl⟩
    · rintro ⟨s, hs, rfl⟩
      exact ⟨s, hs, rfl⟩
  have hnodup : ∀ {e : Cache}, e.Coherent →
      ((e.setsForRendering now).map NamedSet.unnamed).Nodup := by
    intro e he
    refine List.pairwise_map.2 ((he.distinct_setsForRendering now).imp fun {s t} hne heq => hne ?_)
    have howner : s.unnamed.owner = t.unnamed.owner := congrArg NamedSet.owner heq
    exact howner
  refine (List.perm_ext_iff_of_nodup (hnodup hc) (hnodup hd)).2 fun u => ?_
  rw [hmem hc, hmem hd, (h u.owner).setOf?_eq]

/-! ### What a response leaves is not over -/

private theorem filter_of_forall {α : Type} {x : Option α} {keep : α → Bool}
    (h : ∀ a, x = some a → keep a = true) :
    x.filter keep = x :=
  Option.ext fun a => Option.filter_eq_some_iff.trans (and_iff_left_of_imp (h a))

theorem Consistent.purge_eq_self (hc : c.Consistent)
    (h : ∀ owner name x, c.Pins owner name x → t < x) :
    c.purge t = c := by
  have hrecords : (c.purge t).records = c.records := by
    refine Dictionary.ext_get? fun owner => ?_
    rw [get?_purge, filter_of_forall]
    exact fun r hr => decide_eq_true (h owner _ _ (.inl ⟨r, hr, rfl, rfl⟩))
  have hrestored : (c.purge t).restored = c.restored :=
    List.filter_eq_self.2 fun s hs => decide_eq_true (h s.owner _ _ (.inr ⟨s, hs, rfl, rfl, rfl⟩))
  have hdeclares : (c.purge t).declares = c.declares := by
    funext owner
    unfold declares
    rw [hrecords, hrestored]
  have hnames : (c.purge t).names = c.names := by
    show c.names.retain (c.purge t).declares = c.names
    refine Registry.ext_name? fun owner => ?_
    rw [Registry.name?_retain, hdeclares, filter_of_forall]
    intro name hname
    obtain ⟨x, hpins⟩ := hc.registered hname
    exact declares_iff_pins.2 ⟨name, x, hpins⟩
  exact ext hrecords hnames hrestored rfl

private theorem lt_of_pins_observeFamily (h : ∀ owner name x, c.Pins owner name x → seen < x)
    {family : Family} (hlong : o.ofFamily family ≠ [] → o.ttl family ≠ 0) {name : String}
    {x : Instant} (hpins : (c.observeFamily seen o family).1.Pins owner name x) : seen < x := by
  by_cases hanswer : owner = ⟨o.name, family⟩ ∧ o.ofFamily family ≠ []
  · obtain ⟨rfl, hsome⟩ := hanswer
    obtain ⟨-, rfl⟩ := (pins_observeFamily_of_answer c seen family hsome).1 hpins
    exact Instant.lt_addSeconds_iff.2 (hlong hsome)
  · have hquiet : owner = ⟨o.name, family⟩ → o.ofFamily family = [] :=
      fun howner => Classical.not_not.1 fun hne => hanswer ⟨howner, hne⟩
    exact h owner name x ((pins_observeFamily_of_quiet c seen family hquiet).1 hpins)

/-- **What a response leaves is not over at its own time**, if every
address is given for some time. -/
theorem Consistent.purge_observe (hc : c.Consistent) {m : Dns.Message}
    (hm : Dns.Observation.ofMessage m = .ok o)
    (hlong : ∀ family, o.ofFamily family ≠ [] → o.ttl family ≠ 0) (seen : Instant) :
    (c.observe seen o).1.purge seen = (c.observe seen o).1 := by
  have hafter : (c.observe seen o).1.Consistent :=
    after_response_of_ok hm ▸ hc.after (.response seen m)
  refine hafter.purge_eq_self fun owner name x hpins => ?_
  have hpurged : ∀ owner name x, (c.purge seen).Pins owner name x → seen < x :=
    fun _ _ _ hpins => ((pins_purge seen).1 hpins).2
  have hv4 : ∀ owner name x,
      ((c.purge seen).observeFamily seen o .v4).1.Pins owner name x → seen < x :=
    fun _ _ _ hpins => lt_of_pins_observeFamily hpurged (hlong .v4) hpins
  exact lt_of_pins_observeFamily hv4 (hlong .v6) hpins

/-! ### Two responses -/

/-- Two observations about different names, all of whose addresses are given for some time. -/
structure Independent (o p : Dns.Observation) : Prop where
  name_ne : o.name ≠ p.name
  left : ∀ family, o.ofFamily family ≠ [] → o.ttl family ≠ 0
  right : ∀ family, p.ofFamily family ≠ [] → p.ttl family ≠ 0

namespace Independent

theorem symm (h : Independent o p) : Independent p o := ⟨h.name_ne.symm, h.right, h.left⟩

variable {m n : Dns.Message}

/-- A response is not noticed by the owners of other names, whether it comes first or second. -/
private theorem sameButName_of_ne (h : Independent o p) (hc : c.Consistent)
    (hm : Dns.Observation.ofMessage m = .ok o) (seen : Instant) (howner : owner.fqdn ≠ p.name) :
    SameButName owner ((c.observe seen o).1.observe seen p).1
      ((c.observe seen p).1.observe seen o).1 := by
  have hsecond :
      SameButName owner ((c.observe seen o).1.observe seen p).1 (c.observe seen o).1 := by
    have hsame := sameOf_observe_of_ne (c.observe seen o).1 seen p howner
    rw [hc.purge_observe hm h.left] at hsame
    exact .ofSameOf hsame
  have hfirst : SameButName owner ((c.observe seen p).1.observe seen o).1 (c.observe seen o).1 := by
    rw [← observe_purge (Instant.le_refl seen) c o]
    exact (SameButName.ofSameOf (sameOf_observe_of_ne c seen p howner)).observe seen o
  exact hsecond.trans hfirst.symm

/-- **Two responses leave the same of every owner in either order**, but
for the name of its record. -/
theorem sameButName (h : Independent o p) (hc : c.Consistent)
    (hm : Dns.Observation.ofMessage m = .ok o) (hn : Dns.Observation.ofMessage n = .ok p)
    (seen : Instant) (owner : Owner) :
    SameButName owner ((c.observe seen o).1.observe seen p).1
      ((c.observe seen p).1.observe seen o).1 := by
  by_cases howner : owner.fqdn = p.name
  · exact (h.symm.sameButName_of_ne hc hn seen fun heq => h.name_ne (heq.symm.trans howner)).symm
  · exact h.sameButName_of_ne hc hm seen howner

/-- **And a response says the same about changes**, whether another comes before it or not. -/
theorem observe_snd (h : Independent o p) (seen : Instant) :
    ((c.observe seen o).1.observe seen p).2 = (c.observe seen p).2 := by
  rw [← observe_purge (Instant.le_refl seen) c p]
  refine observe_snd_congr (fun family => .ofSameOf (sameOf_observe_of_ne c seen o ?_)) seen
  exact h.name_ne.symm

end Independent

/-! ### The names -/

/-- The owners that addresses came back for. -/
def answeredOwners (o : Dns.Observation) : List Owner :=
  (Family.all.filter fun family => o.ofFamily family ≠ []).map fun family => ⟨o.name, family⟩

theorem mem_answeredOwners (h : owner ∈ answeredOwners o) : owner.fqdn = o.name := by
  obtain ⟨family, -, rfl⟩ := List.mem_map.1 h
  rfl

theorem names_observeFamily (c : Cache) (seen : Instant) (o : Dns.Observation) (family : Family) :
    (c.observeFamily seen o family).1.names
      = if o.ofFamily family = [] then c.names else c.names.register ⟨o.name, family⟩ := by
  rcases observeFamily_cases c seen o family
    with ⟨hsome, heq⟩ | ⟨hnone, -, r, -, heq⟩ | ⟨hnone, -, heq⟩
  · rw [heq, if_neg hsome]
    rfl
  · rw [heq, if_pos hnone]
    rfl
  · rw [heq, if_pos hnone]

/-- **A response registers the owners that addresses came back for**, and no others. -/
theorem names_observe (c : Cache) (seen : Instant) (o : Dns.Observation) :
    (c.observe seen o).1.names =
      (answeredOwners o).foldl Registry.register (c.purge seen).names := by
  rw [observe_fst, names_observeFamily, names_observeFamily]
  unfold answeredOwners Family.all
  by_cases hv4 : o.ofFamily .v4 = [] <;> by_cases hv6 : o.ofFamily .v6 = [] <;> simp [hv4, hv6]

theorem forwarder_observe (c : Cache) (seen : Instant) (o : Dns.Observation) :
    (c.observe seen o).1.forwarder = c.forwarder := by
  have hfamily : ∀ (d : Cache) family,
      (d.observeFamily seen o family).1.forwarder = d.forwarder := by
    intro d family
    rcases observeFamily_cases d seen o family with ⟨-, heq⟩ | ⟨-, -, r, -, heq⟩ | ⟨-, -, heq⟩
    · rw [heq]
      rfl
    · rw [heq]
      rfl
    · rw [heq]
  rw [observe_fst, hfamily, hfamily]
  rfl

theorem restored_observe (c : Cache) (seen : Instant) (o : Dns.Observation) :
    (c.observe seen o).1.restored =
      (c.purge seen).restored.filter fun s => s.owner ∉ answeredOwners o := by
  rw [observe_fst, restored_observeFamily, restored_observeFamily]
  unfold answeredOwners Family.all
  by_cases hv4 : o.ofFamily .v4 = [] <;> by_cases hv6 : o.ofFamily .v6 = [] <;>
    simp [hv4, hv6, List.filter_filter, Bool.and_comm]

namespace Independent

variable {m n : Dns.Message}

/-- Of the owners that either response is about, no two have one base name. -/
private theorem baseName_ne
    (hbase : ∀ family, Registry.baseName ⟨o.name, family⟩ ≠ Registry.baseName ⟨p.name, family⟩)
    {x y : Owner} (hx : x ∈ answeredOwners o ++ answeredOwners p)
    (hy : y ∈ answeredOwners o ++ answeredOwners p) (hne : x ≠ y) :
    Registry.baseName x ≠ Registry.baseName y := by
  intro heq
  have hfamily := Registry.family_eq_of_baseName_eq heq
  have hside : ∀ {z}, z ∈ answeredOwners o ++ answeredOwners p →
      z.fqdn = o.name ∨ z.fqdn = p.name :=
    fun hz => (List.mem_append.1 hz).imp mem_answeredOwners mem_answeredOwners
  have hdiffer : x.fqdn ≠ y.fqdn := fun hname => hne (Owner.ext hname hfamily)
  obtain ⟨name, family⟩ := x
  obtain ⟨name', family'⟩ := y
  cases hfamily
  rcases hside hx with rfl | rfl
  · rcases hside hy with rfl | rfl
    · exact hdiffer rfl
    · exact hbase family heq
  · rcases hside hy with rfl | rfl
    · exact hbase family heq.symm
    · exact hdiffer rfl

/-- **Responses about names with different base names can be applied in either order.** -/
theorem observe_comm (h : Independent o p) (hc : c.Consistent)
    (hm : Dns.Observation.ofMessage m = .ok o) (hn : Dns.Observation.ofMessage n = .ok p)
    (seen : Instant)
    (hbase : ∀ family, Registry.baseName ⟨o.name, family⟩ ≠ Registry.baseName ⟨p.name, family⟩) :
    ((c.observe seen o).1.observe seen p).1 = ((c.observe seen p).1.observe seen o).1 := by
  have hnames : ((c.observe seen o).1.observe seen p).1.names =
      ((c.observe seen p).1.observe seen o).1.names := by
    rw [names_observe, names_observe, hc.purge_observe hm h.left, hc.purge_observe hn h.right,
      names_observe, names_observe, ← List.foldl_append, ← List.foldl_append]
    refine List.perm_append_comm.foldl_eq' (fun x hx y hy r => ?_) _
    by_cases hxy : x = y
    · rw [hxy]
    · exact Registry.register_comm (baseName_ne hbase hx hy hxy) r
  have hrestored : ((c.observe seen o).1.observe seen p).1.restored
      = ((c.observe seen p).1.observe seen o).1.restored := by
    rw [restored_observe, restored_observe, hc.purge_observe hm h.left, hc.purge_observe hn h.right,
      restored_observe, restored_observe, List.filter_filter, List.filter_filter]
    exact List.filter_congr fun s _ => Bool.and_comm _ _
  have hrecords : ((c.observe seen o).1.observe seen p).1.records
      = ((c.observe seen p).1.observe seen o).1.records := by
    refine Dictionary.ext_get? fun owner => (h.sameButName hc hm hn seen owner).get?_eq ?_ ?_ hnames
    · exact (hc.toCoherent.observe seen o).observe seen p
    · exact (hc.toCoherent.observe seen p).observe seen o
  refine ext hrecords hnames hrestored ?_
  rw [forwarder_observe, forwarder_observe, forwarder_observe, forwarder_observe]

end Independent

/--
**Responses about different names can be applied in either order.**  Take any cache that can occur,
and two messages that tell something of different names, with every address given for some time.
Whichever is applied first, each of them says the same about changes, and from then on the same sets
are rendered and listed, but for their names.  Where the two names have different base names in
either family, the very same cache is left.
-/
theorem responses_commute (forwarder : Endpoint) (operations : List Operation) (seen : Instant)
    {m n : Dns.Message} (hm : m.Tells) (hn : n.Tells) (hname : m.subject ≠ n.subject)
    (hlong : ∀ a, ¬ m.Gives a 0) (hlong' : ∀ a, ¬ n.Gives a 0) :
    ∃ c₁ c₂ c₁₂ c₂₁ changed changed',
    ((fresh forwarder).history operations).apply seen m = .ok (c₁, changed) ∧
      c₁.apply seen n = .ok (c₁₂, changed') ∧
      ((fresh forwarder).history operations).apply seen n = .ok (c₂, changed') ∧
      c₂.apply seen m = .ok (c₂₁, changed) ∧
      (∀ now, ((c₁₂.setsForRendering now).map NamedSet.unnamed).Perm
        ((c₂₁.setsForRendering now).map NamedSet.unnamed) ∧
        ∀ selector forPersist, (c₁₂.setsFor selector forPersist now).map NamedSet.unnamed
          = (c₂₁.setsFor selector forPersist now).map NamedSet.unnamed) ∧
      ((∀ family, Registry.baseName ⟨m.subject, family⟩ ≠ Registry.baseName ⟨n.subject, family⟩) →
        c₁₂ = c₂₁) := by
  have hc : ((fresh forwarder).history operations).Consistent :=
    (Consistent.fresh forwarder).history operations
  generalize (fresh forwarder).history operations = c at hc ⊢
  obtain ⟨o, ho⟩ := Dns.Observation.exists_ofMessage_iff.2 hm
  obtain ⟨p, hp⟩ := Dns.Observation.exists_ofMessage_iff.2 hn
  rw [← Dns.Observation.name_eq ho, ← Dns.Observation.name_eq hp] at hname
  rw [← Dns.Observation.forall_ttl_ne_zero_iff ho] at hlong
  rw [← Dns.Observation.forall_ttl_ne_zero_iff hp] at hlong'
  have h : Independent o p := ⟨hname, hlong, hlong'⟩
  have happly : ∀ {d : Cache} {m : Dns.Message} {o : Dns.Observation},
      Dns.Observation.ofMessage m = .ok o →
      d.apply seen m = .ok (d.observe seen o) := fun hm => apply_eq_ok.2 ⟨_, hm, rfl⟩
  have hc₁₂ := (hc.toCoherent.observe seen o).observe seen p
  have hc₂₁ := (hc.toCoherent.observe seen p).observe seen o
  have hsame := h.sameButName hc ho hp seen
  refine ⟨(c.observe seen o).1, (c.observe seen p).1, _, _, (c.observe seen o).2,
    (c.observe seen p).2, happly ho, ?_,
    happly hp, ?_,
    fun now => ⟨unnamed_setsForRendering_perm hc₁₂ hc₂₁ hsame now, fun selector forPersist =>
      unnamed_setsFor_eq hsame selector forPersist now⟩, fun hbase => ?_⟩
  · rw [happly hp, ← h.observe_snd seen]
  · rw [happly ho, ← h.symm.observe_snd seen]
  · rw [← Dns.Observation.name_eq ho, ← Dns.Observation.name_eq hp] at hbase
    exact h.observe_comm hc ho hp seen hbase

/-- Two names that come to the same letters are answered at one time: whichever is
first gets the plain set name, and all else is the same.  With a name that comes to
other letters even the names are. -/
theorem responses_commute_sampleHistory :
    let c := (fresh default).history sampleHistory
    let seen := Instant.ofSeconds 1700000050
    let dashed := Event.response seen (sampleAnswer "x-y.com" 60)
    let dotted := Event.response seen (sampleAnswer "X.Y.com" 30)
    let other := Event.response seen (sampleAnswer "z.com" 30)
    (((c.run [dashed, dotted]).setsForRendering seen).map NamedSet.unnamed).Perm
        (((c.run [dotted, dashed]).setsForRendering seen).map NamedSet.unnamed) ∧
      c.run [dashed, dotted] ≠ c.run [dotted, dashed] ∧
      c.run [dashed, other] = c.run [other, dashed] := by
  intro c seen dashed dotted other
  have htells : ∀ {name}, (sampleAnswer name 60).subject ≠ "." → (sampleAnswer name 60).Tells :=
    fun hname => ⟨rfl, List.cons_ne_nil _ _, hname⟩
  have htells' : ∀ {name}, (sampleAnswer name 30).subject ≠ "." → (sampleAnswer name 30).Tells :=
    fun hname => ⟨rfl, List.cons_ne_nil _ _, hname⟩
  have hlong : ∀ {name ttl}, ttl ≠ 0 → ∀ a, ¬ (sampleAnswer name ttl).Gives a 0 := by
    rintro name ttl hne a ⟨r, hr, -, httl⟩
    rw [List.mem_singleton.1 hr] at httl
    exact hne httl
  obtain ⟨_, _, c₁₂, c₂₁, _, _, h₁, h₁₂, h₂, h₂₁, hread, -⟩ :=
    responses_commute default sampleHistory seen
    (m := sampleAnswer "x-y.com" 60) (n := sampleAnswer "X.Y.com" 30) (htells (by decide +kernel))
    (htells' (by decide +kernel)) (by decide +kernel) (hlong (by decide)) (hlong (by decide))
  obtain ⟨_, _, _, _, _, _, g₁, g₁₂, g₂, g₂₁, -, hcommute⟩ :=
    responses_commute default sampleHistory seen
    (m := sampleAnswer "x-y.com" 60) (n := sampleAnswer "z.com" 30) (htells (by decide +kernel))
    (htells' (by decide +kernel)) (by decide +kernel) (hlong (by decide)) (hlong (by decide))
  have hrun : ∀ {d d₁ d₂ : Cache} {m n : Dns.Message} {changed changed' : Bool},
      d.apply seen m = .ok (d₁, changed) →
      d₁.apply seen n = .ok (d₂, changed') → d.run [.response seen m, .response seen n] = d₂ := by
    intro d d₁ d₂ m n changed changed' hfirst hsecond
    simp only [run, List.foldl_cons, List.foldl_nil, after, hfirst, hsecond]
  refine ⟨?_, by decide +kernel, ?_⟩
  · rw [hrun h₁ h₁₂, hrun h₂ h₂₁]
    exact (hread seen).1
  · rw [hrun g₁ g₁₂, hrun g₂ g₂₁]
    exact hcommute fun family => by cases family <;> decide +kernel

end Cache

end Firewall
