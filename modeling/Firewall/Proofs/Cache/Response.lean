/-
What a response changes, and what it leaves.

What is found of an owner depends on its record and on what was restored for it, and on nothing
else.  So two caches that hold the same of an owner (`SameOf`) are read alike by whoever asks for
that owner, and what a response does can be told owner by owner.

A response purges first, and then it comes to one family of its name after the other.  It is noticed
by the owner of that name and family alone, so the owners of other names are left as the purge left
them (`sameOf_observe_of_ne`), and those of its own name as the response for their family left them
(`sameOf_observe`).  Whether it says that something changed is then a question about the members of
two records, and the two together answer it for the whole cache (`observe_snd`).
-/
import Firewall.Proofs.Cache.Agreement
import Firewall.Proofs.Cache.Direct
import Firewall.Proofs.Cache.Purge
import Firewall.Proofs.Dns.Message

namespace Firewall.Cache

variable {b c d : Cache} {owner : Owner} {now t : Instant} {s : NamedSet}

/-! ### What is held of an owner -/

/-- Two caches hold the same of an owner. -/
structure SameOf (owner : Owner) (c d : Cache) : Prop where
  record : c.records.get? owner = d.records.get? owner
  restored : (c.restored.filter fun s => s.owner = owner) =
    d.restored.filter fun s => s.owner = owner

theorem find?_liveRestored (c : Cache) (now : Instant) (owner : Owner) :
    (c.liveRestored now).find? (fun s => s.owner = owner)
      = (c.restored.filter fun s => s.owner = owner).find? (·.isLive now) := by
  unfold liveRestored
  rw [List.find?_filter, List.find?_filter]
  simp only [decide_eq_true_eq, and_comm]

namespace SameOf

theorem refl (owner : Owner) (c : Cache) : SameOf owner c c := ⟨rfl, rfl⟩

theorem trans (h : SameOf owner b c) (h' : SameOf owner c d) : SameOf owner b d :=
  ⟨h.record.trans h'.record, h.restored.trans h'.restored⟩

/-- **What is found of an owner depends on what is held of it.** -/
theorem setOf?_eq (h : SameOf owner c d) (forPersist : Bool) (now : Instant) :
    c.setOf? forPersist now owner = d.setOf? forPersist now owner := by
  unfold setOf?
  rw [h.record, find?_liveRestored, find?_liveRestored, h.restored]

end SameOf

theorem Coherent.mem_setsForRendering_iff (hc : c.Coherent) :
    s ∈ c.setsForRendering now ↔ c.setOf? true now s.owner = some s := by
  rw [hc.mem_setsForRendering_iff_find?, ← find?_owner]
  rfl

theorem setOf?_purge (h : t ≤ now) (c : Cache) (forPersist : Bool) (owner : Owner) :
    (c.purge t).setOf? forPersist now owner = c.setOf? forPersist now owner := by
  rw [← find?_owner, ← find?_owner, liveSets_purge h, liveRestored_purge h]

/-! ### A response, owner by owner -/

section Observe

variable (c) (seen : Instant) (o : Dns.Observation) (family : Family)

theorem sameOf_observeFamily (h : owner ≠ ⟨o.name, family⟩) :
    SameOf owner (c.observeFamily seen o family).1 c where
  record := by rw [get?_observeFamily, if_neg h]
  restored := by
    rw [restored_observeFamily]
    split
    · rfl
    · rw [List.filter_filter]
      refine List.filter_congr fun s _ => ?_
      by_cases howner : s.owner = owner
      · simp [howner, h]
      · simp [howner]

/-- The cache that a response has made by the time it comes to a family. -/
def upTo : Family → Cache
  | .v4 => c.purge seen
  | .v6 => ((c.purge seen).observeFamily seen o .v4).1

theorem sameOf_upTo : SameOf ⟨o.name, family⟩ (c.upTo seen o family) (c.purge seen) := by
  cases family with
  | v4 => exact .refl _ _
  | v6 => exact sameOf_observeFamily _ seen o .v4 (by simp)

/-- **An owner of the answered name is left as the response for its family leaves it.** -/
theorem sameOf_observe : SameOf ⟨o.name, family⟩ (c.observe seen o).1
    ((c.upTo seen o family).observeFamily seen o family).1 := by
  cases family with
  | v4 => exact sameOf_observeFamily _ seen o .v6 (by simp)
  | v6 => exact .refl _ _

/-- **The owner of another name is left as the purge leaves it.** -/
theorem sameOf_observe_of_ne (h : owner.fqdn ≠ o.name) :
    SameOf owner (c.observe seen o).1 (c.purge seen) := by
  have hne : ∀ family, owner ≠ ⟨o.name, family⟩ := fun family heq => h (congrArg Owner.fqdn heq)
  exact (sameOf_observeFamily _ seen o .v6 (hne _)).trans
    (sameOf_observeFamily _ seen o .v4 (hne _))

theorem get?_observe :
    (c.observe seen o).1.records.get? ⟨o.name, family⟩ =
      (c.upTo seen o family).nextRecord seen o family := by
  rw [(sameOf_observe c seen o family).record, get?_observeFamily, if_pos rfl]

variable {o family}

/-- Where addresses came back, the record has these, and counts for the
shortest of their times to live. -/
theorem get?_observe_of_answer (h : o.ofFamily family ≠ []) :
    ∃ r, (c.observe seen o).1.records.get? ⟨o.name, family⟩ = some r ∧
    r.members = o.members family ∧
      r.expiration = seen.addSeconds (o.ttl family) := by
  rw [get?_observe, nextRecord, if_neg h]
  exact ⟨_, rfl, rfl, rfl⟩

/-- Where none came back, a record that counts stays, and loses its
addresses if these were asked for. -/
theorem get?_observe_of_none (h : o.ofFamily family = []) :
    (c.observe seen o).1.records.get? ⟨o.name, family⟩ =
      ((c.records.get? ⟨o.name, family⟩).filter (·.isLive seen)).map
      fun r => if o.askedFor family then { r with members := ∅ } else r := by
  rw [get?_observe, nextRecord, if_pos h, (sameOf_upTo c seen o family).record, get?_purge]

/-- What was restored stays while it counts, unless its owner was answered. -/
theorem mem_restored_observe : s ∈ (c.observe seen o).1.restored ↔
    (s ∈ c.restored ∧ seen < s.expiration) ∧ (s.fqdn = o.name → o.ofFamily s.family = []) := by
  have hfamily : ∀ (d : Cache) family, s ∈ (d.observeFamily seen o family).1.restored ↔
      s ∈ d.restored ∧ (s.owner = ⟨o.name, family⟩ → o.ofFamily family = []) := by
    intro d family
    rw [restored_observeFamily]
    split
    · rename_i hnone
      simp [hnone]
    · rename_i hsome
      simp [hsome]
  rw [observe_fst, hfamily, hfamily, mem_restored_purge, and_assoc]
  refine and_congr_right fun _ => ?_
  obtain ⟨fqdn, setName, addresses, expiration, family⟩ := s
  cases family <;> simp [NamedSet.owner]

/-! ### Whether something changed -/

/-- The addresses that are recorded of an owner. -/
def membersOf (owner : Owner) : Option (Ascending Address) := (c.records.get? owner).map (·.members)

/-- A response for one family says that something changed if the addresses of its owner did. -/
theorem observeFamily_snd : (c.observeFamily seen o family).2 = true ↔
    (c.nextRecord seen o family).map (·.members) ≠ c.membersOf ⟨o.name, family⟩ := by
  unfold observeFamily nextRecord membersOf answered
  by_cases hnone : o.ofFamily family = []
  · simp only [if_pos hnone]
    cases c.records.get? ⟨o.name, family⟩ with
    | none => simp
    | some r =>
      cases o.askedFor family with
      | false => simp
      | true =>
        -- there is something to clear exactly if the record has addresses
        have hempty : r.members.isEmpty = true ↔ ∅ = r.members :=
          ⟨fun h => Ascending.ext_toList (List.isEmpty_iff.1 h).symm, fun h => h ▸ rfl⟩
        by_cases hmembers : r.members.isEmpty = true
        · simp [hmembers, hempty.1 hmembers]
        · have hne : ¬ ∅ = r.members := fun h => hmembers (hempty.2 h)
          simp [hmembers, hne]
  · simp only [if_neg hnone]
    cases c.records.get? ⟨o.name, family⟩ with
    | none => simp
    | some r => simp [@eq_comm _ r.members]

/-- **A response says that something changed exactly if the recorded addresses did**,
compared with what the purge left. -/
theorem observe_snd :
    (c.observe seen o).2 = true ↔ (c.observe seen o).1.membersOf ≠ (c.purge seen).membersOf := by
  have hflags : (c.observe seen o).2 = (((c.upTo seen o .v4).observeFamily seen o .v4).2
      || ((c.upTo seen o .v6).observeFamily seen o .v6).2) := rfl
  have hfamily : ∀ family, ((c.upTo seen o family).observeFamily seen o family).2 = true ↔
      (c.observe seen o).1.membersOf ⟨o.name, family⟩ ≠
        (c.purge seen).membersOf ⟨o.name, family⟩ := by
    intro family
    rw [observeFamily_snd, ← get?_observe]
    unfold membersOf
    rw [(sameOf_upTo c seen o family).record]
  rw [hflags, Bool.or_eq_true, hfamily, hfamily]
  constructor
  · rintro (h | h) heq
    · exact h (congrFun heq _)
    · exact h (congrFun heq _)
  · intro hne
    rw [← not_and_or]
    rintro ⟨hv4, hv6⟩
    refine hne (funext fun owner => ?_)
    obtain ⟨fqdn, family⟩ := owner
    by_cases hname : fqdn = o.name
    · subst hname
      cases family with
      | v4 => exact hv4
      | v6 => exact hv6
    · unfold membersOf
      rw [(sameOf_observe_of_ne c seen o hname).record]

end Observe

/-! ### What is found of other names -/

section Others

variable {name : String}

/-- Caches that hold the same of all other names are rendered alike, that name apart. -/
theorem setsForRendering_others (hc : c.Coherent) (hd : d.Coherent)
    (h : ∀ owner : Owner, owner.fqdn ≠ name → c.setOf? true now owner = d.setOf? true now owner) :
    (c.setsForRendering now).filter (fun s => s.fqdn ≠ name) =
      (d.setsForRendering now).filter fun s => s.fqdn ≠ name := by
  refine eq_of_mem_iff_of_pairwise (R := fun s t : NamedSet => compare s.setName t.setName = .lt) ?_
    Std.TransCmp.lt_trans ((c.pairwise_setsForRendering now).filter _)
      ((d.pairwise_setsForRendering now).filter _) ?_
  · intro s hs
    simp at hs
  · intro s
    rw [List.mem_filter, List.mem_filter, decide_eq_true_eq, hc.mem_setsForRendering_iff,
      hd.mem_setsForRendering_iff]
    refine and_congr_left fun hname => ?_
    rw [h s.owner hname]

theorem setsFor_others (selector : Selector) (forPersist : Bool)
    (h : ∀ owner : Owner, owner.fqdn ≠ name →
      c.setOf? forPersist now owner = d.setOf? forPersist now owner) :
    (c.setsFor selector forPersist now).filter (fun s => s.fqdn ≠ name)
      = (d.setsFor selector forPersist now).filter fun s => s.fqdn ≠ name := by
  refine eq_of_mem_iff_of_pairwise
    (R := fun s t : NamedSet => compare s.owner t.owner = .lt) ?_ Std.TransCmp.lt_trans
    (Dictionary.pairwise_values_foldl_insertNew.filter _)
      (Dictionary.pairwise_values_foldl_insertNew.filter _) ?_
  · intro s hs
    simp at hs
  · intro s
    rw [List.mem_filter, List.mem_filter, decide_eq_true_eq, mem_setsFor_iff_setOf?,
      mem_setsFor_iff_setOf?]
    refine and_congr_left fun hname => ?_
    rw [h s.owner hname]

end Others

/-! ### The whole effect -/

/-- The effect of a response on a cache, together with what it says of it. -/
structure Effect (c : Cache) (seen : Instant) (m : Dns.Message) (c' : Cache) (changed : Bool) :
    Prop where
  /-- From then on the sets of other names are rendered as before. -/
  rendered : ∀ now, seen ≤ now → (c'.setsForRendering now).filter (fun s => s.fqdn ≠ m.subject)
    = (c.setsForRendering now).filter fun s => s.fqdn ≠ m.subject
  /-- From then on the sets of other names are listed as before. -/
  listed : ∀ now, seen ≤ now → ∀ selector forPersist,
    (c'.setsFor selector forPersist now).filter (fun s => s.fqdn ≠ m.subject)
      = (c.setsFor selector forPersist now).filter fun s => s.fqdn ≠ m.subject
  /-- Addresses that came back are recorded, for the shortest of their times to live. -/
  answered : ∀ family, m.GivesFamily family →
    ∃ r ttl, c'.records.get? ⟨m.subject, family⟩ = some r ∧
    (∀ a, a ∈ r.members ↔ (∃ n, m.Gives a n) ∧ a.family = family) ∧
    IsLeast {n | ∃ a, m.Gives a n ∧ a.family = family} ttl ∧ r.expiration = seen.addSeconds ttl
  /-- Where none came back, a record that counts keeps its name and its time, and its
  addresses unless these were asked for. -/
  quiet : ∀ family, ¬ m.GivesFamily family → c'.records.get? ⟨m.subject, family⟩
    = ((c.records.get? ⟨m.subject, family⟩).filter (·.isLive seen)).map
        fun r => if m.asks family then { r with members := ∅ } else r
  /-- What was restored and counts stays, unless addresses came back for its owner. -/
  restored : ∀ s, s ∈ c'.restored ↔
    (s ∈ c.restored ∧ seen < s.expiration) ∧ (s.fqdn = m.subject → ¬ m.GivesFamily s.family)
  /-- Something changed exactly if the recorded addresses are not those
  that a purge would have left. -/
  changed_iff : changed = true ↔ c'.membersOf ≠ (c.purge seen).membersOf

theorem Coherent.effect_observe (hc : c.Coherent) (seen : Instant) {m : Dns.Message}
    {o : Dns.Observation} (hm : Dns.Observation.ofMessage m = .ok o) :
    c.Effect seen m (c.observe seen o).1 (c.observe seen o).2 := by
  have hname : o.name = m.subject := Dns.Observation.name_eq hm
  have hnone : ∀ {family}, ¬ m.GivesFamily family ↔ o.ofFamily family = [] := by
    intro family
    rw [← Dns.Observation.ofFamily_ne_nil_iff hm, Classical.not_not]
  have hothers : ∀ now, seen ≤ now → ∀ forPersist, ∀ owner : Owner, owner.fqdn ≠ m.subject →
      (c.observe seen o).1.setOf? forPersist now owner = c.setOf? forPersist now owner := by
    intro now hnow forPersist owner hne
    rw [(sameOf_observe_of_ne c seen o (hname ▸ hne)).setOf?_eq, setOf?_purge hnow]
  refine ⟨?_, ?_, ?_, ?_, ?_, observe_snd c seen⟩
  · intro now hnow
    exact setsForRendering_others (hc.observe seen o) hc (hothers now hnow true)
  · intro now hnow selector forPersist
    exact setsFor_others selector forPersist (hothers now hnow forPersist)
  · intro family hgives
    have hsome := (Dns.Observation.ofFamily_ne_nil_iff hm).2 hgives
    obtain ⟨r, hr, hmembers, hexpiration⟩ := get?_observe_of_answer c seen hsome
    have hleast := Dns.Observation.isLeast_ttl hsome
    simp only [Dns.Observation.mem_ofFamily_iff hm] at hleast
    rw [hname] at hr
    refine ⟨r, o.ttl family, hr, fun a => ?_, hleast, hexpiration⟩
    rw [hmembers, Dns.Observation.mem_members_iff hm]
  · intro family hquiet
    have hrecord := get?_observe_of_none c seen (hnone.1 hquiet)
    rwa [hname, Dns.Observation.askedFor_eq hm] at hrecord
  · intro s
    rw [mem_restored_observe, hname, hnone]

theorem Coherent.effect_of_apply (hc : c.Coherent) {seen : Instant} {m : Dns.Message} {c' : Cache}
    {changed : Bool} (h : c.apply seen m = .ok (c', changed)) :
    c.after (.response seen m) = c' ∧ c.Effect seen m c' changed := by
  obtain ⟨o, hm, heq⟩ := apply_eq_ok.1 h
  cases heq
  exact ⟨after_response_of_ok hm, hc.effect_observe seen hm⟩

/--
**A response has this effect and no other**, whatever the cache has been through.  It succeeds
exactly if it tells something, and otherwise the cache stays as it was.
-/
theorem response_has_its_effect (forwarder : Endpoint) (operations : List Operation)
    (seen : Instant) (m : Dns.Message) :
    let c := (fresh forwarder).history operations
    ((∃ result, c.apply seen m = .ok result) ↔ m.Tells) ∧
    (∀ e, c.apply seen m = .error e → c.after (.response seen m) = c) ∧
    ∀ c' changed, c.apply seen m = .ok (c', changed) →
      c.after (.response seen m) = c' ∧ c.Effect seen m c' changed := by
  intro c
  have hc : c.Coherent := ((Consistent.fresh forwarder).history operations).toCoherent
  clear_value c
  refine ⟨?_, ?_, fun c' changed h => hc.effect_of_apply h⟩
  · rw [← Dns.Observation.exists_ofMessage_iff]
    simp only [apply_eq_ok]
    exact ⟨fun ⟨_, o, hm, _⟩ => ⟨o, hm⟩, fun ⟨o, hm⟩ => ⟨_, o, hm, rfl⟩⟩
  · intro e h
    simp only [after, h]

/-- A response without an address, while the record of its name counts: the record
loses its address and keeps its name and its time, and the other name is rendered as
before.  A query changes nothing. -/
theorem response_has_its_effect_sampleHistory :
    let c := (fresh default).history sampleHistory
    let seen := Instant.ofSeconds 1700000050
    let m : Dns.Message := ⟨true, [⟨"A-B.com", .a⟩], [⟨"a-b.com", 30, none⟩]⟩
    (∃ e, c.apply seen ⟨false, m.questions, m.answers⟩ = .error e) ∧
      c.after (.response seen ⟨false, m.questions, m.answers⟩) = c ∧
      ∃ c', c.apply seen m = .ok (c', true) ∧
        c'.records.get? ⟨"a-b.com.", .v4⟩ = some ⟨"fqdn_a_b_com_v4", ∅, .ofSeconds 1700000060⟩ ∧
        (c'.setsForRendering seen).filter (fun s => s.fqdn ≠ m.subject)
          = (c.setsForRendering seen).filter fun s => s.fqdn ≠ m.subject := by
  intro c seen m
  obtain ⟨-, herror, -⟩ :=
    response_has_its_effect default sampleHistory seen ⟨false, m.questions, m.answers⟩
  obtain ⟨-, -, hok⟩ := response_has_its_effect default sampleHistory seen m
  refine ⟨⟨.notResponse, rfl⟩, herror .notResponse rfl, ?_⟩
  have happly : c.apply seen m = .ok ((c.observe seen ⟨"a-b.com.", some .a, []⟩).1, true) := by
    decide +kernel
  obtain ⟨-, heffect⟩ := hok _ _ happly
  refine ⟨_, happly, ?_, heffect.rendered seen (Instant.le_refl seen)⟩
  have hquiet := heffect.quiet .v4 (by rintro ⟨a, ttl, ⟨r, hr, ha, -⟩, -⟩; simp_all [m])
  rw [show m.subject = "a-b.com." by decide +kernel] at hquiet
  rw [hquiet]
  decide +kernel

end Firewall.Cache
