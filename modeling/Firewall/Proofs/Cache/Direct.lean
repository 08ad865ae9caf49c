/-
Looking a name up, and scanning for it.

A pattern is looked up by going through everything that counts.  An exact name need not be: its sets
are those of its owners, one for each family, and each of them is found under its owner (`setOf?`).

What a scan lists for an owner depends on that owner alone, apart from whether its name is
selected (`mem_setsFor_iff_setOf?`).  So two look-ups list the same sets where they select
the same names, and for a text without a star the one name that is selected is the same,
whether it is looked up or matched.
-/
import Firewall.Proofs.Cache.Consistent
import Firewall.Proofs.Cache.Lookup
import Firewall.Proofs.Name.Language
import Firewall.Proofs.Name.Starless
import Mathlib.Data.List.Find

namespace Firewall.Cache

variable {c : Cache} {forPersist : Bool} {now : Instant} {o : Owner} {s : NamedSet}

/-- The set of an owner that counts: that of its record, or else, where sets to be saved are asked
for, the first that was restored. -/
def setOf? (c : Cache) (forPersist : Bool) (now : Instant) (o : Owner) : Option NamedSet :=
  (((c.records.get? o).filter (·.isLive now)).map (·.toNamedSet o)).or
    (if forPersist then (c.liveRestored now).find? fun s => s.owner = o else none)

/-- The sets of a name, looked up under its owners. -/
def setsNamed (c : Cache) (fqdn : String) (forPersist : Bool) (now : Instant) : List NamedSet :=
  Family.all.filterMap fun family => c.setOf? forPersist now ⟨fqdn, family⟩

/-! ### One owner -/

theorem find?_liveSets (c : Cache) (now : Instant) (o : Owner) :
    (c.liveSets now).find? (fun s => s.owner = o) =
      ((c.records.get? o).filter (·.isLive now)).map (·.toNamedSet o) := by
  refine Option.ext fun s => ?_
  rw [find?_owner_liveSets, mem_liveSets]
  simp only [Option.map_eq_some_iff, Option.filter_eq_some_iff]
  constructor
  · rintro ⟨⟨o', r, hr, hlive, rfl⟩, rfl⟩
    exact ⟨r, ⟨hr, hlive⟩, rfl⟩
  · rintro ⟨r, ⟨hr, hlive⟩, rfl⟩
    exact ⟨⟨o, r, hr, hlive, rfl⟩, rfl⟩

theorem find?_owner (c : Cache) (forPersist : Bool) (now : Instant) (o : Owner) :
    (c.liveSets now ++ if forPersist then c.liveRestored now else []).find? (fun s => s.owner = o)
      = c.setOf? forPersist now o := by
  rw [List.find?_append, find?_liveSets, setOf?]
  cases forPersist <;> rfl

theorem owner_of_setOf? (h : c.setOf? forPersist now o = some s) : s.owner = o := by
  rw [← find?_owner] at h
  have hfound := List.find?_some h
  exact of_decide_eq_true hfound

/-- **What is listed of an owner depends on that owner alone**, apart
from whether its name is selected. -/
theorem mem_setsFor_iff_setOf? {selector : Selector} : s ∈ c.setsFor selector forPersist now ↔
    c.setOf? forPersist now s.owner = some s ∧ selector.selects s.fqdn = true := by
  rw [mem_setsFor_iff_find?, find?_owner]

/-! ### One name -/

theorem mem_setsNamed {fqdn : String} :
    s ∈ c.setsNamed fqdn forPersist now ↔
      c.setOf? forPersist now s.owner = some s ∧ fqdn = s.fqdn := by
  unfold setsNamed
  rw [List.mem_filterMap]
  constructor
  · rintro ⟨family, -, h⟩
    have howner := owner_of_setOf? h
    rw [howner]
    exact ⟨h, (congrArg Owner.fqdn howner).symm⟩
  · rintro ⟨h, rfl⟩
    refine ⟨s.family, ?_, h⟩
    cases s.family <;> decide

theorem pairwise_setsNamed (c : Cache) (fqdn : String) (forPersist : Bool) (now : Instant) :
    (c.setsNamed fqdn forPersist now).Pairwise fun s t => compare s.owner t.owner = .lt := by
  have hfamilies : Family.all.Pairwise fun v w => compare v w = .lt := by decide
  refine List.pairwise_filterMap.2 (hfamilies.imp ?_)
  intro v w hlt s hs t ht
  rw [owner_of_setOf? hs, owner_of_setOf? ht]
  show compareLex (compareOn Owner.fqdn) (compareOn Owner.family) _ _ = .lt
  simp [compareLex, compareOn, hlt]

/-- **Look-ups that select one name list what is found under its owners.** -/
theorem setsFor_eq_setsNamed {selector : Selector} {fqdn : String}
    (h : ∀ name, selector.selects name = (fqdn == name)) :
    c.setsFor selector forPersist now = c.setsNamed fqdn forPersist now := by
  refine eq_of_mem_iff_of_pairwise (R := fun s t : NamedSet => compare s.owner t.owner = .lt) ?_
    Std.TransCmp.lt_trans Dictionary.pairwise_values_foldl_insertNew
      (pairwise_setsNamed c fqdn forPersist now) ?_
  · intro s hs
    simp at hs
  · intro s
    rw [mem_setsFor_iff_setOf?, mem_setsNamed, h, beq_iff_eq]

/-- **A name without a star is looked up and matched alike**: either way its owners decide what is
listed, and the expression that it is matched with matches no other name. -/
theorem setsFor_exact_eq_setsFor_pattern (c : Cache) {name : String} (hname : name ≠ "")
    (hstar : '*' ∉ name.toList) (forPersist : Bool) (now : Instant) :
    c.setsFor (.exact name) forPersist now = c.setsFor (.pattern name) forPersist now ∧
      c.setsFor (.exact name) forPersist now =
        c.setsNamed (Name.fullyQualified name) forPersist now ∧
      ∃ e, Expression.read? (Selector.pattern name).glob.expression = some e ∧
        ∀ fqdn, e.IsMatch fqdn ↔ fqdn = Name.fullyQualified name := by
  have hexact : (Selector.exact name).text = name := by
    have hkept : Selector.nonempty? (some name) = some name := if_pos (bne_iff_ne.2 hname)
    rw [Selector.exact, Selector.text, hkept]
    rfl
  have hpattern : (Selector.pattern name).text = name := rfl
  have hlookup :
      c.setsFor (.exact name) forPersist now =
        c.setsNamed (Name.fullyQualified name) forPersist now := by
    refine setsFor_eq_setsNamed fun fqdn => ?_
    rw [Selector.selects_of_starless (by rwa [hexact]), hexact]
  have hscan : c.setsFor (.pattern name) forPersist now =
      c.setsNamed (Name.fullyQualified name) forPersist now :=
    setsFor_eq_setsNamed (Selector.selects_of_starless (s := .pattern name) hstar)
  obtain ⟨e, he, hmatch⟩ := Glob.exists_read?_expression (.pattern name)
  refine ⟨hlookup.trans hscan.symm, hlookup, e, he, fun fqdn => ?_⟩
  rw [hmatch, hpattern, Glob.describes_of_starless hstar]

/-- The record of a name is over and its restored set counts: the set is
listed however the name is asked for. -/
theorem setsFor_sampleHistory :
    let c := (Cache.fresh default).history sampleHistory
    let now := Instant.ofSeconds 1700000100
    c.setsFor (.exact " A-B.com") true now = [sampleSaved "a-b.com." "fqdn_a_b_com_v4"] ∧
      c.setsFor (.exact " A-B.com") true now = c.setsFor (.pattern " A-B.com") true now := by
  intro c now
  have hname : " A-B.com" ≠ "" := by decide
  have hstar : '*' ∉ " A-B.com".toList := by decide
  obtain ⟨hscan, hlookup, -⟩ := setsFor_exact_eq_setsFor_pattern c hname hstar true now
  refine ⟨?_, hscan⟩
  rw [hlookup]
  decide +kernel

end Firewall.Cache
