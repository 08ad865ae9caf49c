/-
Every set that a rule names is declared.

The lines of a policy name the sets that its selectors find; the ruleset declares the sets that are
rendered.  Nothing passes from the one to the other but the names.  After any history of the cache,
and as long as nothing happens to it in between, a look-up lists sets that are rendered
(`Coherent.setsFor_eq`) and a rendered set is the only one of its name (`filter_setName_rendered`).
So a name in a line leads to one declaration, and that is of the family which the line is for.

A restored set may have any name at all.  Where the names are words, all of this can be read from
the texts of the lines; where they are not, it is still true of the lines.
-/
import Firewall.Proofs.Cache.Agreement
import Firewall.Proofs.Policy.Names

namespace Firewall

/-- Exactly one of some sets has a name, and it is of a family. -/
def NamedSet.DeclaredOnce (sets : List NamedSet) (name : String) (family : Family) : Prop :=
  ∃ s, sets.filter (fun t => t.setName = name) = [s] ∧ s.family = family

variable {options : CompileOptions} {policies : List Policy} {services : List Service}

/-- A set that a line of a rule names was found by a selector of the rule,
and is of the family of the match. -/
theorem Compile.exists_found_of_inSet_mem {view : View} {policy : String} {r : EgressRule}
    {f : Fragment} (hok : egressRule options (some view) policy r = .ok f) {l : Line}
    (hl : l ∈ f.egress) {family : Family} {d : Direction} {name : String}
    (hname : .inSet family d name ∈ l.clauses) :
    ∃ s ∈ r.selectors, ∃ set ∈ view s, set.setName = name ∧ set.family = family := by
  have hselectors : r.selectors ≠ [] := fun hnil => inSet_notMem_of_nil hnil hok hl hname
  obtain ⟨s, hs, set, hset, hclauses⟩ := clauses_of_ne_nil hselectors hok hl
  rw [hclauses] at hname
  rcases List.mem_cons.1 hname with heq | hmem
  · exact nomatch heq
  · cases List.mem_singleton.1 hmem
    exact ⟨s, hs, set, hset, rfl, rfl⟩

/-- A set that an egress line names was found by a selector of a rule,
and is of the family of the match. -/
theorem exists_of_inSet_mem_egress {view : View} {l : Line}
    (hl : l ∈ (compileParts options (some view) policies services).egress) {family : Family}
    {d : Direction} {name : String}
    (hname : .inSet family d name ∈ l.clauses) : ∃ p ∈ policies, ∃ r ∈ p.egress,
      ∃ s ∈ r.selectors, ∃ set ∈ view s, set.setName = name ∧ set.family = family := by
  obtain ⟨p, hp, r, hr, f, hok, hf⟩ := mem_egress_compileParts.1 hl
  exact ⟨p, hp, r, hr, Compile.exists_found_of_inSet_mem hok hf hname⟩

namespace Cache

variable {c : Cache} {now : Instant}

theorem Coherent.declaredOnce (hc : c.Coherent) {selector : Selector} {s : NamedSet}
    (hs : s ∈ c.setsFor selector true now) :
    NamedSet.DeclaredOnce (c.setsForRendering now) s.setName s.family :=
  ⟨s, filter_setName_rendered (hc.mem_setsFor_iff.1 hs).1, rfl⟩

theorem Coherent.declaredOnce_of_mem_egress (hc : c.Coherent) {l : Line}
    (hl : l ∈ (compileParts options (some fun s => c.setsFor s true now) policies services).egress)
    {family : Family} {d : Direction} {name : String} (hname : .inSet family d name ∈ l.clauses) :
    NamedSet.DeclaredOnce (c.setsForRendering now) name family := by
  obtain ⟨-, -, -, -, s, -, set, hset, rfl, rfl⟩ := exists_of_inSet_mem_egress hl hname
  exact hc.declaredOnce hset

end Cache

/--
**Look-ups and rendering agree, after any history and at any time.**  A selector finds the sets
that are rendered and that it selects, in the order of their owners.  So every set that an egress
line names is declared once, and is of the family of the line; and if the names of sets have no
spaces, this can be read from the texts.
-/
theorem lookups_agree_with_rendering (forwarder : Endpoint) (operations : List Cache.Operation)
    (now : Instant) :
    let cache := (Cache.fresh forwarder).history operations
    let declared := cache.setsForRendering now
    (∀ selector, cache.setsFor selector true now
      = NamedSet.byOwner (declared.filter fun s => selector.selects s.fqdn)) ∧
    ∀ options policies services,
      let view : View := fun s => cache.setsFor s true now
      let parts := compileParts options (some view) policies services
      compile options (some view) policies services = .ok parts.compiled ∧
      (∀ text, text ∈ parts.compiled.egress ↔ ∃ l ∈ parts.egress, l.text = text) ∧
      (∀ l ∈ parts.egress, ∀ family direction name, .inSet family direction name ∈ l.clauses →
        NamedSet.DeclaredOnce declared name family) ∧
      ((∀ s ∈ declared, ' ' ∉ s.setName.toList) → ∀ text ∈ parts.compiled.egress,
        ∃ ms, Line.read? text = some ms ∧ ∀ family direction name,
          .address (.inSet family direction name) ∈ ms →
          NamedSet.DeclaredOnce declared name family) := by
  intro cache declared
  have hc : cache.Coherent := ((Cache.Consistent.fresh forwarder).history operations).toCoherent
  clear_value cache
  refine ⟨fun selector => hc.setsFor_eq selector now, ?_⟩
  intro options policies services view parts
  have hdeclared : ∀ l ∈ parts.egress, ∀ family direction name,
      .inSet family direction name ∈ l.clauses →
      NamedSet.DeclaredOnce declared name family :=
    fun l hl family direction name hname => hc.declaredOnce_of_mem_egress hl hname
  refine ⟨rfl, fun text => mem_egress_compiled, hdeclared, ?_⟩
  intro hplain text htext
  obtain ⟨l, hl, rfl⟩ := mem_egress_compiled.1 htext
  have hreadable := readable_egress_compileParts
    (fun s set hset => hplain set (hc.mem_setsFor_iff.1 hset).1) l hl
  refine ⟨l.ruleMatches, Line.read?_text hreadable, ?_⟩
  intro family direction name hmem
  refine hdeclared l hl family direction name ?_
  simpa [Line.ruleMatches] using hmem

/-- The cluster may reach whatever ends in b.com. -/
def samplePatternPolicy : Policy where
  name := "pattern"
  egress := [{ selectors := [.pattern "*b.com"] }]

/-- The set with the number is found by the pattern, and is declared. -/
theorem declaredOnce_sampleHistory :
    let cache := (Cache.fresh default).history Cache.sampleHistory
    let now := Instant.ofSeconds 1700000010
    (∃ l ∈ (compileParts {}
      (some fun s => cache.setsFor s true now) [samplePatternPolicy] []).egress,
      .inSet .v4 .destination "fqdn_a_b_com_v4_1" ∈ l.clauses) ∧
    NamedSet.DeclaredOnce (cache.setsForRendering now) "fqdn_a_b_com_v4_1" .v4 := by
  intro cache now
  have hfound : ∃ l ∈
      (compileParts {} (some fun s => cache.setsFor s true now) [samplePatternPolicy] []).egress,
      .inSet .v4 .destination "fqdn_a_b_com_v4_1" ∈ l.clauses := by decide +kernel
  obtain ⟨-, hcompile⟩ := lookups_agree_with_rendering default Cache.sampleHistory now
  obtain ⟨-, -, hdeclared, -⟩ := hcompile {} [samplePatternPolicy] []
  obtain ⟨l, hl, hname⟩ := hfound
  exact ⟨⟨l, hl, hname⟩, hdeclared l hl _ _ _ hname⟩

end Firewall
