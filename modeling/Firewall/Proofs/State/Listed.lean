/-
Which of the sets that rules name are saved.

A line names a set that a selector of its rule found, and what was found is recorded under
the text of the selector.  It stays there unless another selector of the same policy and
text is looked up later and finds something else.  Selectors of one text mostly select the
same names; they differ only where one is an exact name, the other is a pattern and there is
a star in the text (`Selector.selects_eq_of_text_eq`).  That is the one way in which a set
that is named can be missing from what is saved, and it does happen: a host may be given the
exact name `*.com`, which nothing is ever found for.
-/
import Firewall.Proofs.Name.Starless
import Firewall.Proofs.Policy.Declared
import Firewall.Proofs.Policy.Destinations
import Firewall.Proofs.State.Recorded
import Firewall.Proofs.State.Restart

namespace Firewall

/-- Two of some selectors have one text, with a star in it, which is a name for one of
them and a pattern for the other. -/
def SelectorsClash (selectors : List (String × Selector)) (policy : String) : Prop :=
  ∃ s t, (policy, s) ∈ selectors ∧ (policy, t) ∈ selectors ∧ s.isExact = true ∧ t.isExact = false ∧
    s.text = t.text ∧ '*' ∈ s.text.toList

variable {options : CompileOptions} {policies : List Policy} {services : List Service}

theorem SelectorsClash.of_selects_ne {selectors : List (String × Selector)} {policy : String}
    {s t : Selector} (hs : (policy, s) ∈ selectors) (ht : (policy, t) ∈ selectors)
    (htext : s.text = t.text) {fqdn : String}
    (hne : s.selects fqdn ≠ t.selects fqdn) : SelectorsClash selectors policy := by
  have hexact : s.isExact ≠ t.isExact :=
    fun h => hne (Selector.selects_eq_of_text_eq htext (.inl h) fqdn)
  have hstar : '*' ∈ s.text.toList :=
    Classical.not_not.1 fun h => hne (Selector.selects_eq_of_text_eq htext (.inr h) fqdn)
  cases hsexact : s.isExact with
  | true =>
    have htexact : t.isExact = false := Bool.eq_false_iff.2 fun h => hexact (hsexact.trans h.symm)
    exact ⟨s, t, hs, ht, hsexact, htexact, htext, hstar⟩
  | false =>
    have htexact : t.isExact = true :=
      Bool.eq_true_of_not_eq_false fun h => hexact (hsexact.trans h.symm)
    exact ⟨t, s, ht, hs, htexact, hsexact, htext.symm, htext ▸ hstar⟩

namespace Cache

variable {c : Cache} {now : Instant}

/-- A rendered set is listed under a policy exactly if the last selector of some text selects it. -/
theorem Coherent.lists_iff (hc : c.Coherent) {set : NamedSet} (hset : set ∈ c.setsForRendering now)
    {policy : String} :
    (compileParts options
      (some fun s => c.setsFor s true now) policies services).compiled.states.Lists policy set ↔
      ∃ text s, lastSelector?
        (Compile.selectorsTaken options (some fun s => c.setsFor s true now) policies) policy
        text = some s ∧ s.selects set.fqdn = true := by
  unfold PolicyStates.Lists
  simp only [recorded?_compiled, Option.map_eq_some_iff]
  refine exists_congr fun text => ?_
  constructor
  · rintro ⟨-, ⟨s, hs, rfl⟩, hfound⟩
    exact ⟨s, hs, (hc.mem_setsFor_iff.1 hfound).2⟩
  · rintro ⟨s, hs, hselects⟩
    exact ⟨_, ⟨s, hs, rfl⟩, hc.mem_setsFor_iff.2 ⟨hset, hselects⟩⟩

/-- What a selector finds is listed under its policy, unless the policy has selectors that clash. -/
theorem Coherent.lists_or_clash (hc : c.Coherent) {policy : String} {s : Selector}
    (hs : (policy, s) ∈ Compile.selectorsTaken options
      (some fun s => c.setsFor s true now) policies)
    {set : NamedSet} (hset : set ∈ c.setsFor s true now) :
    (compileParts options
      (some fun s => c.setsFor s true now) policies services).compiled.states.Lists policy set ∨
      SelectorsClash
        (Compile.selectorsTaken options (some fun s => c.setsFor s true now) policies) policy := by
  obtain ⟨hrendered, hselects⟩ := hc.mem_setsFor_iff.1 hset
  obtain ⟨t, hlast⟩ := exists_lastSelector? hs
  by_cases hsame : t.selects set.fqdn = true
  · exact .inl ((hc.lists_iff hrendered).2 ⟨s.text, t, hlast, hsame⟩)
  · obtain ⟨ht, htext⟩ := of_lastSelector?_eq_some hlast
    have hne : s.selects set.fqdn ≠ t.selects set.fqdn := fun heq => hsame (heq ▸ hselects)
    exact .inr (.of_selects_ne hs ht htext.symm hne)

end Cache

/--
**Which of the sets that rules name are saved.**  After any history of the cache and at any time, a
line of a rule of a policy that names a set names one declared set, of the family of the line.  That
set is listed under the policy, as it is declared, exactly if the last selector of some text that
was looked up for the policy selects it; and it is, unless the policy has an exact name and a
pattern of one text with a star in it.
-/
theorem named_set_listed_iff (forwarder : Endpoint) (operations : List Cache.Operation)
    (now : Instant) (options : CompileOptions) (policies : List Policy) (services : List Service) :
    let cache := (Cache.fresh forwarder).history operations
    let view : View := fun s => cache.setsFor s true now
    let selectors := Compile.selectorsTaken options (some view) policies
    ∃ compiled, compile options (some view) policies services = .ok compiled ∧
      ∀ p ∈ policies, ∀ r ∈ p.egress, ∀ f, Compile.egressRule options (some view) p.name r = .ok f →
        ∀ l ∈ f.egress, ∀ family direction name, .inSet family direction name ∈ l.clauses →
          ∃ set, (cache.setsForRendering now).filter (fun s => s.setName = name) = [set] ∧
          set.family = family ∧
            (compiled.states.Lists p.name set ↔
              ∃ text s, lastSelector? selectors p.name text = some s ∧ s.selects set.fqdn = true) ∧
            (compiled.states.Lists p.name set ∨ SelectorsClash selectors p.name) := by
  intro cache view selectors
  have hc : cache.Coherent := ((Cache.Consistent.fresh forwarder).history operations).toCoherent
  clear_value cache
  refine ⟨_, rfl, ?_⟩
  intro p hp r hr f hok l hl family direction name hname
  obtain ⟨s, hs, set, hset, rfl, rfl⟩ := Compile.exists_found_of_inSet_mem hok hl hname
  have hrendered : set ∈ cache.setsForRendering now := (hc.mem_setsFor_iff.1 hset).1
  exact ⟨set, Cache.filter_setName_rendered hrendered, rfl, hc.lists_iff hrendered,
    hc.lists_or_clash (Compile.mem_selectorsTaken hp hr hok hs) hset⟩

/-- What is found for the sample policy is listed. -/
theorem listed_sampleNamePolicy :
    let cache := (Cache.fresh default).history sampleResolved
    let now := Instant.ofSeconds 1700000000
    let view : View := fun s => cache.setsFor s true now
    ∃ compiled, compile {} (some view) [sampleNamePolicy] [] = .ok compiled ∧
      ∃ set, (cache.setsForRendering now).filter (fun s => s.setName = "fqdn_example_com_v4") =
        [set] ∧
        compiled.states.Lists "sample" set := by
  intro cache now view
  obtain ⟨compiled, hcompiled, hlines⟩ :=
    named_set_listed_iff default sampleResolved now {} [sampleNamePolicy] []
  have hok : Compile.egressRule {} (some view) "sample" { selectors := [.exact "Example.com"] } =
    .ok _ :=
    (Compile.egressRule_eq_ok_of_ne_nil (List.cons_ne_nil _ _)).2 ⟨rfl, ⟨.empty, rfl, rfl⟩, rfl⟩
  have hline : ∃ l ∈ (Fragment.concat ([.exact "Example.com"].map
      (Compile.selectorLines {} view "sample" .empty))).egress,
      .inSet .v4 .destination "fqdn_example_com_v4" ∈ l.clauses := by decide +kernel
  obtain ⟨l, hl, hname⟩ := hline
  obtain ⟨set, hset, -, -, hlisted⟩ := hlines sampleNamePolicy (List.mem_singleton_self _) _
    (List.mem_singleton_self _) _ hok l hl .v4 .destination _ hname
  have hselectors :
      Compile.selectorsTaken {} (some view) [sampleNamePolicy] =
        [("sample", .exact "Example.com")] := by
    decide +kernel
  refine ⟨compiled, hcompiled, set, hset, hlisted.resolve_right ?_⟩
  rintro ⟨s, -, hs, -, -, -, -, hstar⟩
  rw [hselectors] at hs
  cases List.mem_singleton.1 hs
  exact absurd hstar (by decide)

/-- The cluster may reach whatever ends in .com, and the host of the name `*.com`. -/
def sampleStarPolicy : Policy where
  name := "sample"
  egress := [{ selectors := [.pattern "*.com", .exact "*.com"] }]

/-- What was answered for example.com. -/
def sampleAnswered : NamedSet :=
  ⟨"example.com.", "fqdn_example_com_v4", [samplePacketOut.destination], .ofSeconds 1700000060, .v4⟩

/-- The pattern finds a set and a line names it; the exact name finds none, and nothing is saved. -/
theorem not_listed_sampleStarPolicy :
    let cache := (Cache.fresh default).history sampleResolved
    let now := Instant.ofSeconds 1700000000
    let view : View := fun s => cache.setsFor s true now
    ∃ compiled, compile {} (some view) [sampleStarPolicy] [] = .ok compiled ∧
      (∃ r ∈ sampleStarPolicy.egress, ∃ f, Compile.egressRule {} (some view) "sample" r = .ok f ∧
        ∃ l ∈ f.egress, .inSet .v4 .destination sampleAnswered.setName ∈ l.clauses) ∧
      sampleAnswered ∈ cache.setsForRendering now ∧
      ¬ compiled.states.Lists "sample" sampleAnswered := by
  intro cache now view
  have hok : Compile.egressRule {} (some view) "sample"
    { selectors := [.pattern "*.com", .exact "*.com"] } = .ok _ :=
    (Compile.egressRule_eq_ok_of_ne_nil (List.cons_ne_nil _ _)).2 ⟨rfl, ⟨.empty, rfl, rfl⟩, rfl⟩
  have hline : ∃ l ∈ (Fragment.concat ([.pattern "*.com", .exact "*.com"].map
      (Compile.selectorLines {} view "sample" .empty))).egress,
      .inSet .v4 .destination sampleAnswered.setName ∈ l.clauses := by decide +kernel
  have hnone : sampleAnswered ∉ Saved.allSets
      (compileParts {} (some view) [sampleStarPolicy] []).compiled.states := by decide +kernel
  refine ⟨_, rfl, ⟨_, List.mem_singleton_self _, _, hok, hline⟩, by decide +kernel, ?_⟩
  exact fun hlisted => hnone (Saved.mem_allSets.2 ⟨"sample", hlisted⟩)

end Firewall
