/-
No time is rendered.

A set counts until a time, and that decides whether it is found; but where it is found, its time
goes into no line. The text of a ruleset has the name, the family, the host name and the addresses
of a set (`render_of_undated`), and a rule about host names has its name and its family
(`egress_selectorLines_of_undated`).  So what is rendered at a time depends on the sets that are
found then, their times apart (`rendered_of_undated`), and a response after which the same sets are
found leaves the text as it was, whatever it did to their times.
-/
import Firewall.Proofs.Cache.Unchanged
import Firewall.Proofs.Policy.Origins
import Firewall.Proofs.Reconcile.Repeat
import Firewall.Proofs.Ruleset.Content

namespace Firewall

/-! ### The text of a ruleset -/

namespace Ruleset

theorem declared?_eq_undated (r : Ruleset) (name : String) : r.declared? name
    = ((r.sets.map NamedSet.undated).find? fun s => s.setName = name).map declaration := by
  rw [List.find?_map, Option.map_map]
  rfl

/-- **The text of a ruleset depends on its sets without their times.** -/
theorem render_of_undated (r : Ruleset) {sets : List NamedSet}
    (h : sets.map NamedSet.undated = r.sets.map NamedSet.undated) :
    { r with sets := sets }.render = r.render := by
  have hcontent : SameContent { r with sets := sets } r := by
    refine ⟨rfl, rfl, fun p => Iff.rfl, fun name => ?_⟩
    rw [declared?_eq_undated, declared?_eq_undated, h]
  have hbody := (bodyLines_eq_iff (r := { r with sets := sets }) (s := r) rfl).2 hcontent
  unfold render
  simp only [lines_eq_bodyLines, hbody]

end Ruleset

/-! ### The lines of rules -/

section Compile

variable {options : CompileOptions} {view view' : View} {policies : List Policy}

/-- The lines of a selector name the sets that it finds, and their families. -/
theorem Compile.egress_selectorLines_of_undated {s : Selector}
    (h : (view s).map NamedSet.undated = (view' s).map NamedSet.undated) (policy : String)
    (ports : Ports) :
    (selectorLines options view policy ports s).egress =
      (selectorLines options view' policy ports s).egress := by
  have hconstraints : ∀ sets : List NamedSet,
      (sets.map fun set =>
        [Clause.fromCluster set.family, .inSet set.family .destination set.setName])
        = (sets.map NamedSet.undated).map fun set =>
            [Clause.fromCluster set.family, .inSet set.family .destination set.setName] := by
    intro sets
    rw [List.map_map]
    rfl
  unfold selectorLines
  dsimp only
  rw [hconstraints (view s), h, ← hconstraints]

/-- A rule about host names gives the same lines where its selectors find the same, times apart. -/
theorem Compile.ofNameRule_of_undated
    (h : ∀ s, (view s).map NamedSet.undated = (view' s).map NamedSet.undated) {text : String}
    (htext : OfNameRule options (some view) policies text) :
    OfNameRule options (some view') policies text := by
  obtain ⟨p, hp, r, hr, hselectors, f, hok, l, hl, rfl⟩ := htext
  obtain ⟨hdestinations, ⟨ports, hports, rfl⟩, hcheck⟩ :=
    (egressRule_eq_ok_of_ne_nil hselectors).1 hok
  refine ⟨p, hp, r, hr, hselectors, _,
    (egressRule_eq_ok_of_ne_nil hselectors).2 ⟨hdestinations, ⟨ports, hports, rfl⟩, hcheck⟩, l, ?_,
    rfl⟩
  obtain ⟨g, hg, hl⟩ := Fragment.mem_egress_concat.1 hl
  obtain ⟨s, hs, rfl⟩ := List.mem_map.1 hg
  rw [egress_selectorLines_of_undated (h s)] at hl
  exact Fragment.mem_egress_concat.2 ⟨_, List.mem_map_of_mem hs, hl⟩

theorem Compile.ofPrefixRule_of_view {text : String}
    (htext : OfPrefixRule options (some view) policies text) :
    OfPrefixRule options (some view') policies text := by
  obtain ⟨p, hp, r, hr, hselectors, f, hok, hl⟩ := htext
  exact ⟨p, hp, r, hr, hselectors, f,
    (egressRule_eq_ok_of_nil hselectors).2 ((egressRule_eq_ok_of_nil hselectors).1 hok), hl⟩

/-- **The lines of a compilation depend on what selectors find without its times.** -/
theorem lines_of_undated (h : ∀ s, (view s).map NamedSet.undated = (view' s).map NamedSet.undated)
    (options : CompileOptions) (policies : List Policy) (services : List Service) :
    ∃ compiled compiled', compile options (some view) policies services = .ok compiled ∧
      compile options (some view') policies services = .ok compiled' ∧
      compiled.ingress = compiled'.ingress ∧ compiled.egress = compiled'.egress := by
  have hsome : ∀ view : View, ∃ compiled,
      compile options (some view) policies services = .ok compiled :=
    fun view => exists_compile_eq_ok_iff.2 (.inl rfl)
  obtain ⟨compiled, hcompiled⟩ := hsome view
  obtain ⟨compiled', hcompiled'⟩ := hsome view'
  refine ⟨compiled, compiled', hcompiled, hcompiled', Ascending.ext_mem fun t => ?_,
    Ascending.ext_mem fun t => ?_⟩
  · rw [mem_ingress_iff hcompiled, mem_ingress_iff hcompiled']
  · rw [mem_egress_iff hcompiled, mem_egress_iff hcompiled']
    exact or_congr ⟨Compile.ofPrefixRule_of_view, Compile.ofPrefixRule_of_view⟩
      ⟨Compile.ofNameRule_of_undated h, Compile.ofNameRule_of_undated fun s => (h s).symm⟩

end Compile

/-! ### What a cycle renders -/

theorem NamedSet.undated_byOwner (sets : List NamedSet) :
    (byOwner sets).map undated = byOwner (sets.map undated) := by
  unfold byOwner
  exact List.map_mergeSort fun _ _ _ _ => rfl

/-- What a selector finds, times apart, depends on what is rendered, times apart. -/
theorem Cache.Coherent.undated_setsFor {c d : Cache} (hc : c.Coherent) (hd : d.Coherent)
    {now : Instant}
    (h : (c.setsForRendering now).map NamedSet.undated =
      (d.setsForRendering now).map NamedSet.undated)
    (selector : Selector) :
    (c.setsFor selector true now).map NamedSet.undated =
      (d.setsFor selector true now).map NamedSet.undated := by
  have hselected : ∀ sets : List NamedSet,
      (sets.filter fun s => selector.selects s.fqdn).map NamedSet.undated
      = (sets.map NamedSet.undated).filter fun s => selector.selects s.fqdn := by
    intro sets
    rw [List.filter_map]
    rfl
  rw [hc.setsFor_eq, hd.setsFor_eq, NamedSet.undated_byOwner, NamedSet.undated_byOwner,
    hselected, hselected, h]

namespace Reconciler

variable {c d : Cache} {w : World}

/-- A snapshot renders to the same text where the same is found, times apart. -/
theorem renderSnapshot_of_undated (r : Reconciler) (snapshot : Snapshot) (hc : c.Coherent)
    (hd : d.Coherent) {now : Instant}
    (h : (c.setsForRendering now).map NamedSet.undated =
      (d.setsForRendering now).map NamedSet.undated) :
    (r.renderSnapshot snapshot (some c) now).map Prod.fst =
      (r.renderSnapshot snapshot (some d) now).map Prod.fst := by
  obtain ⟨compiled, compiled', hcompiled, hcompiled', hingress, hegress⟩ :=
    lines_of_undated (hc.undated_setsFor hd h) r.options snapshot.policies snapshot.services
  have hruleset : r.ruleset (some c) now compiled
      = { r.ruleset (some d) now compiled' with sets := c.setsForRendering now } := by
    unfold ruleset
    rw [hingress, hegress]
    rfl
  have htext : ∀ {c : Cache} {compiled : Compiled},
      compile r.options
        (some fun selector => c.setsFor selector true now) snapshot.policies snapshot.services
        = .ok compiled → (r.renderSnapshot snapshot (some c) now).map Prod.fst
        = (r.ruleset (some c) now compiled).render.mapError .prefixInvalid := by
    intro c compiled hcompiled
    unfold renderSnapshot
    simp only [Option.map_some, hcompiled]
    show (((r.ruleset (some c) now compiled).render.mapError Error.prefixInvalid).bind fun text =>
      Except.ok (text, compiled)).map Prod.fst = _
    cases (r.ruleset (some c) now compiled).render with
    | error e => rfl
    | ok text => rfl
  rw [htext hcompiled, htext hcompiled', hruleset, Ruleset.render_of_undated _ h]

/-- **What a cycle renders is the same where the same is found at its time, times apart.** -/
theorem rendered_of_undated (r : Reconciler) (hc : c.Coherent) (hd : d.Coherent)
    (h : (c.setsForRendering w.clock).map NamedSet.undated =
      (d.setsForRendering w.clock).map NamedSet.undated) :
    (r.rendered (some c) w).map Prod.fst = (r.rendered (some d) w).map Prod.fst := by
  rw [rendered_eq, rendered_eq]
  cases Snapshot.ofRead r.snapshotPath (w.disk.read r.snapshotPath) with
  | error e => simp only [Except.bind]
  | ok snapshot =>
    simp only [Except.bind, Option.map_some]
    refine r.renderSnapshot_of_undated snapshot (hc.purge w.clock) (hd.purge w.clock) ?_
    rw [Cache.setsForRendering_purge (Instant.le_refl _),
      Cache.setsForRendering_purge (Instant.le_refl _), h]

/--
**Where a response says that nothing changed, nothing has to be rendered, unless an address is
given for no time at all.**  Take any cache that can occur, and a response that says so.  At its
time the same sets are rendered as before, with the same names, host names, families and addresses
in the same order, if and only if it gives no address for no time at all; and then every cycle at
that time renders the same text as before.
-/
theorem unchanged_renders_same_iff (forwarder : Endpoint) (operations : List Cache.Operation)
    {seen : Instant} {m : Dns.Message} {c' : Cache}
    (h : ((Cache.fresh forwarder).history operations).apply seen m = .ok (c', false)) :
    let c := (Cache.fresh forwarder).history operations
    ((c'.setsForRendering seen).map NamedSet.undated =
      (c.setsForRendering seen).map NamedSet.undated ↔
      ∀ a, ¬ m.Gives a 0) ∧
    ((∀ a, ¬ m.Gives a 0) → ∀ (r : Reconciler) (w : World), w.clock = seen →
      (r.rendered (some c') w).map Prod.fst = (r.rendered (some c) w).map Prod.fst) := by
  have hc : ((Cache.fresh forwarder).history operations).Coherent :=
    ((Cache.Consistent.fresh forwarder).history operations).toCoherent
  generalize (Cache.fresh forwarder).history operations = c at h hc
  have hsets := hc.undated_setsForRendering_apply_iff h
  refine ⟨hsets, fun hgives r w hclock => ?_⟩
  obtain ⟨o, -, heq⟩ := Cache.apply_eq_ok.1 h
  have hcache : (c.observe seen o).1 = c' := congrArg Prod.fst heq
  have hc' : c'.Coherent := hcache ▸ hc.observe seen o
  refine r.rendered_of_undated hc' hc ?_
  rw [hclock]
  exact hsets.2 hgives

/-- A name is answered once. -/
def sampleAnswered : List Cache.Operation :=
  [.event (.response (.ofSeconds 1700000000) (Cache.sampleAnswer "example.com" 60))]

/-- The same answer comes once more, with less time to live: nothing changed, the set is over
earlier, and the same text is rendered. -/
theorem unchanged_renders_same_sampleAnswered :
    let c := (Cache.fresh default).history sampleAnswered
    let seen := Instant.ofSeconds 1700000010
    ∃ c', c.apply seen (Cache.sampleAnswer "Example.com" 30) = .ok (c', false) ∧
      (c.setsForRendering seen).map (·.expiration) = [.ofSeconds 1700000060] ∧
      (c'.setsForRendering seen).map (·.expiration) = [.ofSeconds 1700000040] ∧
      (c'.setsForRendering seen).map NamedSet.undated =
        (c.setsForRendering seen).map NamedSet.undated ∧
      (sample.rendered (some c') { sampleWorld with clock := seen }).map Prod.fst
        = (sample.rendered (some c) { sampleWorld with clock := seen }).map Prod.fst := by
  intro c seen
  have happly : c.apply seen (Cache.sampleAnswer "Example.com" 30)
      = .ok ((c.observe seen ⟨"example.com.", some .a, [(Cache.sampleAddress, 30)]⟩).1, false) := by
        decide +kernel
  have hgives : ∀ a, ¬ (Cache.sampleAnswer "Example.com" 30).Gives a 0 := by
    rintro a ⟨r, hr, -, httl⟩
    rw [List.mem_singleton.1 hr] at httl
    exact nomatch httl
  obtain ⟨hsets, htext⟩ := unchanged_renders_same_iff default sampleAnswered happly
  exact ⟨_, happly, by decide +kernel, by decide +kernel, hsets.2 hgives, htext hgives sample _ rfl⟩

/-- The same answer comes once more, for no time at all: it says that nothing changed, and the set
that was rendered is rendered no more. -/
theorem unchanged_renders_less_sampleAnswered :
    let c := (Cache.fresh default).history sampleAnswered
    let seen := Instant.ofSeconds 1700000010
    ∃ c', c.apply seen (Cache.sampleAnswer "example.com" 0) = .ok (c', false) ∧
      (c.setsForRendering seen).map (·.setName) = ["fqdn_example_com_v4"] ∧
      c'.setsForRendering seen = [] ∧
      (c'.setsForRendering seen).map NamedSet.undated ≠
        (c.setsForRendering seen).map NamedSet.undated := by
  intro c seen
  have happly : c.apply seen (Cache.sampleAnswer "example.com" 0)
      = .ok ((c.observe seen ⟨"example.com.", some .a, [(Cache.sampleAddress, 0)]⟩).1, false) := by
        decide +kernel
  exact ⟨_, happly, by decide +kernel, by decide +kernel, by decide +kernel⟩

end Reconciler

end Firewall
