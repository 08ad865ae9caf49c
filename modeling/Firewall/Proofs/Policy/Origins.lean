/-
Where the lines of a compilation come from.

A compilation lists texts, and equal texts once, so a text does not say by itself which rule it was
made from.  Each text is that of a line which a rule gives: on the way in an ingress rule or a
service, on the way out a rule to prefixes or a rule about host names.
-/
import Firewall.Proofs.Policy.Names

namespace Firewall

namespace Compile

/-- A text is that of a line which an ingress rule of the policies gives. -/
def OfIngressRule (options : CompileOptions) (policies : List Policy) (text : String) : Prop :=
  ∃ p ∈ policies, ∃ r ∈ p.ingress, ∃ f, ingressRule options p.name r = .ok f ∧
  ∃ l ∈ f.ingress, l.text = text

/-- A text is that of a line which a service gives. -/
def OfService (options : CompileOptions) (services : List Service) (text : String) : Prop :=
  ∃ s ∈ services, ∃ l ∈ (service options s).ingress, l.text = text

/-- A text is that of a line which an egress rule of the policies gives, to prefixes or to any
destination. -/
def OfPrefixRule (options : CompileOptions) (view : Option View) (policies : List Policy)
    (text : String) : Prop :=
  ∃ p ∈ policies, ∃ r ∈ p.egress, r.selectors = [] ∧
    ∃ f, egressRule options view p.name r = .ok f ∧ ∃ l ∈ f.egress, l.text = text

/-- A text is that of a line which an egress rule of the policies gives, to host names. -/
def OfNameRule (options : CompileOptions) (view : Option View) (policies : List Policy)
    (text : String) : Prop :=
  ∃ p ∈ policies, ∃ r ∈ p.egress, r.selectors ≠ [] ∧
    ∃ f, egressRule options view p.name r = .ok f ∧ ∃ l ∈ f.egress, l.text = text

end Compile

variable {options : CompileOptions} {view : Option View} {policies : List Policy}
  {services : List Service}

theorem eq_of_compile_eq_ok {compiled : Compiled}
    (h : compile options view policies services = .ok compiled) :
    compiled = (compileParts options view policies services).compiled := by
  unfold compile at h
  split at h
  · exact nomatch h
  · exact (Except.ok.inj h).symm

/-- A compilation is given up only where a policy has rules for host names and there is no cache. -/
theorem exists_compile_eq_ok_iff :
    (∃ compiled, compile options view policies services = .ok compiled) ↔
    view.isSome = true ∨ ∀ p ∈ policies, p.hasNameRules = false := by
  have hlacks : lacksCache view policies = none ↔
      view.isSome = true ∨ ∀ p ∈ policies, p.hasNameRules = false := by
    unfold lacksCache
    by_cases hview : view.isSome = true
    · simp [hview]
    · simp [hview]
  rw [← hlacks]
  unfold compile
  cases lacksCache view policies <;> simp

theorem mem_ingress_compiled {f : Fragment} {t : String} :
    t ∈ f.compiled.ingress ↔ ∃ l ∈ f.ingress, l.text = t := by
  rw [show f.compiled.ingress = uniqueSorted (f.ingress.map Line.text) from rfl, uniqueSorted,
    Ascending.mem_ofList]
  exact List.mem_map

/-- **What is let in** is what an ingress rule or a service lets in. -/
theorem mem_ingress_iff {compiled : Compiled}
    (h : compile options view policies services = .ok compiled) {t : String} :
    t ∈ compiled.ingress ↔
      Compile.OfIngressRule options policies t ∨ Compile.OfService options services t := by
  have hparts : ∀ l, l ∈ (compileParts options view policies services).ingress ↔
      l ∈ (compileParts options view policies []).ingress ∨
        ∃ s ∈ services, l ∈ (Compile.service options s).ingress := by
    intro l
    have hservices : l ∈ (Fragment.concat (services.map (Compile.service options))).ingress ↔
        ∃ s ∈ services, l ∈ (Compile.service options s).ingress := by
      rw [Fragment.mem_ingress_concat]
      simp
    show l ∈ Fragment.ingress _ ++ Fragment.ingress _ ↔ l ∈ Fragment.ingress _ ++ [] ∨ _
    rw [List.append_nil, List.mem_append, hservices]
  rw [eq_of_compile_eq_ok h, mem_ingress_compiled]
  simp only [hparts, mem_ingress_compileParts]
  constructor
  · rintro ⟨l, ⟨p, hp, r, hr, f, hok, hl⟩ | ⟨s, hs, hl⟩, htext⟩
    · exact .inl ⟨p, hp, r, hr, f, hok, l, hl, htext⟩
    · exact .inr ⟨s, hs, l, hl, htext⟩
  · rintro (⟨p, hp, r, hr, f, hok, l, hl, htext⟩ | ⟨s, hs, l, hl, htext⟩)
    · exact ⟨l, .inl ⟨p, hp, r, hr, f, hok, hl⟩, htext⟩
    · exact ⟨l, .inr ⟨s, hs, hl⟩, htext⟩

/-- **What is let out** is what a rule to prefixes or a rule about host names lets out. -/
theorem mem_egress_iff {compiled : Compiled}
    (h : compile options view policies services = .ok compiled) {t : String} :
    t ∈ compiled.egress ↔
      Compile.OfPrefixRule options view policies t ∨
      Compile.OfNameRule options view policies t := by
  rw [eq_of_compile_eq_ok h, mem_egress_compiled]
  simp only [mem_egress_compileParts]
  constructor
  · rintro ⟨l, ⟨p, hp, r, hr, f, hok, hl⟩, htext⟩
    by_cases hselectors : r.selectors = []
    · exact .inl ⟨p, hp, r, hr, hselectors, f, hok, l, hl, htext⟩
    · exact .inr ⟨p, hp, r, hr, hselectors, f, hok, l, hl, htext⟩
  · rintro (⟨p, hp, r, hr, -, f, hok, l, hl, htext⟩ | ⟨p, hp, r, hr, -, f, hok, l, hl, htext⟩)
    · exact ⟨l, ⟨p, hp, r, hr, f, hok, hl⟩, htext⟩
    · exact ⟨l, ⟨p, hp, r, hr, f, hok, hl⟩, htext⟩

end Firewall
