/-
Compiling two lists one after the other is compiling each.

A compilation gathers what all rules give, and only then sorts the lines and the
refusals and keeps the last look-up of each selector.  Gathering is appending, and what
is made of two lists that were appended is made of each of them first: lines and
refusals are united, and of look-ups the later counts.

A rule that is refused adds its refusal to what is gathered and nothing else
(`Fragment.given_ofResult`). So which of the rules that are refused stands in its place makes no
difference to the lines, nor to what is recorded.
-/
import Firewall.Proofs.Policy.Meaning
import Firewall.Proofs.Policy.Origins
import Firewall.Proofs.State.Recorded

namespace Firewall

/-! ### Two compilations as one -/

/-- What two compilations record, one after the other: of two look-ups for one
policy and text the later counts. -/
def PolicyStates.followedBy (states later : PolicyStates) : PolicyStates :=
  Dictionary.joinWith (Dictionary.joinWith fun _ sets => sets) states later

/-- Two compilations, one after the other. -/
def Compiled.followedBy (c later : Compiled) : Compiled where
  ingress := c.ingress.union later.ingress
  egress := c.egress.union later.egress
  states := c.states.followedBy later.states
  rejected := c.rejected.union later.rejected

namespace PolicyStates

/-- **The later look-up counts.** -/
theorem recorded?_followedBy (states later : PolicyStates) (policy text : String) :
    (states.followedBy later).recorded? policy text
      = (later.recorded? policy text).or (states.recorded? policy text) := by
  unfold recorded? followedBy
  rw [Dictionary.get?_joinWith]
  cases states.get? policy with
  | none => simp
  | some state =>
    cases later.get? policy with
    | none => simp
    | some state' =>
      show (Dictionary.joinWith _ state state').get? text = (state'.get? text).or (state.get? text)
      rw [Dictionary.get?_joinWith]
      cases state.get? text <;> cases state'.get? text <;> rfl

theorem followedBy_record (states later : PolicyStates) (entry : String × String × List NamedSet) :
    states.followedBy (later.record entry) = (states.followedBy later).record entry := by
  have hinsert : ∀ s t : NameState,
      Dictionary.joinWith (fun _ sets => sets) s (t.insert entry.2.1 entry.2.2)
      = (Dictionary.joinWith (fun _ sets => sets) s t).insert entry.2.1 entry.2.2 := by
    intro s t
    refine Dictionary.ext_get? fun text => ?_
    rw [Dictionary.get?_joinWith, Dictionary.get?_insert, Dictionary.get?_insert,
      Dictionary.get?_joinWith]
    split
    · cases s.get? text <;> rfl
    · rfl
  refine Dictionary.ext_get? fun policy => ?_
  unfold followedBy record Dictionary.alter
  rw [Dictionary.get?_joinWith, Dictionary.get?_insert, Dictionary.get?_insert,
    Dictionary.get?_joinWith, Dictionary.get?_joinWith]
  split
  · rename_i hpolicy
    rw [Std.LawfulEqOrd.eq_of_compare hpolicy]
    cases states.get? policy with
    | none => cases later.get? policy <;> rfl
    | some state =>
      cases later.get? policy with
      | none => exact congrArg some (hinsert state ∅)
      | some state' => exact congrArg some (hinsert state state')
  · rfl

theorem foldl_record_append (es fs : List (String × String × List NamedSet)) :
    (es ++ fs).foldl record (∅ : Dictionary String NameState)
      = (es.foldl record (∅ : Dictionary String NameState)).followedBy
          (fs.foldl record (∅ : Dictionary String NameState)) := by
  induction fs using List.reverseRecOn with
  | nil => rw [List.append_nil]; rfl
  | append_singleton fs f ih =>
    rw [← List.append_assoc, List.foldl_append, List.foldl_cons, List.foldl_nil, ih,
      List.foldl_append, List.foldl_cons, List.foldl_nil, followedBy_record]

end PolicyStates

namespace Fragment

theorem append_eq (a b : Fragment) :
    a ++ b = ⟨a.ingress ++ b.ingress, a.egress ++ b.egress, a.states ++ b.states,
      a.rejected ++ b.rejected⟩ := rfl

theorem append_assoc (a b c : Fragment) : a ++ b ++ c = a ++ (b ++ c) := by
  simp [append_eq]

theorem concat_append (fs gs : List Fragment) : concat (fs ++ gs) = concat fs ++ concat gs := by
  induction fs with
  | nil => rfl
  | cons f rest ih =>
    show f ++ concat (rest ++ gs) = f ++ concat rest ++ concat gs
    rw [ih, append_assoc]

/-- **What two fragments give one after the other** is what each of them
gives, one after the other. -/
theorem compiled_append (a b : Fragment) :
    (a ++ b).compiled = a.compiled.followedBy b.compiled := by
  have hlines : ∀ ls ms : List Line, uniqueSorted ((ls ++ ms).map Line.text)
      = (uniqueSorted (ls.map Line.text)).union (uniqueSorted (ms.map Line.text)) := by
    intro ls ms
    refine Ascending.ext_mem fun t => ?_
    simp only [uniqueSorted, Ascending.mem_union, Ascending.mem_ofList, List.map_append,
      List.mem_append]
  have hrejected : Ascending.ofList (a.rejected ++ b.rejected)
      = (Ascending.ofList a.rejected).union (.ofList b.rejected) :=
    Ascending.ext_mem fun t => by simp
  simp only [compiled, Compiled.followedBy, append_eq, hlines, hrejected,
    PolicyStates.foldl_record_append]

theorem compiled_append_comm {a b : Fragment} (h : b.states = []) :
    (a ++ b).compiled = (b ++ a).compiled := by
  have hlines : ∀ ls ms : List Line,
      uniqueSorted ((ls ++ ms).map Line.text) = uniqueSorted ((ms ++ ls).map Line.text) := by
    intro ls ms
    refine Ascending.ext_mem fun t => ?_
    simp only [uniqueSorted, Ascending.mem_ofList, List.map_append, List.mem_append, or_comm]
  have hrejected :
      Ascending.ofList (a.rejected ++ b.rejected) = .ofList (b.rejected ++ a.rejected) :=
    Ascending.ext_mem fun t => by simp [or_comm]
  simp only [compiled, append_eq, hlines a.ingress, hlines a.egress, hrejected, h, List.append_nil,
    List.nil_append]

end Fragment

section Append

variable (options : CompileOptions) (view : Option View) (policies policies' : List Policy)
  (services services' : List Service)

theorem compiled_compileParts_append :
    (compileParts options view (policies ++ policies') (services ++ services')).compiled
      = (compileParts options view policies services).compiled.followedBy
          (compileParts options view policies' services').compiled := by
  unfold compileParts
  rw [List.map_append, List.map_append, Fragment.concat_append, Fragment.concat_append]
  generalize Fragment.concat (policies.map (Compile.policy options view)) = p
  generalize Fragment.concat (policies'.map (Compile.policy options view)) = p'
  have hstates : (Fragment.concat (services.map (Compile.service options))).states = [] := by
    rw [Fragment.states_concat, List.flatMap_map]
    simp [Compile.states_service]
  generalize Fragment.concat (services.map (Compile.service options)) = s at hstates
  generalize Fragment.concat (services'.map (Compile.service options)) = s'
  calc ((p ++ p') ++ (s ++ s')).compiled
      = (p ++ ((p' ++ s) ++ s')).compiled := by simp only [Fragment.append_assoc]
    _ = p.compiled.followedBy ((s ++ p').compiled.followedBy s'.compiled) := by
        rw [Fragment.compiled_append, Fragment.compiled_append,
          Fragment.compiled_append_comm hstates]
    _ = ((p ++ s) ++ (p' ++ s')).compiled := by
        rw [← Fragment.compiled_append, ← Fragment.compiled_append]
        simp only [Fragment.append_assoc]
    _ = (p ++ s).compiled.followedBy (p' ++ s').compiled := Fragment.compiled_append _ _

/-- **Compiling two lists is compiling the first, and then the second.** -/
theorem compile_append : compile options view (policies ++ policies') (services ++ services') = (do
    let c ← compile options view policies services
    let later ← compile options view policies' services'
    return c.followedBy later) := by
  have hlacks : lacksCache view (policies ++ policies')
      = (lacksCache view policies).or (lacksCache view policies') := by
    unfold lacksCache
    split
    · rfl
    · exact List.find?_append
  unfold compile
  rw [hlacks, compiled_compileParts_append]
  cases lacksCache view policies with
  | some p => rfl
  | none => cases lacksCache view policies' <;> rfl

end Append

/-! ### Rules that are refused -/

namespace Fragment

/-- What is given, without the refusals. -/
def given (f : Fragment) : Fragment := { f with rejected := [] }

theorem given_concat (fs : List Fragment) : (concat fs).given = concat (fs.map given) := by
  induction fs with
  | nil => rfl
  | cons f rest ih =>
    show f.given ++ (concat rest).given = f.given ++ concat (rest.map given)
    rw [ih]

/-- What a rule gives if it is taken. -/
def givenBy (result : Except Refusal Fragment) : Fragment := (result.toOption.map given).getD {}

/-- **A rule that is refused gives nothing.** -/
theorem givenBy_of_refused {result : Except Refusal Fragment} (h : result.isOk = false) :
    givenBy result = {} := by
  cases result with
  | ok f => exact nomatch h
  | error refusal => rfl

theorem given_ofResult (object rule : String) (result : Except Refusal Fragment) :
    (ofResult object rule result).given = givenBy result := by
  cases result <;> rfl

theorem given_concat_mapIdx {α : Type} (object kind : String) (result : α → Except Refusal Fragment)
    (rules : List α) :
    (concat (rules.mapIdx fun i a => ofResult object (Compile.place kind i) (result a))).given
      = concat (rules.map fun a => givenBy (result a)) := by
  rw [given_concat]
  congr 1
  exact List.ext_getElem (by simp) (by simp [given_ofResult])

end Fragment

namespace Compile

variable {options : CompileOptions} {view : Option View}

/-- A service is refused. -/
def Refuses (options : CompileOptions) (s : Service) : Prop :=
  (s.type = .loadBalancer ∨ s.type = .nodePort) ∧ (serviceRule options s).isOk = false

theorem given_service {s : Service} (h : Refuses options s) : (service options s).given = {} := by
  obtain ⟨htype, hrefused⟩ := h
  have hservice :
      service options s = .ofResult s.qualifiedName "service" (serviceRule options s) := by
    unfold service
    rcases htype with htype | htype <;> rw [htype]
  rw [hservice, Fragment.given_ofResult, Fragment.givenBy_of_refused hrefused]

theorem given_policy (p : Policy) : (policy options view p).given
    = .concat (p.ingress.map fun r => .givenBy (ingressRule options p.name r))
      ++ .concat (p.egress.map fun r => .givenBy (egressRule options view p.name r)) := by
  rw [← Fragment.given_concat_mapIdx p.name "ingress",
    ← Fragment.given_concat_mapIdx p.name "egress"]
  rfl

/-- One rule that is refused, or one service, is replaced by another that is refused. -/
inductive Replaces (options : CompileOptions) (view : Option View) :
    List Policy → List Service → List Policy → List Service → Prop
  | ingress (before after : List Policy) (services : List Service) (p : Policy)
    (front back : List IngressRule)
      {r r' : IngressRule} (h : (ingressRule options p.name r).isOk = false)
      (h' : (ingressRule options p.name r').isOk = false) :
      Replaces options view (before ++ { p with ingress := front ++ r :: back } :: after) services
        (before ++ { p with ingress := front ++ r' :: back } :: after) services
  | egress (before after : List Policy) (services : List Service) (p : Policy)
    (front back : List EgressRule)
      {r r' : EgressRule} (h : (egressRule options view p.name r).isOk = false)
      (h' : (egressRule options view p.name r').isOk = false) :
      Replaces options view (before ++ { p with egress := front ++ r :: back } :: after) services
        (before ++ { p with egress := front ++ r' :: back } :: after) services
  | service (policies : List Policy) (front back : List Service) {s s' : Service}
    (h : Refuses options s)
      (h' : Refuses options s') :
      Replaces options view policies (front ++ s :: back) policies (front ++ s' :: back)

/-- **What takes the place of a refused rule, and is refused too,
changes nothing of what is given.** -/
theorem Replaces.given_eq {policies policies' : List Policy} {services services' : List Service}
    (h : Replaces options view policies services policies' services') :
    (compileParts options view policies services).given =
      (compileParts options view policies' services').given := by
  have hparts : ∀ ps ss, (compileParts options view ps ss).given
      = .concat (ps.map fun p => (policy options view p).given)
        ++ .concat (ss.map fun s => (Compile.service options s).given) := by
    intro ps ss
    show (Fragment.concat _).given ++ (Fragment.concat _).given = _
    rw [Fragment.given_concat, Fragment.given_concat, List.map_map, List.map_map]
    rfl
  rw [hparts, hparts]
  cases h with
  | ingress before after services p front back hr hr' =>
    simp only [List.map_append, List.map_cons, given_policy, Fragment.givenBy_of_refused hr,
      Fragment.givenBy_of_refused hr']
  | egress before after services p front back hr hr' =>
    simp only [List.map_append, List.map_cons, given_policy, Fragment.givenBy_of_refused hr,
      Fragment.givenBy_of_refused hr']
  | service policies front back hs hs' =>
    simp only [List.map_append, List.map_cons, given_service hs, given_service hs']

end Compile

/--
**Compilation is compositional, and a refusal stays where it is.**  Two lists of policies and
of services compile to what each part compiles to, one after the other, and of look-ups for
one policy and text the later counts; there is no result exactly if a part has none, which is
where there is no cache and a policy has a rule about host names.  Where there are results, a
rule or a service that is refused may be replaced by any other that is refused, without a
change of the lines or of what is recorded.
-/
theorem compile_compositional (options : CompileOptions) (view : Option View)
    (policies policies' : List Policy) (services services' : List Service) :
    (compile options view (policies ++ policies') (services ++ services') = do
      let c ← compile options view policies services
      let later ← compile options view policies' services'
      return c.followedBy later) ∧
    (∀ (c later : Compiled) policy text, (c.followedBy later).states.recorded? policy text
      = (later.states.recorded? policy text).or (c.states.recorded? policy text)) ∧
    ((compile options view (policies ++ policies') (services ++ services')).isOk
      = ((compile options view policies services).isOk &&
        (compile options view policies' services').isOk)) ∧
    ((compile options view policies services).isOk = false ↔
      view = none ∧ ∃ p ∈ policies, ∃ r ∈ p.egress, r.selectors ≠ []) ∧
    ∀ {c c'}, Compile.Replaces options view policies services policies' services' →
      compile options view policies services = .ok c →
      compile options view policies' services' = .ok c' →
      c.ingress = c'.ingress ∧ c.egress = c'.egress ∧ c.states = c'.states := by
  refine ⟨compile_append ..,
    fun c later => PolicyStates.recorded?_followedBy c.states later.states, ?_, ?_, ?_⟩
  · rw [compile_append]
    cases compile options view policies services with
    | error name => rfl
    | ok c => cases compile options view policies' services' <;> rfl
  · rw [← Bool.not_eq_true, Attempt.isOk_iff, exists_compile_eq_ok_iff]
    simp [Policy.hasNameRules, Option.isSome_iff_ne_none]
  · intro c c' hreplaces hc hc'
    rw [eq_of_compile_eq_ok hc, eq_of_compile_eq_ok hc']
    have hgiven := hreplaces.given_eq
    exact ⟨congrArg (·.compiled.ingress) hgiven, congrArg (·.compiled.egress) hgiven,
      congrArg (·.compiled.states) hgiven⟩

/-- Lets in from one prefix, and has another rule. -/
def samplePair (other : IngressRule) : Policy where
  name := "sample"
  ingress := [{ sources := [⟨"10.0.0.0/8", []⟩] }, other]

/-- Whichever rule is refused, for its prefix or for its ports, there is
the one line of the other. -/
theorem samplePair_replaced :
    let r : IngressRule := { sources := [⟨"10.0.0.0/33", []⟩] }
    let r' : IngressRule := { ports := [{ endPort := some dnsPort }] }
    ∃ c c', compile {} none [samplePair r] [] = .ok c ∧
      compile {} none [samplePair r'] [] = .ok c' ∧
      c.ingress.size = 1 ∧ c.ingress = c'.ingress ∧ c.rejected ≠ c'.rejected := by
  intro r r'
  have hc : compile {} none [samplePair r] [] = .ok _ := compile_eq_ok (by decide) _
  have hc' : compile {} none [samplePair r'] [] = .ok _ := compile_eq_ok (by decide) _
  have hreplaces : Compile.Replaces {} none [samplePair r] [] [samplePair r'] [] :=
    .ingress [] [] [] (samplePair r) [{ sources := [⟨"10.0.0.0/8", []⟩] }] []
      (by decide) (by decide)
  obtain ⟨-, -, -, -, hsame⟩ := compile_compositional {} none [samplePair r] [samplePair r'] [] []
  obtain ⟨hingress, -, -⟩ := hsame hreplaces hc hc'
  exact ⟨_, _, hc, hc', by decide +kernel, hingress, by decide +kernel⟩

end Firewall
