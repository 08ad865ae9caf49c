/-
What a compilation records.

Each selector of a rule about host names that is taken is looked up once, and what is found is
recorded for the policy under the text of the selector (`states_compileParts`).  A later look-up
of the same policy and text takes the place of an earlier one, so what stays is what the last of
them found (`recorded?_compiled`).
-/
import Firewall.Proofs.Order.Dictionary
import Firewall.Proofs.Policy.Lines
import Mathlib.Data.List.Induction

namespace Firewall

namespace PolicyStates

/-- What is recorded for a policy under the text of a selector. -/
def recorded? (states : PolicyStates) (policy text : String) : Option (List NamedSet) :=
  (states.get? policy).bind (·.get? text)

/-- A look-up is recorded for its policy and text, and leaves the others. -/
theorem recorded?_record (states : PolicyStates) (entry : String × String × List NamedSet)
    (policy text : String) :
    (states.record entry).recorded? policy text
      = if entry.1 = policy ∧ entry.2.1 = text then some entry.2.2
        else states.recorded? policy text := by
  unfold recorded? record Dictionary.alter
  by_cases hpolicy : entry.1 = policy
  · rw [hpolicy, Dictionary.get?_insert_self, Option.bind_some]
    by_cases htext : entry.2.1 = text
    · rw [htext, Dictionary.get?_insert_self, if_pos ⟨rfl, rfl⟩]
    · rw [Dictionary.get?_insert_of_ne htext, if_neg fun h => htext h.2]
      cases states.get? policy <;> rfl
  · rw [Dictionary.get?_insert_of_ne hpolicy, if_neg fun h => hpolicy h.1]

/-- **Of several look-ups for one policy and text the last is recorded.** -/
theorem recorded?_foldl_record (entries : List (String × String × List NamedSet))
    (policy text : String) :
    (entries.foldl record (∅ : Dictionary String NameState)).recorded? policy text
      = (entries.reverse.find? fun e => e.1 = policy ∧ e.2.1 = text).map (·.2.2) := by
  induction entries using List.reverseRecOn with
  | nil => rfl
  | append_singleton done entry ih =>
    rw [List.foldl_append, List.foldl_cons, List.foldl_nil, recorded?_record, ih,
      List.reverse_append, List.reverse_singleton, List.singleton_append, List.find?_cons]
    by_cases hlast : entry.1 = policy ∧ entry.2.1 = text
    · rw [if_pos hlast, decide_eq_true hlast, Option.map_some]
    · rw [if_neg hlast, decide_eq_false hlast]

/-- A set is listed under a policy, for some selector. -/
def Lists (states : PolicyStates) (policy : String) (set : NamedSet) : Prop :=
  ∃ text sets, states.recorded? policy text = some sets ∧ set ∈ sets

theorem exists_entry_of_lists {entries : List (String × String × List NamedSet)} {policy : String}
    {set : NamedSet}
    (h : Lists (entries.foldl record (∅ : Dictionary String NameState)) policy set) :
    ∃ entry ∈ entries, set ∈ entry.2.2 := by
  obtain ⟨text, sets, hrecorded, hset⟩ := h
  rw [recorded?_foldl_record] at hrecorded
  obtain ⟨entry, hfound, rfl⟩ := Option.map_eq_some_iff.1 hrecorded
  exact ⟨entry, List.mem_reverse.1 (List.mem_of_find?_eq_some hfound), hset⟩

end PolicyStates

/-! ### Which look-ups there are -/

namespace Fragment

theorem states_concat (fs : List Fragment) : (concat fs).states = fs.flatMap (·.states) := by
  induction fs with
  | nil => rfl
  | cons f rest ih =>
    rw [List.flatMap_cons, ← ih]
    rfl

theorem states_concat_mapIdx {α : Type} {rules : List α} {result : Nat → α → Fragment}
    {states : α → List (String × String × List NamedSet)}
    (h : ∀ i a, (result i a).states = states a) :
    (concat (rules.mapIdx result)).states = rules.flatMap states := by
  have hmap : (rules.mapIdx result).map (·.states) = rules.map states :=
    List.ext_getElem (by simp) (by simp [h])
  rw [states_concat, List.flatMap_def, hmap, List.flatMap_def]

end Fragment

namespace Compile

variable {options : CompileOptions} {view : View}

/-- The selectors of the rules that are taken, in the order in which they are looked up,
each with the name of its policy. -/
def selectorsTaken (options : CompileOptions) (view : Option View) (policies : List Policy) :
    List (String × Selector) :=
  policies.flatMap fun p => p.egress.flatMap fun r =>
    if (egressRule options view p.name r).isOk then r.selectors.map fun s => (p.name, s) else []

theorem mem_selectorsTaken {view : Option View} {policies : List Policy} {p : Policy}
    (hp : p ∈ policies) {r : EgressRule} (hr : r ∈ p.egress) {f : Fragment}
    (hok : egressRule options view p.name r = .ok f) {s : Selector} (hs : s ∈ r.selectors) :
    (p.name, s) ∈ selectorsTaken options view policies := by
  refine List.mem_flatMap.2 ⟨p, hp, List.mem_flatMap.2 ⟨r, hr, ?_⟩⟩
  rw [if_pos (Attempt.isOk_iff.2 ⟨f, hok⟩)]
  exact List.mem_map.2 ⟨s, hs, rfl⟩

theorem states_ingressRule {policy : String} {r : IngressRule} {f : Fragment}
    (h : ingressRule options policy r = .ok f) : f.states = [] := by
  obtain ⟨ports, targets, -, -, rfl⟩ := ingressRule_eq_ok.1 h
  rfl

theorem states_egressRule {policy : String} {r : EgressRule} {f : Fragment}
    (h : egressRule options (some view) policy r = .ok f) :
    f.states = r.selectors.map fun s => (policy, s.text, view s) := by
  by_cases hr : r.selectors = []
  · obtain ⟨ports, targets, -, -, rfl⟩ := (egressRule_eq_ok_of_nil hr).1 h
    rw [hr]
    rfl
  · obtain ⟨-, ⟨ports, -, rfl⟩, -⟩ := (egressRule_eq_ok_of_ne_nil hr).1 h
    dsimp only [Option.elim]
    rw [Fragment.states_concat, List.flatMap_map, List.map_eq_flatMap]
    rfl

/-- A policy looks up the selectors of its egress rules that are taken. -/
theorem states_policy (p : Policy) : (policy options (some view) p).states
    = (selectorsTaken options (some view) [p]).map fun e => (e.1, e.2.text, view e.2) := by
  have hingress : ∀ i r,
      (Fragment.ofResult p.name (place "ingress" i) (ingressRule options p.name r)).states
      = [] := by
    intro i r
    cases hok : ingressRule options p.name r with
    | ok f => exact states_ingressRule hok
    | error refusal => rfl
  have hegress : ∀ i r, (Fragment.ofResult p.name (place "egress" i)
      (egressRule options (some view) p.name r)).states =
        (if (egressRule options (some view) p.name r).isOk
        then r.selectors.map fun s => (p.name, s)
          else []).map fun e => (e.1, e.2.text, view e.2) := by
    intro i r
    cases hok : egressRule options (some view) p.name r with
    | ok f =>
      refine (states_egressRule hok).trans ?_
      rw [if_pos (Attempt.isOk_iff.2 ⟨f, rfl⟩), List.map_map]
      rfl
    | error refusal => rfl
  show Fragment.states _ ++ Fragment.states _ = _
  rw [Fragment.states_concat_mapIdx hingress, Fragment.states_concat_mapIdx hegress, selectorsTaken,
    List.flatMap_singleton, List.map_flatMap]
  simp

theorem states_service (s : Service) : (service options s).states = [] := by
  have hresult :
      (Fragment.ofResult s.qualifiedName "service" (serviceRule options s)).states = [] := by
    cases hok : serviceRule options s with
    | ok f =>
      obtain ⟨sources, destinations, -, -, -, rfl⟩ := of_serviceRule_eq_ok hok
      rfl
    | error refusal => rfl
  unfold service
  split
  · exact hresult
  · exact hresult
  · rfl

end Compile

variable {options : CompileOptions} {view : View}

/-- **A compilation looks up the selectors of the rules that are taken**, and nothing else. -/
theorem states_compileParts (policies : List Policy) (services : List Service) :
    (compileParts options (some view) policies services).states
      = (Compile.selectorsTaken options (some view) policies).map fun e =>
        (e.1, e.2.text, view e.2) := by
  have hservices : (Fragment.concat (services.map (Compile.service options))).states = [] := by
    rw [Fragment.states_concat, List.flatMap_map]
    simp [Compile.states_service]
  show Fragment.states _ ++ Fragment.states _ = _
  rw [hservices, List.append_nil, Fragment.states_concat, List.flatMap_map]
  simp only [Compile.states_policy]
  rw [← List.map_flatMap]
  simp [Compile.selectorsTaken]

/-- The last selector of a policy with a text. -/
def lastSelector? (selectors : List (String × Selector)) (policy text : String) : Option Selector :=
  (selectors.reverse.find? fun e => e.1 = policy ∧ e.2.text = text).map (·.2)

theorem of_lastSelector?_eq_some {selectors : List (String × Selector)} {policy text : String}
    {s : Selector} (h : lastSelector? selectors policy text = some s) :
    (policy, s) ∈ selectors ∧ s.text = text := by
  obtain ⟨e, hfound, rfl⟩ := Option.map_eq_some_iff.1 h
  obtain ⟨rfl, htext⟩ : e.1 = policy ∧ e.2.text = text := by simpa using List.find?_some hfound
  exact ⟨List.mem_reverse.1 (List.mem_of_find?_eq_some hfound), htext⟩

theorem exists_lastSelector? {selectors : List (String × Selector)} {policy : String} {s : Selector}
    (h : (policy, s) ∈ selectors) : ∃ t, lastSelector? selectors policy s.text = some t := by
  have hsome : (selectors.reverse.find? fun e => e.1 = policy ∧ e.2.text = s.text).isSome = true :=
    List.find?_isSome.2 ⟨(policy, s), List.mem_reverse.2 h, decide_eq_true ⟨rfl, rfl⟩⟩
  obtain ⟨e, he⟩ := Option.isSome_iff_exists.1 hsome
  exact ⟨e.2, by rw [lastSelector?, he, Option.map_some]⟩

/-- **What is recorded for a policy and a text is what the last selector of that text finds.** -/
theorem recorded?_compiled (policies : List Policy) (services : List Service)
    (policy text : String) :
    (compileParts options (some view) policies services).compiled.states.recorded? policy text
      = (lastSelector? (Compile.selectorsTaken options (some view) policies) policy text).map
        view := by
  show PolicyStates.recorded?
    (List.foldl _ _ (compileParts options (some view) policies services).states) _ _ = _
  rw [states_compileParts, PolicyStates.recorded?_foldl_record, ← List.map_reverse, List.find?_map,
    lastSelector?, Option.map_map, Option.map_map]
  rfl

end Firewall
