/-
A saved state comes back from its file.

The text of a state is the text of a value, and the value comes back from it because it holds
nothing but strings, arrays and objects.  The state comes back from the value: every name is a
string whatever it is made of, addresses and expirations are strings that are read as what they
were, and a dictionary is made from its entries.

What is saved last is all that matters.  The file may have held anything
before, or may not have been there.
-/
import Firewall.Proofs.Address.Text
import Firewall.Proofs.Json.Text
import Firewall.Proofs.Order.Dictionary
import Firewall.Proofs.Reconcile.Cycle
import Firewall.Proofs.State.Store
import Firewall.Proofs.Time.Text

namespace Firewall.Saved

open Json (Value Reads)

/-! ### The value of a state -/

theorem reads_ofMembers {members : List (String × Value)} (h : ∀ m ∈ members, Reads m.2) :
    Reads (.ofMembers members) := by
  refine .object fun m hm => ?_
  obtain ⟨⟨k, v⟩, hmem, rfl⟩ := List.mem_map.1 hm
  exact h (k, v) hmem

theorem reads_ofSet (s : NamedSet) : Reads (ofSet s) := by
  have haddresses : Reads (.array (s.addresses.map fun a => .ofString a.text)) := by
    refine .array fun v hv => ?_
    obtain ⟨a, -, rfl⟩ := List.mem_map.1 hv
    exact .string _
  refine reads_ofMembers ?_
  simp only [List.forall_mem_cons]
  exact ⟨.string _, .string _, haddresses, .string _, .string _, nofun⟩

/-- **The value of a state comes back from its text.** -/
theorem reads_ofStates (states : PolicyStates) : Reads (ofStates states) := by
  refine reads_ofMembers fun m hm => ?_
  obtain ⟨⟨policy, state⟩, -, rfl⟩ := List.mem_map.1 hm
  refine reads_ofMembers fun m hm => ?_
  obtain ⟨⟨selector, sets⟩, -, rfl⟩ := List.mem_map.1 hm
  refine .array fun v hv => ?_
  obtain ⟨s, -, rfl⟩ := List.mem_map.1 hv
  exact reads_ofSet s

/-! ### The state of a value -/

@[simp] theorem string?_ofString (s : String) : string? (.ofString s) = some s := rfl

@[simp] theorem address?_ofString (a : Address) : address? (.ofString a.text) = some a := by
  unfold address?
  rw [string?_ofString, Option.bind_some, Address.ofText?, Address.text, String.toList_ofList,
    Address.read?_chars]

theorem instant?_ofString {t : Instant} (h : t.IsKept) : instant? (.ofString t.text) = some t := by
  unfold instant?
  rw [string?_ofString, Option.bind_some, Instant.ofText?_text h]

@[simp] theorem family?_ofString (f : Family) : family? (.ofString f.keyword) = some f := by
  cases f <;> decide

/-- **A set comes back from its value** if its expiration can be kept. -/
theorem set?_ofSet {s : NamedSet} (h : s.expiration.IsKept) : set? (ofSet s) = some s := by
  have haddresses :
      (s.addresses.map fun a => Value.ofString a.text).mapM address? = some s.addresses :=
    Attempt.mapM_map_eq_some fun a _ => address?_ofString a
  unfold ofSet
  simp [set?, setOfFields?, Value.ofMembers, field?, under, list?, haddresses, instant?_ofString h]

/-- **A dictionary comes back from its members** if its values do. -/
theorem dictionary?_ofMembers {α : Type} {read : Value → Option α} (value : α → Value)
    {d : Dictionary String α} (h : ∀ e ∈ d.entries, read (value e.2) = some e.2) :
    dictionary? read (.ofMembers (d.entries.map fun e => (e.1, value e.2))) = some d := by
  have hmembers :
      (d.entries.map fun e => (some e.1, value e.2)).mapM (member? read) = some d.entries := by
    refine Attempt.mapM_map_eq_some fun e he => ?_
    unfold member?
    rw [h e he]
    rfl
  unfold dictionary? Value.ofMembers
  rw [List.map_map]
  show ((d.entries.map fun e => (some e.1, value e.2)).mapM (member? read)).map _ = _
  rw [hmembers, Option.map_some, Dictionary.ofList_entries]

/-- The sets that selectors of a policy find, as a value. -/
def ofState (state : NameState) : Value :=
  .ofMembers (state.entries.map fun e => (e.1, .array (e.2.map ofSet)))

/-- Every expiration in a state can be kept. -/
def IsKept (states : PolicyStates) : Prop := ∀ s ∈ allSets states, s.expiration.IsKept

instance (states : PolicyStates) : Decidable (IsKept states) :=
  inferInstanceAs (Decidable (∀ s ∈ _, _))

variable {states : PolicyStates}

/-- **A state comes back from its value.** -/
theorem states?_ofStates (h : IsKept states) : states? (ofStates states) = some states := by
  have hset : ∀ e ∈ states.entries, ∀ f ∈ e.2.entries, ∀ s ∈ f.2, set? (ofSet s) = some s := by
    intro e he f hf s hs
    refine set?_ofSet (h s ?_)
    exact List.mem_flatMap.2
      ⟨e.2, List.mem_map_of_mem he, List.mem_flatten.2 ⟨f.2, List.mem_map_of_mem hf, hs⟩⟩
  refine dictionary?_ofMembers ofState fun e he => ?_
  refine dictionary?_ofMembers (fun sets : List NamedSet => .array (sets.map ofSet)) fun f hf => ?_
  exact Attempt.mapM_map_eq_some (hset e he f hf)

/-- **A state comes back from its text.** -/
theorem ofText?_text (h : IsKept states) : ofText? (text states) = some states := by
  unfold ofText? text
  rw [(reads_ofStates states).ofText?_text, Option.bind_some, states?_ofStates h]

/-! ### The file of a state -/

variable {path : String} {w w' : World}

theorem asText_toUTF8 (s : String) : Machine.asText (.ok s.toUTF8) = .ok s := by
  have hread : String.fromUTF8? s.toUTF8 = some s := by
    unfold String.fromUTF8?
    rw [String.toUTF8_eq_toByteArray, dif_pos s.isValidUTF8]
    rfl
  unfold Machine.asText
  simp only [hread]

theorem exec_load_of_contents? (h : IsKept states)
    (hfile : w.disk.contents? path = .ok (text states).toUTF8)
    (hreadable : w.disk.failing (.read path) = none) :
    Work.exec (load path) w = (.ok states, w) := by
  have hread : (Machine.readText path : StateM World _).run w = (.ok (text states), w) := by
    rw [World.run_readText, Disk.read_eq_ok.2 ⟨hreadable, hfile⟩, asText_toUTF8]
  have hrequest : (Machine.unlessMissing <$> Machine.readText path : StateM World _).run w
      = (.ok (some (text states)), w) := by
    rw [StateT.run_map, hread]
    rfl
  unfold load
  rw [Work.exec_bind, Work.exec_request, hrequest]
  simp only [ofText?_text h]
  rfl

/--
**A state that was saved is the state that is loaded,** whatever the file held before: if
its expirations lie in the years that dates are kept in and the file can be read, loading
gives the state and changes nothing.
-/
theorem load_save (hkept : IsKept states) (hsave : Work.exec (save path states) w = (.ok (), w'))
    (hreadable : w'.disk.failing (.read path) = none) :
    Work.exec (load path) w' = (.ok states, w') := by
  rcases save_ends hsave with ⟨-, hfile⟩ | ⟨e, herror, -⟩
  · exact exec_load_of_contents? hkept hfile hreadable
  · exact nomatch herror

/-- A state with names that are escaped, a policy without selectors, a selector without sets, an
expiration after the year 9999 and one inside a leap second, and an IPv4 address within IPv6. -/
def sampleStates : PolicyStates := .ofList [
  ("", ∅),
  ("quoted \"policy\"\n\x01", .ofList [
    ("*.example.com", []),
    ("example.com", [
      ⟨"example.com.", "fqdn_example_com_v4", [], .ofSeconds 253402300800, .v4⟩,
      ⟨"example.com.", "fqdn_example_com_v6", [⟨.v6, 0xFFFFC0000207, by decide⟩],
        ⟨1483228799, 1_500_000_001, .inr (by decide)⟩, .v6⟩])])]

/-- The world in which the file of the state holds something. -/
def sampleHolding (contents : String) : World where
  disk := { nodes := .insert ["state.json"] (.file contents.toUTF8) ∅ }
  clock := default

theorem save_sampleHolding (contents : String) (states : PolicyStates) :
    Work.exec (save "state.json" states) (sampleHolding contents) =
      (.ok (), sampleHolding (text states)) := rfl

/-- What is loaded is what was saved, though the file held no state before. -/
theorem load_save_sampleStates :
    let w' := sampleHolding (text sampleStates)
    IsKept sampleStates ∧ w'.disk.failing (.read "state.json") = none ∧
      Work.exec (save "state.json" sampleStates) (sampleHolding "\x7bnot json") = (.ok (), w') ∧
      Work.exec (load "state.json") w' = (.ok sampleStates, w') := by
  intro w'
  have hkept : IsKept sampleStates := by decide +kernel
  have hsave := save_sampleHolding "\x7bnot json" sampleStates
  exact ⟨hkept, rfl, hsave, load_save hkept hsave rfl⟩

end Firewall.Saved
