/-
Bringing a name into the form in which names are compared, twice.

The form has no blank at its ends, small letters, and a dot at its end (`Qualified`).
`qualify` makes every name have it, and leaves a name alone that has it already; so
whatever went through `fullyQualified` once is not changed by going through it again.
-/
import Firewall.Name.Basic
import Firewall.Proofs.Text.Blank

namespace Firewall.Name

open Text (isBlank isBlank_head?_trim lower trim trimEnd trimStart trim_eq_self)

/-- A name is in the form in which names are compared. -/
structure Qualified (cs : List Char) : Prop where
  /-- There is no blank in front. -/
  front : ∀ c, cs.head? = some c → isBlank c = false
  /-- The letters are small. -/
  small : ∀ c ∈ cs, lower c = c
  /-- A dot ends it. -/
  dotted : cs.getLast? = some '.'

/-! ### Small letters -/

/-- What holds of every small letter holds of what a capital one becomes. -/
theorem capital_cases {P : Char → Prop} {c : Char} (hcapital : 'A' ≤ c ∧ c ≤ 'Z')
    (h : ∀ n < 91, 65 ≤ n → P (Char.ofNat (n + 32))) : P (Char.ofNat (c.toNat + 32)) := by
  have hge : 65 ≤ c.toNat := hcapital.1
  have hle : c.toNat ≤ 90 := hcapital.2
  exact h c.toNat (by omega) hge

theorem lower_lower (c : Char) : lower (lower c) = lower c := by
  by_cases hcapital : 'A' ≤ c ∧ c ≤ 'Z'
  · have hsmall : lower c = Char.ofNat (c.toNat + 32) := if_pos hcapital
    rw [hsmall]
    exact capital_cases (P := fun d => lower d = d) hcapital (by decide)
  · have hsame : lower c = c := if_neg hcapital
    rw [hsame, hsame]

theorem eq_of_lower_eq {c d : Char} (hd : ¬ ('a' ≤ d ∧ d ≤ 'z')) (h : lower c = d) : c = d := by
  by_cases hcapital : 'A' ≤ c ∧ c ≤ 'Z'
  · have hsmall : lower c = Char.ofNat (c.toNat + 32) := if_pos hcapital
    rw [hsmall] at h
    exact absurd (h ▸ capital_cases (P := fun d => 'a' ≤ d ∧ d ≤ 'z') hcapital (by decide)) hd
  · have hsame : lower c = c := if_neg hcapital
    rwa [hsame] at h

theorem isBlank_lower (c : Char) : isBlank (lower c) = isBlank c := by
  by_cases hcapital : 'A' ≤ c ∧ c ≤ 'Z'
  · have hsmall : lower c = Char.ofNat (c.toNat + 32) := if_pos hcapital
    have hletter : isBlank c = false := by
      rw [← Char.ofNat_toNat c]
      have hge : 65 ≤ c.toNat := hcapital.1
      have hle : c.toNat ≤ 90 := hcapital.2
      exact (by decide : ∀ n < 91, 65 ≤ n → isBlank (Char.ofNat n) = false) c.toNat (by omega) hge
    rw [hsmall, hletter]
    exact capital_cases (P := fun d => isBlank d = false) hcapital (by decide)
  · have hsame : lower c = c := if_neg hcapital
    rw [hsame]

theorem map_lower_trim (cs : List Char) : (trim cs).map lower = trim (cs.map lower) := by
  have hdrop : ∀ l : List Char,
      (l.map lower).dropWhile isBlank = (l.dropWhile isBlank).map lower := by
    intro l
    rw [List.dropWhile_map]
    exact congrArg (fun p => (l.dropWhile p).map lower) (funext isBlank_lower)
  simp only [trim, trimStart, trimEnd, hdrop, ← List.map_reverse]

/-! ### The form is reached, and kept -/

theorem qualified_qualify (cs : List Char) : Qualified (qualify cs) := by
  have hfront : ∀ c, ((trim cs).map lower).head? = some c → isBlank c = false := by
    intro c hc
    rw [List.head?_map, Option.map_eq_some_iff] at hc
    obtain ⟨d, hd, rfl⟩ := hc
    exact (isBlank_lower d).trans (isBlank_head?_trim hd)
  have hsmall : ∀ c ∈ (trim cs).map lower, lower c = c := by
    intro c hc
    obtain ⟨d, -, rfl⟩ := List.mem_map.1 hc
    exact lower_lower d
  unfold qualify
  dsimp only
  split
  · rename_i hdotted
    exact ⟨hfront, hsmall, hdotted⟩
  · refine ⟨?_, ?_, List.getLast?_concat⟩
    · intro c hc
      rw [List.head?_append] at hc
      cases hhead : ((trim cs).map lower).head? with
      | none =>
        rw [hhead, Option.none_or] at hc
        cases hc
        decide
      | some d =>
        rw [hhead, Option.some_or] at hc
        cases hc
        exact hfront _ hhead
    · intro c hc
      rcases List.mem_append.1 hc with hc | hc
      · exact hsmall c hc
      · rw [List.mem_singleton.1 hc]
        decide

theorem qualify_eq_of_map_lower_eq {cs ds : List Char} (h : cs.map lower = ds.map lower) :
    qualify cs = qualify ds := by
  unfold qualify
  rw [map_lower_trim, map_lower_trim, h]

theorem qualify_of_qualified {cs : List Char} (h : Qualified cs) : qualify cs = cs := by
  have htrim : trim cs = cs := by
    refine trim_eq_self h.front fun c hc => ?_
    rw [h.dotted] at hc
    cases hc
    decide
  have hlower : cs.map lower = cs := by
    rw [List.map_congr_left (g := id) h.small, List.map_id]
  unfold qualify
  rw [htrim, hlower]
  exact if_pos h.dotted

/-- **A name that is in form stays as it is.** -/
theorem fullyQualified_fullyQualified (s : String) :
    fullyQualified (fullyQualified s) = fullyQualified s := by
  unfold fullyQualified
  rw [String.toList_ofList, qualify_of_qualified (qualified_qualify s.toList)]

end Firewall.Name
