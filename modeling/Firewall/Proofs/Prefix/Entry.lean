/-
Entries that are written are read back.

An entry is read without the blanks around it, and addresses and prefixes are written without
blanks; so what counts is how the text between them is read.  An address with a length is the
prefix of that length, whatever bits the address has beyond it: those bits are dropped, which
is said here bit by bit (`testBit_base_ofAddress`).

Prefixes are listed with a comma and a space between each two.  No prefix is written with a
comma, so cutting a list at its separators gives back the texts that were put together.  A list is
empty only if there is nothing on it, so an empty text is taken to list nothing.
-/
import Firewall.Proofs.Attempt
import Firewall.Proofs.Prefix.Text
import Firewall.Proofs.Text.Blank

namespace Firewall

namespace Text

/-! ### Lists -/

/-- The parts of a text between its separators, each a comma and a space. -/
def listPieces : List Char → List (List Char)
  | [] => [[]]
  | ',' :: ' ' :: rest => [] :: listPieces rest
  | c :: rest => (listPieces rest).modifyHead (c :: ·)

/-- The texts of a list; an empty text lists none. -/
def listed (s : String) : List String := if s = "" then []
    else (listPieces s.toList).map String.ofList

theorem listPieces_cons {c : Char} (h : c ≠ ',') (rest : List Char) :
    listPieces (c :: rest) = (listPieces rest).modifyHead (c :: ·) := by
  rw [listPieces]
  intro _ hcomma
  exact absurd hcomma h

/-- **A list is cut at its separators.** -/
theorem listPieces_append {cs : List Char} (h : ',' ∉ cs) (rest : List Char) :
    listPieces (cs ++ ',' :: ' ' :: rest) = cs :: listPieces rest := by
  induction cs with
  | nil => rw [List.nil_append, listPieces]
  | cons c cs ih =>
    simp only [List.mem_cons, not_or] at h
    rw [List.cons_append, listPieces_cons (Ne.symm h.1), ih h.2, List.modifyHead_cons]

theorem listPieces_of_notMem {cs : List Char} (h : ',' ∉ cs) : listPieces cs = [cs] := by
  induction cs with
  | nil => rw [listPieces]
  | cons c cs ih =>
    simp only [List.mem_cons, not_or] at h
    rw [listPieces_cons (Ne.symm h.1), ih h.2, List.modifyHead_cons]

theorem listPieces_intercalate {ts : List String} (hne : ts ≠ []) (h : ∀ t ∈ ts, ',' ∉ t.toList) :
    listPieces (String.intercalate ", " ts).toList = ts.map String.toList := by
  induction ts with
  | nil => exact absurd rfl hne
  | cons t more ih =>
    obtain ⟨ht, hmore⟩ := List.forall_mem_cons.1 h
    cases more with
    | nil => rw [String.intercalate_singleton, listPieces_of_notMem ht, List.map_singleton]
    | cons u more =>
      have hsplit : (String.intercalate ", " (t :: u :: more)).toList
          = t.toList ++ ',' :: ' ' :: (String.intercalate ", " (u :: more)).toList := by
        rw [String.intercalate_cons_cons]
        simp
      rw [hsplit, listPieces_append ht, ih (List.cons_ne_nil u more) hmore]
      rfl

theorem intercalate_eq_empty_iff {ts : List String} (h : ∀ t ∈ ts, ',' ∉ t.toList ∧ t ≠ "") :
    String.intercalate ", " ts = "" ↔ ts = [] := by
  constructor
  · intro hempty
    refine Classical.not_not.1 fun hne => ?_
    have hpieces := listPieces_intercalate hne fun t ht => (h t ht).1
    rw [hempty] at hpieces
    -- the one piece of an empty text would be one of the texts
    have hmem : [] ∈ ts.map String.toList := hpieces ▸ List.mem_singleton_self []
    obtain ⟨t, ht, hnil⟩ := List.mem_map.1 hmem
    exact (h t ht).2 (String.toList_eq_nil_iff.1 hnil)
  · rintro rfl
    rfl

/-- **Texts without commas come back from the list that they were joined to.** -/
theorem listed_intercalate {ts : List String} (h : ∀ t ∈ ts, ',' ∉ t.toList ∧ t ≠ "") :
    listed (String.intercalate ", " ts) = ts := by
  unfold listed
  split
  · rename_i hempty
    exact ((intercalate_eq_empty_iff h).1 hempty).symm
  · rename_i hjoined
    have hne : ts ≠ [] := fun hnil => hjoined ((intercalate_eq_empty_iff h).2 hnil)
    rw [listPieces_intercalate hne fun t ht => (h t ht).1, List.map_map]
    simp

end Text

namespace Address

/-- An address with a length behind it, whatever its bits beyond the length. -/
def slashed (a : Address) (length : Nat) : String := a.text ++ "/" ++ toString length

theorem toList_slashed (a : Address) (length : Nat) :
    (a.slashed length).toList = a.chars ++ '/' :: Text.decimal length := by
  unfold slashed text
  rw [String.toList_append, String.toList_append, String.toList_ofList, Text.toList_toString,
    List.append_assoc]
  rfl

theorem IsPrinted.isBlank {c : Char} (h : IsPrinted c) : Text.isBlank c = false := by
  rcases h with ⟨d, hd, rfl⟩ | rfl | rfl
  · revert d
    decide
  · decide
  · decide

end Address

namespace Prefix

open Text (isBlank)

/-! ### Bits -/

/-- The first address of a prefix has the bits of an address in it, down to the length. -/
theorem testBit_base_ofAddress (a : Address) {length : Nat} (h : length ≤ a.family.width)
    (i : Nat) :
    (ofAddress a length h).base.value.testBit i
      = (decide (a.family.width - length ≤ i) && a.value.testBit i) := by
  show (a.value / 2 ^ (a.family.width - length) * 2 ^ (a.family.width - length)).testBit i = _
  rw [Nat.testBit_mul_two_pow, Nat.testBit_div_two_pow]
  by_cases hi : a.family.width - length ≤ i
  · rw [Nat.sub_add_cancel hi]
  · simp [hi]

theorem testBit_base_of_lt (p : Prefix) {i : Nat} (h : i < p.family.width - p.length) :
    p.base.value.testBit i = false := by
  show (p.bits * 2 ^ (p.family.width - p.length)).testBit i = false
  simp [Nat.testBit_mul_two_pow, Nat.not_le.2 h]

theorem base_host (a : Address) : (host a).base = a := by
  refine Address.ext rfl ?_
  show a.value / 2 ^ (a.family.width - a.family.width) *
    2 ^ (a.family.width - a.family.width) = a.value
  rw [Nat.sub_self, Nat.pow_zero, Nat.div_one, Nat.mul_one]

/-! ### Entries -/

/-- **What is read between blanks is the entry.** -/
theorem parse_of_read? {cs : List Char} {p : Prefix} (hread : read? cs = some p)
    (hprinted : ∀ c ∈ cs, isBlank c = false) {before after : String}
    (hbefore : before.toList.all isBlank = true) (hafter : after.toList.all isBlank = true)
    {entry : String}
    (hentry : entry.toList = cs) : parse (before ++ entry ++ after) = .ok p := by
  have htrim : Text.trim (before ++ entry ++ after).toList = cs := by
    rw [String.toList_append, String.toList_append, hentry,
      Text.trim_append_blanks (List.all_eq_true.1 hbefore) (List.all_eq_true.1 hafter)]
    exact Text.trim_eq_self (fun c hc => hprinted c (List.mem_of_mem_head? hc))
      fun c hc => hprinted c (List.mem_of_getLast? hc)
  unfold parse
  simp only [htrim, hread]

private theorem isBlank_of_mem_slashed {a : Address} {length : Nat} {c : Char}
    (h : c ∈ a.chars ++ '/' :: Text.decimal length) : isBlank c = false := by
  rcases List.mem_append.1 h with h | h
  · exact (Address.isPrinted_of_mem_chars h).isBlank
  · rcases List.mem_cons.1 h with rfl | h
    · decide
    · exact Text.of_mem_decimal (P := fun c => isBlank c = false) (by decide) h

theorem parse_text (p : Prefix) : parse p.text = .ok p := by
  have hprinted : ∀ c ∈ p.chars, isBlank c = false := fun c hc => isBlank_of_mem_slashed hc
  have hparse : parse ("" ++ p.text ++ "") = .ok p :=
    parse_of_read? (read?_chars p) hprinted rfl rfl String.toList_ofList
  rwa [String.empty_append, String.append_empty] at hparse

theorem text_listable {ps : List Prefix} : ∀ t ∈ ps.map text, ',' ∉ t.toList ∧ t ≠ "" := by
  intro t ht
  obtain ⟨p, -, rfl⟩ := List.mem_map.1 ht
  rw [text, String.toList_ofList]
  refine ⟨notMem_chars (by decide) (by decide) p, fun hempty => ?_⟩
  have hnil : p.chars = [] := by simpa using congrArg String.toList hempty
  exact absurd hnil (List.append_ne_nil_of_right_ne_nil _ (List.cons_ne_nil _ _))

theorem joinedText_eq_empty_iff {ps : List Prefix} : joinedText ps = "" ↔ ps = [] := by
  rw [joinedText, Text.intercalate_eq_empty_iff text_listable, List.map_eq_nil_iff]

theorem mapM_parse_listed (ps : List Prefix) :
    (Text.listed (joinedText ps)).mapM parse = .ok ps := by
  rw [joinedText, Text.listed_intercalate text_listable]
  exact Attempt.mapM_map_eq_pure fun p _ => parse_text p

/-- **What is written is read back**, entry by entry and list by list.  Bits beyond the length are
dropped, and blanks make no difference. -/
theorem parse_round_trip :
    (∀ (a : Address) (length : Nat) (before after : String), length ≤ a.family.width →
      before.toList.all isBlank = true → after.toList.all isBlank = true →
      ∃ p, parse (before ++ a.slashed length ++ after) = .ok p ∧ p.family = a.family ∧
      p.length = length ∧
        ∀ i, p.base.value.testBit i = (decide (a.family.width - length ≤ i) && a.value.testBit i)) ∧
    (∀ (a : Address) (before after : String), before.toList.all isBlank = true →
      after.toList.all isBlank = true →
      ∃ p, parse (before ++ a.text ++ after) = .ok p ∧ p.base = a ∧ p.length = a.family.width) ∧
    (∀ entry p, parse entry = .ok p →
      (∀ i < p.family.width - p.length, p.base.value.testBit i = false) ∧ parse p.text = .ok p) ∧
    ∀ ps : List Prefix, (joinedText ps = "" ↔ ps = []) ∧
    (Text.listed (joinedText ps)).mapM parse = .ok ps := by
  refine ⟨?_, ?_, ?_, fun ps => ⟨joinedText_eq_empty_iff, mapM_parse_listed ps⟩⟩
  · intro a length before after h hbefore hafter
    refine ⟨ofAddress a length h, ?_, rfl, rfl, testBit_base_ofAddress a h⟩
    exact parse_of_read? (read?_slashed a h) (fun c hc => isBlank_of_mem_slashed hc) hbefore hafter
      (a.toList_slashed length)
  · intro a before after hbefore hafter
    refine ⟨host a, ?_, base_host a, rfl⟩
    exact parse_of_read? (read?_bare a)
      (fun c hc => (Address.isPrinted_of_mem_chars hc).isBlank) hbefore hafter
      String.toList_ofList
  · intro entry p _
    exact ⟨fun i hi => testBit_base_of_lt p hi, parse_text p⟩

/-- The address ::ffff:10.1.2.3, whose last 32 bits are written as octets. -/
def sampleMapped : Address := ⟨.v6, 0xFFFF0A010203, by decide⟩

/-- An address is read with a length and without one, and an entry with bits beyond its length. -/
theorem parse_round_trip_mapped :
    (∃ p, parse ("\u3000" ++ sampleMapped.slashed 104 ++ "\t") = .ok p ∧ p.family = .v6 ∧
      p.length = 104 ∧
      ∀ i, p.base.value.testBit i = (decide (24 ≤ i) && sampleMapped.value.testBit i)) ∧
    (∃ p, parse ("\u3000" ++ sampleMapped.text ++ "\t") = .ok p ∧ p.base = sampleMapped ∧
      p.length = 128) ∧
    ∃ p, parse " ::ffff:10.1.2.3/104" = .ok p ∧ (∀ i < 24, p.base.value.testBit i = false) ∧
    parse p.text = .ok p := by
  obtain ⟨hslashed, hbare, hread, -⟩ := parse_round_trip
  refine ⟨hslashed sampleMapped 104 "\u3000" "\t" (by decide) (by decide) (by decide),
    hbare sampleMapped "\u3000" "\t" (by decide) (by decide),
    ofAddress sampleMapped 104 (by decide), ?_⟩
  have hparse : parse " ::ffff:10.1.2.3/104" = .ok (ofAddress sampleMapped 104 (by decide)) := by
    decide +kernel
  exact ⟨hparse, hread _ _ hparse⟩

end Prefix

end Firewall
