/-
An address that is written is the address that is read.

IPv4 addresses are four octets with dots between them, and reading them back is
reading four numbers.  For IPv6 the printer leaves the longest run of zero groups
out, so the reader has to find the gap again and fill it.  It finds it because the
groups on either side are written without empty pieces: the first two colons in a
row are the gap.  It fills it with as many zeros as are missing from eight, which is
how many the printer left out.

Both grammars accept what is printed, and no IPv6 text is taken for an IPv4 one,
because it has a colon in it.
-/
import Firewall.Address.Printer
import Firewall.Address.Reader
import Firewall.Proofs.Attempt
import Firewall.Proofs.Text.Numeral
import Firewall.Proofs.Text.Pieces
import Mathlib.Tactic.Ring

namespace Firewall.Address

open Text (decimal hexadecimal join pieces isDigitOf ofDigits)

/-! ### Four octets -/

private theorem readOctet?_decimal_strict : ∀ n < 256, readOctet? .strict (decimal n) = some n := by
  decide +kernel

private theorem readOctet?_decimal_lenient :
    ∀ n < 256, readOctet? .lenient (decimal n) = some n := by
  decide +kernel

theorem readOctet?_decimal (r : Reading) {n : Nat} (h : n < 256) :
    readOctet? r (decimal n) = some n := by
  cases r with
  | strict => exact readOctet?_decimal_strict n h
  | lenient => exact readOctet?_decimal_lenient n h

private theorem notMem_decimal {c : Char} (hc : ∀ d < 10, Nat.digitChar d ≠ c) (n : Nat) :
    c ∉ decimal n :=
  fun h => Text.of_mem_decimal (P := (· ≠ c)) hc h rfl

theorem readQuad?_quadChars (r : Reading) {a b c d : Nat} (ha : a < 256) (hb : b < 256)
    (hc : c < 256) (hd : d < 256) :
    readQuad? r (quadChars [a, b, c, d]) = some (((a * 256 + b) * 256 + c) * 256 + d) := by
  have hdot : ∀ p ∈ [a, b, c, d].map decimal, '.' ∉ p := by
    intro p hp
    obtain ⟨n, -, rfl⟩ := List.mem_map.1 hp
    exact notMem_decimal (by decide) n
  unfold readQuad? quadChars
  rw [Text.pieces_join (by simp) hdot]
  simp [readOctet?_decimal r, ha, hb, hc, hd]

theorem quad_octets (a : Address) (h : a.value < 0x100000000) :
    ((a.value / 0x1000000 % 256 * 256 + a.value / 0x10000 % 256) * 256 + a.value / 0x100 % 256) *
      256
      + a.value % 256 = a.value := by
  omega

private theorem mapM_eq_none {α β : Type} {f : α → Option β} {a : α} {l : List α} (ha : a ∈ l)
    (hf : f a = none) : l.mapM f = none := by
  induction l with
  | nil => simp at ha
  | cons b more ih =>
    rcases List.mem_cons.1 ha with rfl | ha
    · simp [List.mapM_cons, hf]
    · cases hb : f b <;> simp [List.mapM_cons, hb, ih ha]

/-- **No IPv6 text is an IPv4 one:** four octets have no colon among them. -/
theorem readQuad?_of_colon (r : Reading) {cs : List Char} (h : ':' ∈ cs) :
    readQuad? r cs = none := by
  have hpiece : ∃ p ∈ pieces '.' cs, ':' ∈ p := by
    have hjoined : ':' ∈ Text.join ['.'] (pieces '.' cs) := (Text.join_pieces '.' cs).symm ▸ h
    rcases Text.mem_join hjoined with h | h
    · simp at h
    · exact h
  obtain ⟨p, hp, hcolon⟩ := hpiece
  have hoctet : readOctet? r p = none := by
    have hdigits : p.all Char.isDigit = false := List.all_eq_false.2 ⟨':', hcolon, by decide⟩
    simp [readOctet?, Reading.admitsDigits, hdigits]
  unfold readQuad?
  rw [mapM_eq_none hp hoctet]

/-! ### Groups -/

private theorem notMem_hexadecimal {c : Char} (hc : ∀ d < 16, Nat.digitChar d ≠ c) (n : Nat) :
    c ∉ hexadecimal n :=
  fun h => Text.of_mem_hexadecimal (P := (· ≠ c)) hc h rfl

private theorem colon_notMem_hexadecimal (n : Nat) : ':' ∉ hexadecimal n :=
  notMem_hexadecimal (by decide) n

theorem readGroup?_hexadecimal {g : Nat} (h : g < 0x10000) :
    readGroup? (hexadecimal g) = some g := by
  have hpos : 1 ≤ (hexadecimal g).length := List.length_pos_iff.2 (Text.hexadecimal_ne_nil g)
  have hlen : (hexadecimal g).length ≤ 4 := (Nat.length_toDigits_le_iff (by decide) (by decide)).2 h
  have hdigits : (hexadecimal g).all (isDigitOf 16) = true :=
    List.all_eq_true.2 fun c hc =>
      Text.of_mem_hexadecimal (P := (isDigitOf 16 · = true)) (by decide) hc
  unfold readGroup?
  rw [hdigits, Text.ofDigits_hexadecimal]
  simp [hpos, hlen]

theorem colonPieces_groupChars (gs : List Nat) :
    colonPieces (groupChars gs) = gs.map hexadecimal := by
  cases gs with
  | nil => rfl
  | cons g more =>
    have hne : (groupChars (g :: more)).isEmpty = false := by
      cases more with
      | nil => simpa [groupChars, join] using Text.hexadecimal_ne_nil g
      | cons => simp [groupChars, join]
    have hcolon : ∀ p ∈ (g :: more).map hexadecimal, ':' ∉ p := by
      intro p hp
      obtain ⟨n, -, rfl⟩ := List.mem_map.1 hp
      exact colon_notMem_hexadecimal n
    unfold colonPieces
    rw [hne]
    exact Text.pieces_join (by simp) hcolon

theorem mapM_readGroup?_hexadecimal {gs : List Nat} (h : ∀ g ∈ gs, g < 0x10000) :
    (gs.map hexadecimal).mapM readGroup? = some gs :=
  Attempt.mapM_map_eq_some fun g hg => readGroup?_hexadecimal (h g hg)

theorem readGroups?_hexadecimal (r : Reading) {gs : List Nat} (h : ∀ g ∈ gs, g < 0x10000) :
    readGroups? r (gs.map hexadecimal) = some gs := by
  induction gs with
  | nil => rfl
  | cons g more ih =>
    have hg := readGroup?_hexadecimal (h g List.mem_cons_self)
    have hmore := ih fun g hg => h g (List.mem_cons_of_mem _ hg)
    cases more with
    | nil => simp [readGroups?, hg]
    | cons g' more =>
      simp only [List.map_cons] at hmore ⊢
      rw [readGroups?, hg, hmore]
      · rfl
      · simp

/-! ### The gap

A gap is looked for from the front, and what is printed before it is groups, none of
which is empty: no two colons stand side by side in them.
-/

private theorem cutGap_append {a : List Char} (ha : ':' ∉ a) (rest : List Char) :
    cutGap (a ++ rest) = (cutGap rest).map fun (before, after) => (a ++ before, after) := by
  induction a with
  | nil => simp
  | cons c a ih =>
    simp only [List.mem_cons, not_or] at ha
    rw [List.cons_append, cutGap, ih ha.2]
    · cases cutGap rest <;> simp
    · intro _ hc _
      exact ha.1 hc.symm

private theorem cutGap_colon {cs : List Char} (h : cs.head? ≠ some ':') :
    cutGap (':' :: cs) = (cutGap cs).map fun (before, after) => (':' :: before, after) := by
  rw [cutGap]
  intro tail _ hcs
  exact h (by rw [hcs]; rfl)

private theorem groupChars_cons (g : Nat) (more : List Nat) :
    ∃ tail, groupChars (g :: more) = hexadecimal g ++ tail := by
  cases more with
  | nil => exact ⟨[], by simp [groupChars, join]⟩
  | cons g' more => exact ⟨':' :: groupChars (g' :: more), by simp [groupChars, join]⟩

private theorem head?_groupChars_append (g : Nat) (more : List Nat) (rest : List Char) :
    (groupChars (g :: more) ++ rest).head? ≠ some ':' := by
  obtain ⟨tail, ht⟩ := groupChars_cons g more
  obtain ⟨c, cs, hc⟩ := List.exists_cons_of_ne_nil (Text.hexadecimal_ne_nil g)
  have hne : c ≠ ':' :=
    fun e => colon_notMem_hexadecimal g (by rw [hc, e]; exact List.mem_cons_self)
  rw [ht, hc]
  simpa using hne

/-- **Groups are passed over** in the search for the gap. -/
theorem cutGap_groupChars_append (gs : List Nat) (rest : List Char) :
    cutGap (groupChars gs ++ rest)
      = (cutGap rest).map fun (before, after) => (groupChars gs ++ before, after) := by
  induction gs with
  | nil => simp [groupChars, join]
  | cons g more ih =>
    cases more with
    | nil =>
      have hsingle : groupChars [g] = hexadecimal g := rfl
      rw [hsingle]
      exact cutGap_append (colon_notMem_hexadecimal g) rest
    | cons g' more =>
      have hcons : ∀ cs, groupChars (g :: g' :: more) ++ cs
          = hexadecimal g ++ (':' :: (groupChars (g' :: more) ++ cs)) := by
        intro cs
        simp [groupChars, join]
      rw [hcons, cutGap_append (colon_notMem_hexadecimal g),
        cutGap_colon (head?_groupChars_append g' more rest), ih]
      cases cutGap rest with
      | none => rfl
      | some parts => simp [hcons]

theorem cutGap_groupChars (gs : List Nat) : cutGap (groupChars gs) = none := by
  simpa [cutGap] using cutGap_groupChars_append gs []

/-- **The gap is found where it was left.** -/
theorem cutGap_gap (front : List Nat) (after : List Char) :
    cutGap (groupChars front ++ ':' :: ':' :: after) = some (groupChars front, after) := by
  rw [cutGap_groupChars_append]
  simp [cutGap]

/-! ### The run of zeros that is left out -/

theorem longestZeroRun_le (gs : List Nat) :
    (longestZeroRun gs).2 ≤ zeroRun (gs.drop (longestZeroRun gs).1) := by
  have hfold : ∀ (l : List Nat) (best : Nat × Nat), best.2 ≤ zeroRun (gs.drop best.1) →
      (l.foldl (fun best i => let n := zeroRun (gs.drop i); if best.2 < n then (i, n)
        else best) best).2
        ≤ zeroRun (gs.drop (l.foldl (fun best i =>
          let n := zeroRun (gs.drop i); if best.2 < n then (i, n) else best) best).1) := by
    intro l
    induction l with
    | nil => intro best h; exact h
    | cons i more ih =>
      intro best h
      refine ih _ ?_
      by_cases hlt : best.2 < zeroRun (gs.drop i)
      · simp [hlt]
      · simpa [hlt] using h
  exact hfold _ (0, 0) (Nat.zero_le _)

private theorem take_eq_replicate_zero (gs : List Nat) {n : Nat} (h : n ≤ zeroRun gs) :
    gs.take n = List.replicate n 0 := by
  induction gs generalizing n with
  | nil =>
    have hn : n = 0 := by simpa [zeroRun] using h
    simp [hn]
  | cons g more ih =>
    cases n with
    | zero => rfl
    | succ n =>
      unfold zeroRun at h
      rw [List.takeWhile_cons] at h
      split at h
      · rename_i hg
        rw [List.take_succ_cons, ih (by simpa [zeroRun] using h), eq_of_beq hg]
        rfl
      · simp at h

theorem fill_gap (gs : List Nat) {start n : Nat} (h : n ≤ zeroRun (gs.drop start)) :
    gs.take start ++ List.replicate n 0 ++ gs.drop (start + n) = gs := by
  rw [← take_eq_replicate_zero _ h, List.append_assoc, ← List.drop_drop, List.take_append_drop,
    List.take_append_drop]

theorem zeroRun_le_length (gs : List Nat) : zeroRun gs ≤ gs.length :=
  (List.takeWhile_sublist _).length_le

/-! ### Eight groups -/

theorem length_groups (a : Address) : a.groups.length = 8 := rfl

theorem lt_of_mem_groups {a : Address} {g : Nat} (h : g ∈ a.groups) : g < 0x10000 := by
  obtain ⟨i, -, rfl⟩ := List.mem_map.1 h
  exact Nat.mod_lt _ (by decide)

private theorem foldl_groups (gs : List Nat) (n : Nat) :
    gs.foldl (fun n g => n * 0x10000 + g) n = n * 0x10000 ^ gs.length + ofGroups gs := by
  unfold ofGroups
  induction gs generalizing n with
  | nil => simp
  | cons g more ih =>
    rw [List.foldl_cons, List.foldl_cons, ih, ih (0 * 0x10000 + g), List.length_cons, Nat.pow_succ]
    ring

private theorem ofGroups_digits (value k : Nat) :
    ofGroups ((List.range k).reverse.map fun i => value / 0x10000 ^ i % 0x10000) =
      value % 0x10000 ^ k := by
  induction k with
  | zero => simp [ofGroups, Nat.mod_one]
  | succ k ih =>
    rw [List.range_succ, List.reverse_append, List.reverse_singleton, List.singleton_append,
      List.map_cons]
    unfold ofGroups at ih ⊢
    rw [List.foldl_cons, foldl_groups, List.length_map, List.length_reverse, List.length_range]
    unfold ofGroups
    rw [ih, Nat.mod_pow_succ]
    ring

theorem ofGroups_groups (a : Address) (h : a.value < 0x100000000000000000000000000000000) :
    ofGroups a.groups = a.value :=
  (ofGroups_digits a.value 8).trans (Nat.mod_eq_of_lt h)

theorem readAllGroups?_groupChars (r : Reading) {gs : List Nat} (hlen : gs.length = 8)
    (hgs : ∀ g ∈ gs, g < 0x10000) : readAllGroups? r (groupChars gs) = some gs := by
  unfold readAllGroups?
  rw [cutGap_groupChars]
  simp [colonPieces_groupChars, readGroups?_hexadecimal r hgs, hlen]

private theorem readAllGroups?_of_cutGap {r : Reading} {cs before after : List Char}
    {front back : List Nat} (hcut : cutGap cs = some (before, after))
    (hfront : (colonPieces before).mapM readGroup? = some front)
    (hback : readGroups? r (colonPieces after) = some back)
    (hgap : r.admitsGap front.length back.length = true) :
    readAllGroups? r cs
      = some (front ++ List.replicate (8 - (front.length + back.length)) 0 ++ back) := by
  unfold readAllGroups?
  simp [hcut, hfront, hback, hgap]

/-- **Groups with a gap are read back,** the gap filled. -/
theorem readAllGroups?_gap (r : Reading) {gs : List Nat} (hlen : gs.length = 8)
    (hgs : ∀ g ∈ gs, g < 0x10000) {start n : Nat} (hn : 2 ≤ n)
    (hrun : n ≤ zeroRun (gs.drop start)) :
    readAllGroups? r (groupChars (gs.take start) ++ ':' :: ':' :: groupChars (gs.drop (start + n)))
      = some gs := by
  have hfront : ∀ g ∈ gs.take start, g < 0x10000 := fun g hg => hgs g (List.mem_of_mem_take hg)
  have hback : ∀ g ∈ gs.drop (start + n), g < 0x10000 := fun g hg => hgs g (List.mem_of_mem_drop hg)
  have hroom : n ≤ gs.length - start := by
    have := zeroRun_le_length (gs.drop start)
    rw [List.length_drop] at this
    omega
  have htake : (gs.take start).length = start := by rw [List.length_take]; omega
  have hdrop : (gs.drop (start + n)).length = 8 - (start + n) := by rw [List.length_drop, hlen]
  have hgap : r.admitsGap (gs.take start).length (gs.drop (start + n)).length = true := by
    rw [htake, hdrop]
    cases r <;> simp [Reading.admitsGap] <;> omega
  have hmissing : 8 - ((gs.take start).length + (gs.drop (start + n)).length) = n := by omega
  rw [readAllGroups?_of_cutGap (cutGap_gap _ _)
    (colonPieces_groupChars _ ▸ mapM_readGroup?_hexadecimal hfront)
    (colonPieces_groupChars _ ▸ readGroups?_hexadecimal r hback) hgap, hmissing, fill_gap gs hrun]

/-! ### IPv4-mapped addresses -/

private theorem colon_notMem_quadChars (octets : List Nat) : ':' ∉ quadChars octets := by
  intro h
  rcases Text.mem_join h with h | ⟨p, hp, hc⟩
  · simp at h
  · obtain ⟨n, -, rfl⟩ := List.mem_map.1 hp
    exact notMem_decimal (by decide) n hc

private theorem readGroup?_of_dot {cs : List Char} (h : '.' ∈ cs) : readGroup? cs = none := by
  have hdigits : cs.all (isDigitOf 16) = false := List.all_eq_false.2 ⟨'.', h, by decide⟩
  simp [readGroup?, hdigits]

private theorem groups_of_isMapped {a : Address} (h : isMapped a.groups = true) :
    a.groups = [0, 0, 0, 0, 0, 0xffff, a.value / 0x10000 % 0x10000, a.value % 0x10000] := by
  have htake : a.groups.take 6 = [0, 0, 0, 0, 0, 0xffff] := eq_of_beq h
  have hdrop : a.groups.drop 6 = [a.value / 0x10000 % 0x10000, a.value % 0x10000] := by
    simp [groups]
  rw [← List.take_append_drop 6 a.groups, htake, hdrop]
  rfl

theorem readAllGroups?_mapped (r : Reading) (a : Address) (hm : isMapped a.groups = true) :
    readAllGroups? r ("::ffff:".toList ++ quadChars a.octets) = some a.groups := by
  have hcut : cutGap ("::ffff:".toList ++ quadChars a.octets)
      = some (groupChars [], hexadecimal 0xffff ++ ':' :: quadChars a.octets) :=
    cutGap_gap [] (hexadecimal 0xffff ++ ':' :: quadChars a.octets)
  have hpieces : colonPieces (hexadecimal 0xffff ++ ':' :: quadChars a.octets)
      = [hexadecimal 0xffff, quadChars a.octets] := by
    have hne : (hexadecimal 0xffff ++ ':' :: quadChars a.octets).isEmpty = false := by simp
    unfold colonPieces
    rw [hne, if_neg (by decide), Text.pieces_append_cons,
      Text.pieces_of_notMem (colon_notMem_hexadecimal _),
      Text.pieces_of_notMem (colon_notMem_quadChars _)]
    rfl
  have hdot : '.' ∈ quadChars a.octets := by simp [quadChars, octets, join]
  have hquad := readQuad?_quadChars r (Nat.mod_lt (a.value / 0x1000000) (by decide : 0 < 256))
    (Nat.mod_lt (a.value / 0x10000) (by decide : 0 < 256))
      (Nat.mod_lt (a.value / 0x100) (by decide : 0 < 256))
    (Nat.mod_lt a.value (by decide : 0 < 256))
  have hback : readGroups? r (colonPieces (hexadecimal 0xffff ++ ':' :: quadChars a.octets))
      = some [0xffff, a.value / 0x10000 % 0x10000, a.value % 0x10000] := by
    rw [hpieces, readGroups?, readGroup?_hexadecimal (by decide), readGroups?,
      readGroup?_of_dot hdot]
    · have hoctets : readQuad? r (quadChars a.octets) = some _ := hquad
      simp only [hoctets, Option.map_some, bind, Option.bind_some, pure, Option.some.injEq,
        List.cons.injEq, true_and, and_true]
      omega
    · simp
  rw [readAllGroups?_of_cutGap hcut rfl hback (by cases r <;> rfl), groups_of_isMapped hm]
  rfl

/-! ### Addresses -/

private theorem readV4?_of_colon (r : Reading) {cs : List Char} (h : ':' ∈ cs) :
    readV4? r cs = none := by
  simp [readV4?, readQuad?_of_colon r h]

private theorem compressedChars_eq (gs : List Nat) :
    compressedChars gs = if (longestZeroRun gs).2 < 2 then groupChars gs
      else groupChars (gs.take (longestZeroRun gs).1) ++ [':', ':']
        ++ groupChars (gs.drop ((longestZeroRun gs).1 + (longestZeroRun gs).2)) := rfl

private theorem colon_mem_compressedChars {gs : List Nat} (h : 2 ≤ gs.length) :
    ':' ∈ compressedChars gs := by
  rw [compressedChars_eq]
  split
  · obtain ⟨g, g', more, rfl⟩ : ∃ g g' more, gs = g :: g' :: more := by
      match gs, h with
      | g :: g' :: more, _ => exact ⟨g, g', more, rfl⟩
    simp [groupChars, join]
  · simp

private theorem readAllGroups?_compressedChars (r : Reading) {gs : List Nat} (hlen : gs.length = 8)
    (hgs : ∀ g ∈ gs, g < 0x10000) : readAllGroups? r (compressedChars gs) = some gs := by
  rw [compressedChars_eq]
  split
  · exact readAllGroups?_groupChars r hlen hgs
  · rename_i hn
    rw [List.append_assoc]
    exact readAllGroups?_gap r hlen hgs (Nat.le_of_not_lt hn) (longestZeroRun_le gs)

private theorem ofNat?_value (a : Address) : ofNat? a.family a.value = some a := dif_pos a.value_lt

private theorem value_lt_v4 {a : Address} (h : a.family = .v4) : a.value < 0x100000000 := by
  have hlt := a.value_lt
  rw [h] at hlt
  exact hlt

private theorem value_lt_v6 {a : Address} (h : a.family = .v6) :
    a.value < 0x100000000000000000000000000000000 := by
  have hlt := a.value_lt
  rw [h] at hlt
  exact hlt

theorem read?_quadChars (r : Reading) {a : Address} (h : a.family = .v4) :
    read? r (quadChars a.octets) = some a := by
  have hquad : readQuad? r (quadChars a.octets) = some a.value := by
    rw [← quad_octets a (value_lt_v4 h)]
    exact readQuad?_quadChars r (Nat.mod_lt _ (by decide)) (Nat.mod_lt _ (by decide))
      (Nat.mod_lt _ (by decide)) (Nat.mod_lt _ (by decide))
  have hread : readV4? r (quadChars a.octets) = some a := by
    rw [readV4?, hquad, Option.bind_some, ← h, ofNat?_value]
  rw [read?, hread]
  rfl

theorem read?_of_readAllGroups? {r : Reading} {a : Address} (h : a.family = .v6) {cs : List Char}
    (hcolon : ':' ∈ cs) (hcs : readAllGroups? r cs = some a.groups) : read? r cs = some a := by
  have hread : readV6? r cs = some a := by
    rw [readV6?, hcs, Option.bind_some, ofGroups_groups a (value_lt_v6 h), ← h, ofNat?_value]
  rw [read?, readV4?_of_colon r hcolon, hread]
  rfl

/-- **An address that is written is the address that is read**, in either grammar. -/
theorem read?_chars (r : Reading) (a : Address) : read? r a.chars = some a := by
  unfold chars
  split
  · rename_i h
    exact read?_quadChars r h
  · rename_i h
    split
    · rename_i hm
      exact read?_of_readAllGroups? h (by simp) (readAllGroups?_mapped r a hm)
    · exact read?_of_readAllGroups? h (colon_mem_compressedChars (by rw [length_groups]; decide))
        (readAllGroups?_compressedChars r (length_groups a) fun g hg => lt_of_mem_groups hg)

/-! ### What an address is written with -/

/-- The characters that addresses are written with. -/
def IsPrinted (c : Char) : Prop := (∃ d, d < 16 ∧ c = Nat.digitChar d) ∨ c = '.' ∨ c = ':'

private theorem isPrinted_of_mem_quadChars {octets : List Nat} {c : Char}
    (h : c ∈ quadChars octets) :
    IsPrinted c := by
  rcases Text.mem_join h with h | ⟨p, hp, hc⟩
  · exact .inr (.inl (by simpa using h))
  · obtain ⟨n, -, rfl⟩ := List.mem_map.1 hp
    obtain ⟨d, hd, rfl⟩ := Text.mem_toDigits (by decide) hc
    exact .inl ⟨d, by omega, rfl⟩

private theorem isPrinted_of_mem_groupChars {gs : List Nat} {c : Char} (h : c ∈ groupChars gs) :
    IsPrinted c := by
  rcases Text.mem_join h with h | ⟨p, hp, hc⟩
  · exact .inr (.inr (by simpa using h))
  · obtain ⟨n, -, rfl⟩ := List.mem_map.1 hp
    exact .inl (Text.mem_toDigits (by decide) hc)

private theorem isPrinted_of_mem_compressedChars {gs : List Nat} {c : Char}
    (h : c ∈ compressedChars gs) : IsPrinted c := by
  rw [compressedChars_eq] at h
  split at h
  · exact isPrinted_of_mem_groupChars h
  · rcases List.mem_append.1 h with h | h
    · rcases List.mem_append.1 h with h | h
      · exact isPrinted_of_mem_groupChars h
      · exact .inr (.inr (by simpa using h))
    · exact isPrinted_of_mem_groupChars h

private theorem isPrinted_of_mem_mark : ∀ c ∈ "::ffff:".toList, IsPrinted c := by
  intro c hc
  have hcases : c = ':' ∨ c = 'f' ∨ c = ':' := by simpa using hc
  rcases hcases with rfl | rfl | rfl
  · exact .inr (.inr rfl)
  · exact .inl ⟨15, by decide, rfl⟩
  · exact .inr (.inr rfl)

/-- **Addresses are written with digits, dots and colons.** -/
theorem isPrinted_of_mem_chars {a : Address} {c : Char} (h : c ∈ a.chars) : IsPrinted c := by
  unfold chars at h
  split at h
  · exact isPrinted_of_mem_quadChars h
  · split at h
    · rcases List.mem_append.1 h with h | h
      · exact isPrinted_of_mem_mark c h
      · exact isPrinted_of_mem_quadChars h
    · exact isPrinted_of_mem_compressedChars h

/-- What holds of every digit, and of the dot and the colon, holds of
every character of an address. -/
theorem of_mem_chars {P : Char → Prop} (hdigit : ∀ d < 16, P (Nat.digitChar d))
    (hrest : P '.' ∧ P ':') {a : Address} {c : Char}
    (h : c ∈ a.chars) : P c := by
  rcases isPrinted_of_mem_chars h with ⟨d, hd, rfl⟩ | rfl | rfl
  · exact hdigit d hd
  · exact hrest.1
  · exact hrest.2

theorem notMem_chars {c : Char} (hdigit : ∀ d < 16, Nat.digitChar d ≠ c) (hrest : c ≠ '.' ∧ c ≠ ':')
    (a : Address) :
    c ∉ a.chars :=
  fun h => of_mem_chars (P := (· ≠ c)) hdigit ⟨hrest.1.symm, hrest.2.symm⟩ h rfl

theorem chars_injective {a b : Address} (h : a.chars = b.chars) : a = b := by
  have hread := read?_chars .strict b
  rw [← h, read?_chars] at hread
  exact Option.some.inj hread

end Firewall.Address
