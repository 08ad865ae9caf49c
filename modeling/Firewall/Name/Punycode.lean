/-
Punycode: any text written in ASCII letters, digits and dashes.

What a text has of ASCII characters stands in front, with a dash behind it.  The
others are then inserted one after the other, the smaller characters first and equal
ones from left to right.  Between one insertion and the next a number says how many
possible insertions are passed over, where the possible ones are ordered by the
character and then by the place.  These numbers mostly are small; they are written to
the base 36 with the lowest digit first, and the last digit is recognised by being
below a threshold that adapts to the numbers that came before.
-/
namespace Firewall.Name.Punycode

/-! ### Digits -/

/-- The digit for a number below 36: letters first, then the decimal digits. -/
def digitChar (d : Nat) : Char :=
  if d < 26 then .ofNat ('a'.toNat + d) else .ofNat ('0'.toNat + (d - 26))

/-- What a digit counts for. -/
def digitValue? (c : Char) : Option Nat :=
  if 'a' ≤ c ∧ c ≤ 'z' then some (c.toNat - 'a'.toNat)
  else if '0' ≤ c ∧ c ≤ '9' then some (c.toNat - '0'.toNat + 26)
  else none

/-- A digit below its threshold is the last one.  Places are counted from zero. -/
def threshold (bias place : Nat) : Nat := min 26 (max 1 (36 * (place + 1) - bias))

theorem one_le_threshold (bias place : Nat) : 1 ≤ threshold bias place := by
  unfold threshold
  omega

theorem threshold_le (bias place : Nat) : threshold bias place ≤ 26 := by
  unfold threshold
  omega

theorem digitValue?_digitChar {d : Nat} (h : d < 36) : digitValue? (digitChar d) = some d := by
  have all : ∀ e ∈ List.range 36, digitValue? (digitChar e) = some e := by decide
  exact all d (List.mem_range.2 h)

/-! ### Numbers -/

/-- Writes a number from its digit at a place on. -/
def writeNumber (bias place n : Nat) : List Char :=
  let t := threshold bias place
  if n < t then [digitChar n]
  else digitChar (t + (n - t) % (36 - t)) :: writeNumber bias (place + 1) ((n - t) / (36 - t))
termination_by n
decreasing_by
  have := one_le_threshold bias place
  exact Nat.lt_of_le_of_lt (Nat.div_le_self _ _) (by omega)

/-- Reads a number from its digit at a place on, where that digit counts for `weight`. -/
def readNumber? (bias place weight : Nat) : List Char → Option (Nat × List Char)
  | [] => none
  | c :: rest =>
    match digitValue? c with
    | none => none
    | some d =>
      let t := threshold bias place
      if d < t then some (d * weight, rest)
      else (readNumber? bias (place + 1) (weight * (36 - t)) rest).map fun (n, rest) =>
        (d * weight + n, rest)

theorem readNumber?_length {bias place weight n : Nat} {cs rest : List Char}
    (h : readNumber? bias place weight cs = some (n, rest)) : rest.length < cs.length := by
  induction cs generalizing place weight n rest with
  | nil => simp [readNumber?] at h
  | cons c cs ih =>
    unfold readNumber? at h
    split at h
    · contradiction
    · dsimp only at h
      split at h
      · simp only [Option.some.injEq, Prod.mk.injEq] at h
        simp [← h.2]
      · obtain ⟨⟨m, more⟩, hm, heq⟩ := Option.map_eq_some_iff.1 h
        simp only [Prod.mk.injEq] at heq
        have := ih hm
        simp only [List.length_cons, ← heq.2]
        omega

/-- **A number written is the number read**, whatever follows it. -/
theorem readNumber?_writeNumber (bias place weight n : Nat) (rest : List Char) :
    readNumber? bias place weight (writeNumber bias place n ++ rest) = some (n * weight, rest) := by
  fun_induction writeNumber bias place n generalizing weight with
  | case1 place n t hlt =>
    have := threshold_le bias place
    simp only [List.cons_append, List.nil_append, readNumber?,
      digitValue?_digitChar (show n < 36 by omega)]
    exact if_pos hlt
  | case2 place n t hge ih =>
    have h1 := one_le_threshold bias place
    have h2 := threshold_le bias place
    have hmod : (n - t) % (36 - t) < 36 - t := Nat.mod_lt _ (by omega)
    simp only [List.cons_append, readNumber?,
      digitValue?_digitChar (show t + (n - t) % (36 - t) < 36 by omega)]
    rw [if_neg (show ¬ t + (n - t) % (36 - t) < threshold bias place by omega), ih]
    have sum : t + (n - t) % (36 - t) + (n - t) / (36 - t) * (36 - t) = n := by
      have := Nat.mod_add_div' (n - t) (36 - t)
      omega
    simp only [Option.map_some, Option.some.injEq, Prod.mk.injEq, and_true]
    rw [Nat.mul_comm weight, ← Nat.mul_assoc, ← Nat.add_mul, sum]

/-- Brings a number into the range in which it sets the bias, and counts
how often it was divided. -/
def shrink (n times : Nat) : Nat × Nat :=
  if 455 < n then shrink (n / 35) (times + 1) else (n, times)
termination_by n
decreasing_by exact Nat.div_lt_self (by omega) (by omega)

/-- The bias after a number, when the text has so many characters with the one inserted. -/
def adapt (n count : Nat) (isFirst : Bool) : Nat :=
  let n := if isFirst then n / 700 else n / 2
  let (n, times) := shrink (n + n / count) 0
  36 * times + 36 * n / (n + 38)

/-! ### Insertions -/

/-- How far a text has come: the least character and, for it, the least place that may come next,
how many characters there are, and the bias. -/
structure Progress where
  least : Nat
  place : Nat
  count : Nat
  bias : Nat
  isFirst : Bool

/-- The start from a text that has so many ASCII characters. -/
def Progress.start (count : Nat) : Progress := ⟨0x80, 0, count, 72, true⟩

/-- The progress after a number and the insertion that it led to. -/
def Progress.next (p : Progress) (n char place : Nat) : Progress :=
  ⟨char, place + 1, p.count + 1, adapt n (p.count + 1) p.isFirst, false⟩

/-- The characters beyond ASCII, each with its place among those that are there when it is inserted,
in the order in which they are. -/
def insertions (cs : List Char) : List (Nat × Nat) :=
  let beyond := cs.zipIdx.filter fun (c, _) => 0x80 ≤ c.toNat
  (beyond.mergeSort fun a b => a.1.toNat ≤ b.1.toNat).map fun (c, i) =>
    (c.toNat, (cs.take i).countP fun d => d.toNat ≤ c.toNat)

/-- Writes insertions. -/
def writeInsertions (p : Progress) : List (Nat × Nat) → List Char
  | [] => []
  | (char, place) :: rest =>
    let n := (char - p.least) * (p.count + 1) + place - p.place
    writeNumber p.bias 0 n ++ writeInsertions (p.next n char place) rest

/-- Carries out the insertions that are written, on a text that has come so far. -/
def readInsertions? (p : Progress) (text cs : List Char) : Option (List Char) :=
  if cs.isEmpty then some text
  else match h : readNumber? p.bias 0 1 cs with
    | none => none
    | some (n, rest) =>
      let passed := p.place + n
      let char := p.least + passed / (p.count + 1)
      let place := passed % (p.count + 1)
      if char.isValidChar then
        have : rest.length < cs.length := readNumber?_length h
        readInsertions? (p.next n char place) (text.insertIdx place (.ofNat char)) rest
      else none
termination_by cs.length

/-! ### Texts -/

/-- Writes a text. -/
def encode (cs : List Char) : List Char :=
  let basic := cs.filter fun c => c.toNat < 0x80
  (if basic.isEmpty then [] else basic ++ ['-'])
    ++ writeInsertions (.start basic.length) (insertions cs)

/-- Reads a text.  The last dash ends the ASCII characters, unless there would be none. -/
def decode? (cs : List Char) : Option (List Char) :=
  let digits := (cs.reverse.takeWhile (· != '-')).reverse
  let basic := cs.take (cs.length - digits.length - 1)
  let digits := if basic.isEmpty then cs else digits
  readInsertions? (.start basic.length) basic digits

end Firewall.Name.Punycode
