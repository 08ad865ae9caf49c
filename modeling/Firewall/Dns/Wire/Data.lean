/-
The data of records.

A record whose type has a known layout must fill its data with exactly that
layout: `fits` says whether it does.  Most layouts are a run of names, fixed
counts and bytes behind their counts.  Some hold a list of a shape of its own, which
is judged once its bytes are cut out: the types that a name has, the parameters of
a service, the options of a message.
-/
import Firewall.Dns.Wire.Basic

namespace Firewall.Dns.Wire

/-! ### Shapes within the data -/

/-- Cuts bytes into runs, each behind a byte that says how long it is. -/
def runs? : List UInt8 → Option (List (List UInt8))
  | [] => some []
  | count :: rest =>
    if count.toNat ≤ rest.length then
      (runs? (rest.drop count.toNat)).map (rest.take count.toNat :: ·)
    else none
termination_by bytes => bytes.length
decreasing_by
  simp only [List.length_drop, List.length_cons]
  omega

/-- Whether a byte is an ASCII letter or digit. -/
def isAlphanumeric (b : UInt8) : Bool := Text.isAlphanumeric (Char.ofNat b.toNat)

/-- Whether a byte in a map of types may stand where it does: a window maps 256 types, so that
beyond 32 bytes no type is left to be set. -/
def isTypeByte (place : Nat) (b : UInt8) : Bool := place < 32 || b == 0

/-- Whether bytes are a map of types: windows, each a number, a count and so many bytes with a bit
for each type.  The last window may be cut off anywhere; an empty one can only be the last. -/
def isTypeMap : List UInt8 → Bool
  | _window :: count :: rest =>
    if rest.isEmpty then true
    else if count = 0 then false
    else
      ((rest.take count.toNat).mapIdx isTypeByte).all id && isTypeMap (rest.drop count.toNat)
  | _ => true
termination_by bytes => bytes.length

/-- Whether the value of a parameter of a service has the form that its key asks for. -/
def isParameterValue (key : Nat) (value : List UInt8) : Bool :=
  match key with
  | 0 => !value.isEmpty && value.length % 2 == 0
  | 1 => !value.isEmpty && (runs? value).any fun names =>
      names.all fun name => ByteArray.validateUTF8 ⟨name.toArray⟩
  | 2 => value.isEmpty
  | 3 => 2 ≤ value.length
  | 4 => value.length % 4 == 0
  | 6 => value.length % 16 == 0
  | _ => true

/-- Whether bytes are the parameters of a service: each a key, a length and a value, with keys that
go up and are at least a given one. -/
def areParameters (least : Nat) : List UInt8 → Bool
  | [] => true
  | k₁ :: k₂ :: n₁ :: n₂ :: rest =>
    let key := ofBytes [k₁, k₂]
    let count := ofBytes [n₁, n₂]
    least ≤ key && count ≤ rest.length && isParameterValue key (rest.take count)
      && areParameters (key + 1) (rest.drop count)
  | _ => false
termination_by bytes => bytes.length

/-- The option that tells for which network an answer is meant. -/
def networkOption : Nat := 8

/-- How many bytes an address of a family has, by the number of the family. -/
def addressSize? (family : Nat) : Option Nat :=
  match family with
  | 1 => some 4
  | 2 => some 16
  | _ => none

/-- Whether the data of an option has the form that its code asks for: a network is a family, the
length of its prefix, a scope, and the bytes of an address that the prefix reaches into. -/
def isOptionValue (code : Nat) (value : List UInt8) : Bool :=
  if code = networkOption then
    match value with
    | f₁ :: f₂ :: length :: _scope :: rest =>
      let reached := (length.toNat + 7) / 8
      (addressSize? (ofBytes [f₁, f₂])).any fun size => reached ≤ size && reached ≤ rest.length
    | _ => false
  else true

/-! ### Layouts -/

/-- A piece of the data of a record. -/
inductive Piece where
  /-- A fixed count of bytes. -/
  | fixed (count : Nat)
  /-- A name, which may be compressed. -/
  | name
  /-- Bytes behind their count. -/
  | counted
  /-- Letters and digits behind their count. -/
  | word
  /-- One to fifteen letters and digits behind their count. -/
  | tag
  /-- Bytes behind their counts, to the end of the data. -/
  | manyCounted
  /-- Two bytes of flags, in the second of which only the last two bits may be set. -/
  | twoFlags
  /-- A map of types, to the end of the data. -/
  | typeMap
  /-- Parameters of a service, to the end of the data. -/
  | parameters
  /-- Options, each a code and a length and bytes, to the end of the data. -/
  | options
  /-- All bytes to the end of the data. -/
  | rest
  deriving DecidableEq, Repr

/-- The pieces that the data of a record of a type is made of; none for a type that has no data. -/
def layout? (type : Nat) : Option (List Piece) :=
  match type with
  | 0 => some []
  | 1 => some [.fixed 4]
  | 28 => some [.fixed 16]
  | 2 | 5 | 12 | 65305 => some [.name]
  | 6 => some [.name, .name, .fixed 20]
  | 13 => some [.counted, .counted]
  | 15 => some [.fixed 2, .name]
  | 16 => some [.manyCounted]
  | 33 => some [.fixed 6, .name]
  | 35 => some [.fixed 4, .word, .counted, .counted, .name]
  | 37 => some [.fixed 5, .rest]
  | 41 => some [.options]
  | 44 => some [.fixed 2, .rest]
  | 52 => some [.fixed 3, .rest]
  | 62 => some [.fixed 4, .twoFlags, .typeMap]
  | 64 | 65 => some [.fixed 2, .name, .parameters]
  | 251 | 252 | 255 => none
  | 257 => some [.fixed 1, .tag, .rest]
  | _ => some [.rest]

/-- Passes over counted bytes until the end of the data is reached. -/
def passCounted? (m : Array UInt8) (stop pos : Nat) : Option Nat :=
  if pos < stop then
    if h : pos < m.size then
      let next := pos + 1 + (m[pos]).toNat
      if next ≤ m.size then passCounted? m stop next else none
    else none
  else some pos
termination_by m.size - pos

/-- Passes over options until the end of the data is reached; `length` is that of the data.  An
option that is cut off by the end is not looked into. -/
def passOptions? (m : Array UInt8) (length stop pos : Nat) : Option Nat :=
  if _h : pos < stop then
    if stop < pos + 4 then (if stop = pos + 2 then some stop else none)
    else match number? m 2 pos, number? m 2 (pos + 2) with
      | some (code, _), some (n, next) =>
        if length < n then none
        else if stop < next + n then some stop
        else if isOptionValue code (m.extract next (next + n)).toList then
          passOptions? m length stop (pos + 4 + n)
        else none
      | _, _ => none
  else some pos
termination_by stop - pos

/-- Passes over what is left of the data if it satisfies a test. -/
def passRest? (m : Array UInt8) (stop : Nat) (test : List UInt8 → Bool) (pos : Nat) : Option Nat :=
  if pos ≤ stop ∧ test (m.extract pos stop).toList then some stop else none

/-- Passes over one piece of data that ends at `stop`. -/
def pass? (m : Array UInt8) (length stop : Nat) (piece : Piece) (pos : Nat) : Option Nat :=
  match piece with
  | .fixed count => if pos + count ≤ m.size then some (pos + count) else none
  | .name => (name? m pos).map (·.2)
  | .counted => (counted? m pos).map (·.2)
  | .word => do
    let (text, pos) ← counted? m pos
    if text.all isAlphanumeric then some pos else none
  | .tag => do
    let (text, pos) ← counted? m pos
    if 1 ≤ text.length ∧ text.length ≤ 15 ∧ text.all isAlphanumeric then some pos else none
  | .manyCounted => passCounted? m stop pos
  | .twoFlags => do
    let (flags, pos) ← number? m 2 pos
    if flags % 256 < 4 then some pos else none
  | .typeMap => passRest? m stop isTypeMap pos
  | .parameters => passRest? m stop (areParameters 0) pos
  | .options => passOptions? m length stop pos
  | .rest => passRest? m stop (fun _ => true) pos

/-- Whether the data between two places is made of the pieces of its type and nothing else. -/
def fits (m : Array UInt8) (type start stop : Nat) : Bool :=
  match layout? type with
  | none => false
  | some pieces =>
    pieces.foldlM (fun pos piece => pass? m (stop - start) stop piece pos) start == some stop

end Firewall.Dns.Wire
