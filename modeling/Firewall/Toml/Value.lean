/-
TOML values.

A table remembers how it came to be, for that decides what may still be added to
it: an inline table is closed where it ends, a table with a header may be given
subtables but no second header, a table that exists only because of a longer
header may still be given its own, and one made by dotted keys may be given more
keys in that way.
-/
namespace Firewall.Toml

/-- How a table came to be. -/
inductive TableKind where
  /-- By a header of its own, or as the root of the document. -/
  | header
  /-- As what holds a table with a longer header. -/
  | implied
  /-- By dotted keys. -/
  | dotted
  /-- Between braces. -/
  | inlined
  deriving DecidableEq, Repr

/-- A TOML value.  What floats and dates stand for is not kept. -/
inductive Value where
  | string (s : String)
  | integer (n : Int)
  | float
  /-- What has the form of a number and stands for none, or for one that is too large to be kept. -/
  | unreadable
  | boolean (b : Bool)
  | dateTime
  /-- An array, and whether its elements are tables with headers. -/
  | array (ofTables : Bool) (items : List Value)
  | table (kind : TableKind) (entries : List (String × Value))
  deriving Repr

mutual

/-- Whether a value can be read all the way down. -/
def Value.isReadable : Value → Bool
  | .unreadable => false
  | .array _ items => areReadable items
  | .table _ entries => haveReadable entries
  | .string _ | .integer _ | .float | .boolean _ | .dateTime => true

/-- Whether all values can be read. -/
def areReadable : List Value → Bool
  | [] => true
  | v :: rest => v.isReadable && areReadable rest

/-- Whether the values of all entries can be read. -/
def haveReadable : List (String × Value) → Bool
  | [] => true
  | (_, v) :: rest => v.isReadable && haveReadable rest

end

/-- The value under a key. -/
def lookup? (entries : List (String × Value)) (key : String) : Option Value :=
  (entries.find? fun e => e.1 == key).map (·.2)

/-- Replaces the value under a key, or adds it at the end. -/
def replace (entries : List (String × Value)) (key : String) (v : Value) : List (String × Value) :=
  match entries with
  | [] => [(key, v)]
  | e :: rest => if e.1 = key then (key, v) :: rest else e :: replace rest key v

/-! ### Growing a document -/

/-- A table, open for additions. -/
structure Table where
  kind : TableKind
  entries : List (String × Value)

/-- The table without entries. -/
def Table.empty (kind : TableKind) : Table := ⟨kind, []⟩

/-- The table as a value. -/
def Table.toValue (t : Table) : Value := .table t.kind t.entries

/-- Changes the table at the end of a path.  Tables that are missing on the way are made; of an
array of tables the last one is meant.  Dotted keys do not lead into a table that has a header. -/
def Table.at? (dotted : Bool) (change : Table → Option Table) : List String → Table → Option Table
  | [], t => change t
  | key :: path, t => do
    let value ← match lookup? t.entries key with
      | none =>
        (at? dotted change path (.empty (if dotted then .dotted else .implied))).map Table.toValue
      | some (.table kind entries) =>
        if kind = .inlined ∨ (dotted ∧ kind = .header) then none
        else (at? dotted change path ⟨kind, entries⟩).map Table.toValue
      | some (.array true items) =>
        match items.getLast? with
        | some (.table kind entries) =>
          (at? dotted change path ⟨kind, entries⟩).map fun t =>
            .array true (items.dropLast ++ [t.toValue])
        | _ => none
      | some _ => none
    return { t with entries := replace t.entries key value }

/-- Adds a key with a value to a table, at the end of a path of dotted keys.  The key must be new,
and the table must be one made by dotted keys exactly if there is a path. -/
def Table.addKey? (path : List String) (key : String) (v : Value) (t : Table) : Option Table :=
  t.at? true (fun t =>
    if (t.kind == .dotted) == path.isEmpty then none
    else if (lookup? t.entries key).isSome then none
    else some { t with entries := t.entries ++ [(key, v)] }) path

/-- Gives a table its header: it must be new, or implied by a longer header. -/
def Table.addHeader? (path : List String) (key : String) (t : Table) : Option Table :=
  t.at? false (fun t =>
    match lookup? t.entries key with
    | none => some { t with entries := replace t.entries key (.table .header []) }
    | some (.table .implied entries) =>
      some { t with entries := replace t.entries key (.table .header entries) }
    | some _ => none) path

/-- Adds a table to an array of tables, which is made if it is missing. -/
def Table.addElement? (path : List String) (key : String) (t : Table) : Option Table :=
  t.at? false (fun t =>
    match lookup? t.entries key with
    | none => some { t with entries := replace t.entries key (.array true [.table .header []]) }
    | some (.array true items) =>
      some { t with entries := replace t.entries key (.array true (items ++ [.table .header []])) }
    | some _ => none) path

end Firewall.Toml
