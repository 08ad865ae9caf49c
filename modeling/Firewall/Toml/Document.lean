/-
Reading a TOML document.

A document is a sequence of lines, each a header, an assignment or nothing.  The
table that assignments go to is kept as the path of the last header.  Values may
be nested in arrays and inline tables, eighty deep at most.

Reading a value is bounded by fuel.  Every call takes at least half a character
of the document with it, so twice its length is enough, and `ofText?` shows none
of it.
-/
import Firewall.Toml.Scalar
import Firewall.Toml.Text

namespace Firewall.Toml

/-- How deep arrays and inline tables may be nested. -/
def maxDepth : Nat := 80

/-- Reads the key of an entry of an inline table up to its value.  Lines may end
on both sides of the equals sign. -/
def readEntryKey? (cs : List Char) : Option ((List String × String) × List Char) := do
  let (key, rest) ← readKey? cs
  match ← skipTrivia? false rest with
  | '=' :: rest => return (key, ← skipTrivia? false rest)
  | _ => none

mutual

/-- Reads a value that may be nested `depth` deep. -/
def readValue? : (fuel depth : Nat) → List Char → Option (Value × List Char)
  | 0, _, _ => none
  | fuel + 1, depth, cs =>
    match cs with
    | '"' :: _ | '\'' :: _ => (readString? cs).map fun (s, rest) => (.string s, rest)
    | '[' :: rest =>
      if depth = 0 then none
      else (readItems? fuel (depth - 1) rest).map fun (items, rest) => (.array false items, rest)
    | '\x7b' :: rest =>
      if depth = 0 then none
      else (readEntries? fuel (depth - 1) (.empty .inlined) rest).map fun (t, rest) =>
        (t.toValue, rest)
    | cs => readScalar? cs

/-- Reads the elements of an array up to its closing bracket. -/
def readItems? : (fuel depth : Nat) → List Char → Option (List Value × List Char)
  | 0, _, _ => none
  | fuel + 1, depth, cs =>
    match skipTrivia? false cs with
    | none => none
    | some (']' :: rest) => some ([], rest)
    | some cs =>
      match readValue? fuel depth cs with
      | none => none
      | some (v, rest) =>
        match skipTrivia? false rest with
        | some (',' :: rest) =>
          (readItems? fuel depth rest).map fun (items, rest) => (v :: items, rest)
        | some (']' :: rest) => some ([v], rest)
        | _ => none

/-- Reads the entries of an inline table up to its closing brace, adding them to a table. -/
def readEntries? : (fuel depth : Nat) → Table → List Char → Option (Table × List Char)
  | 0, _, _, _ => none
  | fuel + 1, depth, t, cs =>
    match skipTrivia? false cs with
    | none => none
    | some ('\x7d' :: rest) => some (t, rest)
    | some cs =>
      match readEntryKey? cs with
      | none => none
      | some ((path, key), rest) =>
        match readValue? fuel depth rest with
        | none => none
        | some (v, rest) =>
          match t.addKey? path key v, skipTrivia? false rest with
          | some t, some (',' :: rest) => readEntries? fuel depth t rest
          | some t, some ('\x7d' :: rest) => some (t, rest)
          | _, _ => none

end

/-- A document as far as it is read: its root, and the path of the last header. -/
structure Document where
  root : Table := .empty .header
  current : List String := []

/-- Reads a header line, its first bracket being read already. -/
def readHeader? (d : Document) (cs : List Char) : Option (Document × List Char) :=
  match cs with
  | '[' :: rest => do
    let ((path, key), rest) ← readKey? rest
    match rest with
    | ']' :: ']' :: rest => return (⟨← d.root.addElement? path key, path ++ [key]⟩, rest)
    | _ => none
  | rest => do
    let ((path, key), rest) ← readKey? rest
    match rest with
    | ']' :: rest => return (⟨← d.root.addHeader? path key, path ++ [key]⟩, rest)
    | _ => none

/-- Reads an assignment to the current table. -/
def readAssignment? (d : Document) (cs : List Char) : Option (Document × List Char) := do
  let ((path, key), rest) ← readKey? cs
  match rest with
  | '=' :: rest => do
    let rest := skipSpace rest
    let (v, rest) ← readValue? (2 * rest.length + 2) maxDepth rest
    let root ← d.root.at? false (fun t => t.addKey? path key v) d.current
    return ({ d with root := root }, rest)
  | _ => none

/-- Reads lines until the document ends; at most `fuel` of them. -/
def readDocument? : (fuel : Nat) → Document → List Char → Option Document
  | 0, _, _ => none
  | fuel + 1, d, cs =>
    match skipSpace cs with
    | [] => some d
    | '[' :: rest => do
      let (d, rest) ← readHeader? d rest
      readDocument? fuel d (← readLineEnd? rest)
    | c :: rest =>
      if c = '#' ∨ c = '\n' ∨ c = '\r' then do
        readDocument? fuel d (← readLineEnd? (c :: rest))
      else do
        let (d, rest) ← readAssignment? d (c :: rest)
        readDocument? fuel d (← readLineEnd? rest)

/-- Drops the mark of the byte order, if the text begins with it. -/
def withoutMark : List Char → List Char
  | '\ufeff' :: rest => rest
  | cs => cs

/-- Reads a document. -/
def ofText? (text : String) : Option Value :=
  let cs := withoutMark text.toList
  (readDocument? (cs.length + 1) {} cs).map fun d => d.root.toValue

end Firewall.Toml
