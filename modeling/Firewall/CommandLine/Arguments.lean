/-
The arguments of a command line.

Words are read from the left.  An option that takes a path is settled only when
the next option comes, or the end: by then it must have got a path, a nonempty one,
and must not have been given before.  A word that means nothing is reported at
once, whatever is still open.
-/
import Firewall.Text.Split

namespace Firewall

/-- What a run is asked for. -/
structure Arguments where
  config : Option String := none
  snapshot : Option String := none
  once : Bool := false
  dryRun : Bool := false
  deriving DecidableEq, Repr

/-- Why no run begins. -/
inductive Stop where
  | unknownArgument
  /-- An option has no path, or an empty one. -/
  | invalidValue
  /-- An option that takes nothing is given something. -/
  | tooManyValues
  /-- An option is given twice. -/
  | argumentConflict
  | help
  | version
  deriving DecidableEq, Repr

namespace Arguments

/-- The options that take a path. -/
inductive PathOption where
  | config
  | snapshot
  deriving DecidableEq, Repr

namespace PathOption

/-- The path that an option was given. -/
def value? : PathOption → Arguments → Option String
  | config, a => a.config
  | snapshot, a => a.snapshot

/-- Gives an option a path. -/
def assign : PathOption → String → Arguments → Arguments
  | config, path, a => { a with config := some path }
  | snapshot, path, a => { a with snapshot := some path }

end PathOption

/-- The options that take nothing. -/
inductive Flag where
  | once
  | dryRun
  | help
  | version
  deriving DecidableEq, Repr

/-- A long option. -/
inductive LongOption where
  | path (o : PathOption)
  | flag (f : Flag)
  deriving DecidableEq, Repr

/-- The long option of a name. -/
def LongOption.ofName? : String → Option LongOption
  | "config" => some (.path .config)
  | "snapshot" => some (.path .snapshot)
  | "once" => some (.flag .once)
  | "dry-run" => some (.flag .dryRun)
  | "help" => some (.flag .help)
  | "version" => some (.flag .version)
  | _ => none

/-- A word. -/
inductive Word where
  /-- What is behind it is no option any more. -/
  | escape
  | long (name : String) (value : Option String)
  /-- A word that starts with one dash; only the first letter behind it counts. -/
  | short (letter : Char)
  | plain (text : String)
  deriving DecidableEq, Repr

/-- Reads a word. -/
def Word.ofText (text : String) : Word :=
  match text.toList with
  | ['-', '-'] => .escape
  | '-' :: '-' :: rest => match Text.cut '=' rest with
    | some (name, value) => .long (String.ofList name) (some (String.ofList value))
    | none => .long (String.ofList rest) none
  | '-' :: letter :: _ => .short letter
  | _ => .plain text

/-- What was read so far. -/
structure Progress where
  arguments : Arguments := {}
  /-- The option that is not settled yet, with its path if it has got one. -/
  pending : Option (PathOption × Option String) := none

namespace Progress

/-- Settles an option. -/
def settleOption (a : Arguments) : PathOption × Option String → Except Stop Arguments
  | (_, none) => .error .invalidValue
  | (o, some path) =>
    if (o.value? a).isSome then .error .argumentConflict
    else if path = "" then .error .invalidValue
    else .ok (o.assign path a)

/-- Settles the option that is not settled yet. -/
def settle (p : Progress) : Except Stop Arguments :=
  match p.pending with
  | none => .ok p.arguments
  | some pending => settleOption p.arguments pending

/-- What an option that takes nothing does. -/
def flag (p : Progress) (f : Flag) : Except Stop Progress := do
  let a ← p.settle
  match f with
  | .once => if a.once then throw .argumentConflict else return ⟨{ a with once := true }, none⟩
  | .dryRun =>
    if a.dryRun then throw .argumentConflict else return ⟨{ a with dryRun := true }, none⟩
  | .help => throw .help
  | .version => throw .version

/-- What a word does. -/
def word (p : Progress) : Word → Except Stop Progress
  | .escape => .ok p
  | .long name value =>
    match LongOption.ofName? name, value with
    | none, _ => .error .unknownArgument
    | some (.flag _), some _ => .error .tooManyValues
    | some (.flag f), none => p.flag f
    | some (.path o), none => return ⟨← p.settle, some (o, none)⟩
    | some (.path o), some path => return ⟨← settleOption (← p.settle) (o, some path), none⟩
  | .short 'h' => p.flag .help
  | .short 'V' => p.flag .version
  | .short _ => .error .unknownArgument
  | .plain text =>
    match p.pending with
    | some (o, none) => .ok ⟨p.arguments, some (o, some text)⟩
    | _ => .error .unknownArgument

/-- What words do. -/
def words (p : Progress) : List String → Except Stop Arguments
  | [] => p.settle
  | text :: rest =>
    match Word.ofText text with
    | .escape => if rest.isEmpty then p.settle else .error .unknownArgument
    | w => do words (← p.word w) rest

end Progress

/-- Reads the words behind the name of the program. -/
def parse (words : List String) : Except Stop Arguments := Progress.words {} words

end Arguments

end Firewall
