/-
The resolver configuration of the system.

The file is read line by line.  A line is a keyword and words after it; what
follows the first `;` or `#` is a comment.  Every line has to be right, also those
that say nothing about where to send queries: one unknown keyword, one malformed
address, and nothing is taken from the file; only words with a comma among the names
to search in are passed over.  `forwarder` then picks the first
IPv4 name server, and the first of any family if there is none.
-/
import Firewall.Address.Endpoint
import Firewall.Name.Basic
import Firewall.Name.International
import Firewall.Unicode.Letter

namespace Firewall.Resolver

open Text (cut pieces readDecimal? wordsBy)

/-- What the file says, as far as it is used. -/
structure Configuration where
  nameServers : List Address := []
  /-- The names to search in, of the last line that gives any. -/
  searchList : List (List Char) := []
  deriving DecidableEq

/-! ### The words of a line -/

/-- Whether a text is a number of 32 bits, with a plus sign in front or without. -/
def isCount (cs : List Char) : Bool :=
  let digits := match cs with
    | '+' :: rest => rest
    | cs => cs
  match readDecimal? digits with
  | some n => n < 0x100000000
  | none => false

/-- Reads the address of a name server; an IPv6 address may name its interface, which is dropped. -/
def readServer? (word : List Char) : Option Address :=
  match cut '%' word with
  | none => Address.read? .strict word
  | some (before, after) =>
    let interface := (pieces '%' after).headD []
    if !interface.isEmpty && interface.all Unicode.isLetterOrNumber then
      Address.readV6? .strict before
    else none

/-- The options that are a word alone. -/
def flags : List String :=
  ["debug", "rotate", "no-check-names", "inet6", "ip6-bytestring", "ip6-dotint", "no-ip6-dotint",
   "edns0", "single-request", "single-request-reopen", "no-reload", "trust-ad", "no-tld-query",
   "use-vc", "no-aaaa"]

/-- The options that have a number behind a colon. -/
def counts : List String := ["ndots", "timeout", "attempts"]

/-- Whether an option is known and well formed; what follows the colon of a flag does not matter. -/
def isOption (word : List Char) : Bool :=
  match cut ':' word with
  | none => flags.contains (String.ofList word)
  | some (key, value) =>
    flags.contains (String.ofList key) || (counts.contains (String.ofList key) && isCount value)

/-- Whether a word is a network to sort by: an address with a mask behind a slash, or an address
alone, which then is not the IPv4 address of zeros. -/
def isNetwork (word : List Char) : Bool :=
  match cut '/' word with
  | none =>
    (Address.readV4? .strict word).any (!·.isUnspecified) || (Address.readV6? .strict word).isSome
  | some (address, mask) =>
    ((Address.readV4? .strict address).isSome && (Address.readV4? .strict mask).isSome)
      || ((Address.readV6? .strict address).isSome && (Address.readV6? .strict mask).isSome)

/-! ### Names to search in -/

/-- Whether a label in ASCII may stand in a name to search in. -/
def isSearchLabel : List Char → Bool
  | [] => false
  | first :: rest =>
    let plain (c : Char) := Text.isAlphanumeric c || c == '_' || c == '.'
    (plain first || first == '*') && rest.all (fun c => plain c || c == '-') && rest.length < 63

/-- A label in ASCII as it is. -/
def plainLabel? (label : List Char) : Option (List Char) := if isSearchLabel label then some label
    else none

/-- A label in ASCII that may have been brought into it.  A star alone and what begins with an
underscore are no words of any language. -/
def internationalLabel? (label : List Char) : Option (List Char) :=
  if label = ['*'] ∨ label.head? = some '_' then plainLabel? label
  else (Name.International.toAscii? label).bind plainLabel?

/-- The labels of a name to search in, the first of which begins with the characters given, the last
of them in front.  Behind a backslash stands any character but a number as itself, or three octal
digits for the character of that number; what is cut off by the end of the name is left out. -/
def searchLabels? (begun : List Char) : List Char → Option (List (List Char))
  | [] => some (if begun.isEmpty then [] else [begun.reverse])
  | '.' :: rest => (searchLabels? [] rest).map (begun.reverse :: ·)
  | '\\' :: c :: rest =>
    if !Unicode.isNumber c then searchLabels? (c :: begun) rest
    else if !(c :: rest.take 2).all (Text.isDigitOf 8) then none
    else match rest with
      | d :: e :: rest => searchLabels? (Char.ofNat (Text.ofDigits 8 [c, d, e]) :: begun) rest
      | _ => searchLabels? begun []
  | '\\' :: [] => searchLabels? begun []
  | c :: rest => searchLabels? (c :: begun) rest

/-- Whether labels make a name of at most 255 bytes. -/
def fitsName (labels : List (List Char)) : Bool := Name.wireLength labels ≤ 255

/-- Whether a name may be searched in; two dashes stand for none.  Its labels are all taken as they
are or all as international ones. -/
def isSearchName (word : List Char) : Bool :=
  word == ['-', '-'] || word == ['.'] || (searchLabels? [] word).any fun labels =>
    (labels.mapM plainLabel?).any fitsName || (labels.mapM internationalLabel?).any fitsName

/-! ### The lines of the file -/

/-- What a line adds, or nothing if it is wrong. -/
def addLine (c : Configuration) (line : List Char) : Option Configuration :=
  let text := line.takeWhile fun ch => ch != ';' && ch != '#'
  match wordsBy Text.isBlank text with
  | [] => some c
  | keyword :: words =>
    match String.ofList keyword, words with
    | "nameserver", [word] =>
      (readServer? word).map fun a => { c with nameServers := c.nameServers ++ [a] }
    | "domain", [word] => some { c with searchList := [word] }
    | "search", words => some { c with searchList := words.filter fun word => !word.contains ',' }
    | "sortlist", words => if words.all isNetwork then some c else none
    | "options", words => if words.all isOption then some c else none
    | "lookup", _ => some c
    | "family", words =>
      if words.all fun w => String.ofList w == "inet4" || String.ofList w == "inet6" then some c
      else none
    | _, _ => none

/-- Reads the file. -/
def ofText? (text : String) : Option Configuration := do
  let c ← (pieces '\n' text.toList).foldlM addLine {}
  if c.searchList.all isSearchName && !c.nameServers.isEmpty then some c else none

/-! ### Choosing a name server -/

/-- Why there is no name server to forward to. -/
inductive Fault where
  /-- The file is missing, cannot be read or is wrong. -/
  | unusable
  /-- There is none left after those of the machine itself are dropped. -/
  | noNameServer
  deriving DecidableEq, Repr

/-- The first IPv4 address, or else the first. -/
def preferred? (addresses : List Address) : Option Address :=
  (addresses.find? fun a => a.family = .v4).or addresses.head?

/-- The name server to forward to, given the text of the file if it can be read; those of the
machine itself may be skipped, for they would ask back. -/
def forwarder (text : Option String) (skipLoopback : Bool) : Except Fault Endpoint :=
  match text.bind ofText? with
  | none => .error .unusable
  | some c =>
    match preferred? (c.nameServers.filter fun a => !(skipLoopback && a.isLoopback)) with
    | none => .error .noNameServer
    | some a => .ok ⟨a, dnsPort, 0⟩

end Firewall.Resolver
