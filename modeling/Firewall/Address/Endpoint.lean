/-
Endpoints: an address and a port number, as resolvers and listeners are named.

The text of an IPv6 endpoint has brackets around the address, and inside them,
behind a percent sign, the number of the interface that a link-local address
belongs to, if it has one.
-/
import Firewall.Address.Printer
import Firewall.Address.Reader

namespace Firewall

/-- A port number. -/
abbrev PortNumber := Fin 65536

/-- The port of name servers. -/
def dnsPort : PortNumber := ⟨53, by decide⟩

/-- An address and a port number. -/
structure Endpoint where
  address : Address
  port : PortNumber
  /-- The number of the interface for a link-local IPv6 address, zero for none. -/
  scope : Nat := 0
  deriving DecidableEq

namespace Endpoint

instance : Inhabited Endpoint := ⟨default, 0, 0⟩

/-- Reads a port number; zeros in front are allowed. -/
def readPort? (cs : List Char) : Option PortNumber := do
  let n ← Text.readDecimal? cs
  if h : n < 65536 then some ⟨n, h⟩ else none

/-- Reads the number of an interface, at most 32 bits long. -/
def readScope? (cs : List Char) : Option Nat := do
  let n ← Text.readDecimal? cs
  if n < 0x100000000 then some n else none

/-- Reads what stands between the brackets of an IPv6 endpoint. -/
def readBracketed? (cs : List Char) : Option (Address × Nat) :=
  match Text.cut '%' cs with
  | none => (Address.readV6? .strict cs).map fun a => (a, 0)
  | some (before, after) => do
    let a ← Address.readV6? .strict before
    let scope ← readScope? after
    return (a, scope)

/-- Reads the characters of an endpoint. -/
def read? : List Char → Option Endpoint
  | '[' :: rest => do
    let (inside, after) ← Text.cut ']' rest
    let (address, scope) ← readBracketed? inside
    match after with
    | ':' :: digits => return ⟨address, ← readPort? digits, scope⟩
    | _ => none
  | cs => do
    let (before, after) ← Text.cut ':' cs
    let address ← Address.readV4? .strict before
    return ⟨address, ← readPort? after, 0⟩

/-- Reads the text of an endpoint. -/
def ofText? (s : String) : Option Endpoint := read? s.toList

/-- The text of an endpoint. -/
def text (e : Endpoint) : String :=
  match e.address.family with
  | .v4 => e.address.text ++ ":" ++ toString e.port.val
  | .v6 =>
    let scope := if e.scope = 0 then "" else "%" ++ toString e.scope
    "[" ++ e.address.text ++ scope ++ "]:" ++ toString e.port.val

end Endpoint

end Firewall
