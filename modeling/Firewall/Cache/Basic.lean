/-
The cache of answered names.

The cache holds a record for each owner whose addresses it has seen answered, and
the sets that were restored from an earlier run and have not been answered again.
Both carry the set name that the registry has for their owner.  Records and
restored sets whose time is over stay until something is written, but no reader
sees them; a name is released as soon as neither a record nor a restored set
declares it.

A response first purges what is over at its own time.  Each family with addresses
in it gets a record with exactly those addresses; a family that was asked for and
came back without addresses has the addresses of its record cleared.
-/
import Firewall.Address.Endpoint
import Firewall.Cache.Registry
import Firewall.Dns.Observation
import Firewall.Name.Selector

namespace Firewall

/-- The addresses last answered for an owner, and until when they count. -/
structure Record where
  setName : String
  members : Ascending Address
  expiration : Instant
  deriving DecidableEq

namespace Record

/-- Whether the record still counts at a time. -/
def isLive (r : Record) (now : Instant) : Bool := now < r.expiration

/-- The record as a named set. -/
def toNamedSet (r : Record) (o : Owner) : NamedSet :=
  ⟨o.fqdn, r.setName, r.members.toList, r.expiration, o.family⟩

end Record

/-- The cache of answered names. -/
structure Cache where
  records : Dictionary Owner Record
  names : Registry
  restored : List NamedSet
  /-- The resolver that queries are forwarded to. -/
  forwarder : Endpoint
  deriving DecidableEq

namespace Cache

/-- The cache that has seen nothing. -/
def fresh (forwarder : Endpoint) : Cache := ⟨∅, ∅, [], forwarder⟩

/-! ### Purging -/

/-- Whether a record or a restored set carries the name of an owner. -/
def declares (c : Cache) (o : Owner) : Bool :=
  c.records.contains o || c.restored.any fun s => s.owner = o

/-- Drops what is over at a time, then the names that nothing declares any more. -/
def purge (c : Cache) (now : Instant) : Cache :=
  let kept := { c with
    records := c.records.filter fun _ r => r.isLive now
    restored := c.restored.filter (·.isLive now) }
  { kept with names := c.names.retain kept.declares }

/-- How many records and restored sets are over at a time. -/
def expiredCount (c : Cache) (now : Instant) : Nat :=
  c.records.entries.countP (fun e => !e.2.isLive now) + c.restored.countP (!·.isLive now)

/-! ### Restoring -/

/-- Takes up one saved set, if its name is free or its own; a set whose name is already restored is
not restored twice. -/
def restoreOne? (c : Cache) (s : NamedSet) : Option Cache := do
  let s := { s with fqdn := Name.fullyQualified s.fqdn }
  let names ← c.names.adopt? s.setName s.owner
  if c.restored.any fun r => r.setName = s.setName then none
  else some { c with names := names, restored := c.restored ++ [s] }

/-- Takes up saved sets one after the other, with the number taken up. -/
def restore (c : Cache) (sets : List NamedSet) : Cache × Nat :=
  sets.foldl (fun (c, n) s => match c.restoreOne? s with
    | some c => (c, n + 1)
    | none => (c, n)) (c, 0)

/-! ### Responses -/

/-- What a response does to the owner of one family, and whether the members changed. -/
def observeFamily (c : Cache) (seen : Instant) (o : Dns.Observation) (family : Family) :
    Cache × Bool :=
  let owner : Owner := ⟨o.name, family⟩
  let known := c.records.get? owner
  if o.ofFamily family = [] then
    match known with
    | some r =>
      if o.askedFor family && !r.members.isEmpty then
        ({ c with records := c.records.insert owner { r with members := ∅ } }, true)
      else (c, false)
    | none => (c, false)
  else
    let expiration := seen.addSeconds (o.ttl family)
    let record : Record := match known with
      | some r => { r with members := o.members family, expiration := expiration }
      | none => ⟨c.names.nameFor owner, o.members family, expiration⟩
    let changed := match known with
      | some r => r.members != o.members family
      | none => true
    ({ c with
        records := c.records.insert owner record
        names := c.names.register owner
        restored := c.restored.filter fun s => s.owner ≠ owner }, changed)

/-- What an observation does to the cache, and whether the members of any set changed. -/
def observe (c : Cache) (seen : Instant) (o : Dns.Observation) : Cache × Bool :=
  Family.all.foldl (fun (c, changed) family =>
    let (c, changedHere) := c.observeFamily seen o family
    (c, changed || changedHere)) (c.purge seen, false)

/-- Applies a response seen at a time; a message that tells nothing leaves the cache as it was. -/
def apply (c : Cache) (seen : Instant) (m : Dns.Message) : Except Dns.Malformed (Cache × Bool) :=
  (Dns.Observation.ofMessage m).map (c.observe seen)

/-! ### Reading -/

/-- The sets of the records that count at a time. -/
def liveSets (c : Cache) (now : Instant) : List NamedSet :=
  (c.records.entries.filter fun e => e.2.isLive now).map fun e => e.2.toNamedSet e.1

/-- The restored sets that count at a time. -/
def liveRestored (c : Cache) (now : Instant) : List NamedSet := c.restored.filter (·.isLive now)

/-- The sets that a selector selects at a time, by owner.  Restored sets stand in for owners that
have no live record, where sets to be saved are asked for. -/
def setsFor (c : Cache) (selector : Selector) (forPersist : Bool) (now : Instant) : List NamedSet :=
  let restored := if forPersist then c.liveRestored now else []
  let sets := (c.liveSets now ++ restored).filter fun s => selector.selects s.fqdn
  (sets.foldl (fun d s => d.insertNew s.owner s) (∅ : Dictionary Owner NamedSet)).values

/-- Every set that counts at a time, by set name; of a record and a restored set with one name the
record's. -/
def setsForRendering (c : Cache) (now : Instant) : List NamedSet :=
  ((c.liveSets now ++ c.liveRestored now).foldl (fun d s => d.insertNew s.setName s)
    (∅ : Dictionary String NamedSet)).values

/-- The cache that forwards queries to another resolver. -/
def setForwarder (c : Cache) (forwarder : Endpoint) : Cache := { c with forwarder := forwarder }

end Cache

end Firewall
