/-
How the cache is kept.

A `Cache` says of each owner what its record is and what its set is called.  A running cache
keeps three tables for that: of host names, each with a place for a record of either family; of
owners, each with its set name; and of set names, each with its owner.  An operation brings
each of them up to date by itself, so it is up to the operations that the tables agree.
-/
import Firewall.Cache.Basic

namespace Firewall

/-! ### What is kept for a host name -/

/-- What is kept for a host name: for each family a record, or none. -/
abbrev Entry := PerFamily (Option Record)

namespace Entry

/-- Whether there is a record of neither family. -/
def isEmpty (e : Entry) : Bool := e.v4.isNone && e.v6.isNone

/-- Drops the record of one family if it is over, with how many records were dropped. -/
def dropOver (e : Entry) (now : Instant) (family : Family) : Entry × Nat :=
  if (e.get family).any (!·.isLive now) then (e.modify family fun _ => none, 1) else (e, 0)

/-- Drops the records that are over, with how many there were. -/
def purge (e : Entry) (now : Instant) : Entry × Nat :=
  Family.all.foldl (fun (e, dropped) family =>
    let (e, here) := dropOver e now family
    (e, dropped + here)) (e, 0)

end Entry

/-! ### Set names, both ways round -/

/-- The set names in use, kept under their owners and again with the owners under the names. -/
structure NameTables where
  byOwner : Dictionary Owner String
  owners : Dictionary String Owner
  deriving DecidableEq

namespace NameTables

/-- The first candidate of an owner that belongs to nobody. -/
def freshName (n : NameTables) (o : Owner) : String :=
  let isFree := fun k => !n.owners.contains (Registry.candidate o k)
  ((List.range (n.owners.size + 1)).find? isFree).elim (Registry.baseName o) (Registry.candidate o)

/-- Enters a name and its owner in both tables. -/
def enter (n : NameTables) (name : String) (o : Owner) : NameTables :=
  ⟨n.byOwner.insert o name, n.owners.insert name o⟩

/-- The name of an owner, a fresh one if it has none. -/
def register (n : NameTables) (o : Owner) : NameTables × String :=
  match n.byOwner.get? o with
  | some name => (n, name)
  | none => (n.enter (n.freshName o) o, n.freshName o)

/-- Gives an owner a name; refused when the name is another's, or the owner has another name. -/
def adopt? (n : NameTables) (name : String) (o : Owner) : Option NameTables :=
  match n.owners.get? name with
  | some other => if other = o then some n else none
  | none => if n.byOwner.contains o then none else some (n.enter name o)

/-- Goes through both tables and keeps the owners that satisfy a test. -/
def retain (keep : Owner → Bool) (n : NameTables) : NameTables :=
  ⟨n.byOwner.filter fun o _ => keep o, n.owners.filter fun _ o => keep o⟩

end NameTables

/-! ### All that is kept -/

/-- What a running cache keeps. -/
structure Tables where
  entries : Dictionary String Entry
  names : NameTables
  restored : List NamedSet
  forwarder : Endpoint
  deriving DecidableEq

namespace Tables

/-- The tables of a cache that has seen nothing. -/
def fresh (forwarder : Endpoint) : Tables := ⟨∅, ⟨∅, ∅⟩, [], forwarder⟩

/-- The record in the place of an owner. -/
def record? (t : Tables) (o : Owner) : Option Record :=
  (t.entries.get? o.fqdn).bind fun e => e.get o.family

/-- Puts a record in the place of an owner; a host name without an entry gets one. -/
def setRecord (t : Tables) (o : Owner) (r : Record) : Tables :=
  { t with entries := t.entries.alter o.fqdn fun e =>
      (e.getD default).modify o.family fun _ => some r }

/-- Whether a record or a restored set carries the name of an owner. -/
def declares (t : Tables) (o : Owner) : Bool :=
  (t.record? o).isSome || t.restored.any fun s => s.owner = o

/-- Drops the records that are over and the entries that are empty then, and the restored sets
that are over. -/
def dropOver (t : Tables) (now : Instant) : Tables :=
  { t with
    entries := t.entries.filterMap fun e =>
      (some (Entry.purge e now).1).filter fun e => !Entry.isEmpty e
    restored := t.restored.filter (·.isLive now) }

/-- Drops what is over at a time, then the names that nothing declares any more; with how many
records and restored sets were dropped. -/
def purge (t : Tables) (now : Instant) : Tables × Nat :=
  let kept := t.dropOver now
  ({ kept with names := kept.names.retain kept.declares },
    t.entries.values.foldl (fun dropped e => dropped + (Entry.purge e now).2) 0 +
      (t.restored.length - kept.restored.length))

/-- Takes up one saved set if its name is free or its own, unless a restored set has that name;
with whether it was taken up. -/
def restoreOne (t : Tables) (s : NamedSet) : Tables × Bool :=
  let s := { s with fqdn := Name.fullyQualified s.fqdn }
  match t.names.adopt? s.setName s.owner with
  | none => (t, false)
  | some names =>
    let t := { t with names := names }
    if t.restored.any fun r => r.setName = s.setName then (t, false)
    else ({ t with restored := t.restored ++ [s] }, true)

/-- Takes up saved sets one after the other, with the number taken up. -/
def restore (t : Tables) (sets : List NamedSet) : Tables × Nat :=
  sets.foldl (fun (t, n) s =>
    let (t, taken) := t.restoreOne s
    (t, n + taken.toNat)) (t, 0)

/-- What a response does to the owner of one family, and whether the members changed. -/
def observeFamily (t : Tables) (seen : Instant) (o : Dns.Observation) (family : Family) :
    Tables × Bool :=
  let owner : Owner := ⟨o.name, family⟩
  if o.ofFamily family = [] then
    match t.record? owner with
    | some r =>
      if o.askedFor family && !r.members.isEmpty then
        (t.setRecord owner { r with members := ∅ }, true)
      else (t, false)
    | none => (t, false)
  else
    let expiration := seen.addSeconds (o.ttl family)
    let (names, setName) := t.names.register owner
    let t := { t with names := names, restored := t.restored.filter fun s => s.owner ≠ owner }
    match t.record? owner with
    | some r =>
      (t.setRecord owner { r with members := o.members family, expiration := expiration },
        r.members != o.members family)
    | none => (t.setRecord owner ⟨setName, o.members family, expiration⟩, true)

/-- What an observation does to the tables, and whether the members of any set changed. -/
def observe (t : Tables) (seen : Instant) (o : Dns.Observation) : Tables × Bool :=
  Family.all.foldl (fun (t, changed) family =>
    let (t, changedHere) := t.observeFamily seen o family
    (t, changed || changedHere)) ((t.purge seen).1, false)

/-- Applies a response seen at a time; a message that tells nothing leaves the tables alone. -/
def apply (t : Tables) (seen : Instant) (m : Dns.Message) :
    Except Dns.Malformed (Tables × Bool) :=
  (Dns.Observation.ofMessage m).map (t.observe seen)

/-- The tables of a cache that forwards queries to another resolver. -/
def setForwarder (t : Tables) (forwarder : Endpoint) : Tables := { t with forwarder := forwarder }

end Tables

end Firewall
